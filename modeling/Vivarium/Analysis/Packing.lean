import Vivarium.Text.Quoted

/-!
Ledgers whose names say that they are packed. A ledger is kept plain, so what is found under such a
name is not what the name says.
-/
namespace Vivarium.Analysis

inductive Packing
  | tar | zip | gzip | bzip2 | xz
  deriving DecidableEq, Repr

inductive PackingError
  | noZip
  /-- The first two bytes of a file are no mark of its form. -/
  | noGzip (mark : List UInt8)
  | noStream
  | noForm
  | ended
  /-- What is wrong with the header, and whether there is any. -/
  | noTar (empty : Bool) (header : String)
  deriving DecidableEq, Repr

namespace PackingError

/-- Bytes between quotes; those that are no characters of ASCII are escaped. -/
def quotedBytes (bytes : List UInt8) : String :=
  let cs := bytes.map fun b => Char.ofNat b.toNat
  let q := Text.quoteFor (.ofList cs)
  let shown (c : Char) : String :=
    if c.toNat < 128 then Text.escape q c else "\\x" ++ Text.hex 2 c.toNat
  s!"b{q}" ++ String.join (cs.map shown) ++ .ofList [q]

def message : PackingError → String
  | .noZip => "File is not a zip file"
  | .noGzip mark => s!"Not a gzipped file ({quotedBytes mark})"
  | .noStream => "Invalid data stream"
  | .noForm => "Input format not supported by decoder"
  | .ended => "Compressed file ended before the end-of-stream marker was reached"
  | .noTar empty header =>
    let gzip := if empty then "empty file" else "not a gzip file"
    let tries := [("gz", gzip), ("bz2", "not a bzip2 file"), ("xz", "not an lzma file"),
      ("tar", header)]
    "file could not be opened successfully:" ++
      String.join (tries.map fun (method, fault) => s!"\n- method {method}: ReadError('{fault}')")

end PackingError

namespace Packing

/-- The endings of names, those of archives first. -/
def endings : List (String × Packing) := [
  (".tar", .tar), (".tar.gz", .tar), (".tar.bz2", .tar), (".tar.xz", .tar), (".gz", .gzip),
  (".bz2", .bzip2), (".zip", .zip), (".xz", .xz)]

/-- What a name in letters of either case says. -/
def ofPath? (path : String) : Option Packing :=
  let cs := path.toList.map Char.toLower
  (endings.find? fun (ending, _) => ending.toList.isSuffixOf cs).map (·.2)

def headerSize : Nat := 512

/-- What is wrong with plain content. An empty file may pass for one that packs nothing. -/
def error? (packing : Packing) (content : ByteArray) : Option PackingError :=
  let empty := content.size = 0
  match packing with
  | .zip => some .noZip
  | .gzip => if empty then none else some (.noGzip (content.toList.take 2))
  | .bzip2 => some (if empty then .ended else .noStream)
  | .xz => some (if empty then .ended else .noForm)
  | .tar =>
    some (.noTar empty (if empty then "empty file"
      else if content.size < headerSize then "truncated header" else "invalid header"))

end Packing
end Vivarium.Analysis
