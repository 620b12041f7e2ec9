/-!
Archives of named arrays, and an archive as the bytes of a file: every array begins with a header that
tells its kind and its shape, and all of them are stored in one zip file without compression.
-/
namespace Vivarium

inductive NumberKind
  | int8 | int16 | int32 | uint8 | float64
  deriving DecidableEq, Repr

/-- An array in row-major order. -/
inductive NamedArray
  | numbers (kind : NumberKind) (shape : List Nat) (items : List Int)
  | texts (items : List String)
  deriving DecidableEq, Repr

abbrev Archive := List (String × NamedArray)
/-- The bytes of a number modulo their range, the least significant first. -/
def littleEndian : Nat → Int → List UInt8
  | 0, _ => []
  | count + 1, n => UInt8.ofNat (n % 256).toNat :: littleEndian count (n / 256)

namespace NumberKind

def width : NumberKind → Nat
  | .int8 => 1
  | .int16 => 2
  | .int32 => 4
  | .uint8 => 1
  | .float64 => 8

def code : NumberKind → String
  | .int8 => "|i1"
  | .int16 => "<i2"
  | .int32 => "<i4"
  | .uint8 => "|u1"
  | .float64 => "<f8"

end NumberKind

namespace NamedArray

def textWidth (items : List String) : Nat := items.foldl (fun n s => max n s.length) 1

def code : NamedArray → String
  | .numbers kind _ _ => kind.code
  | .texts items => s!"<U{textWidth items}"

def shape : NamedArray → List Nat
  | .numbers _ shape _ => shape
  | .texts items => [items.length]

def shapeText : List Nat → String
  | [n] => s!"({n},)"
  | ns => "(" ++ ", ".intercalate (ns.map toString) ++ ")"

def itemBytes : NamedArray → List UInt8
  | .numbers kind _ items => items.flatMap (littleEndian kind.width)
  | .texts items => items.flatMap fun s =>
    let cs := s.toList.flatMap fun c => littleEndian 4 c.toNat
    cs ++ List.replicate (4 * textWidth items - cs.length) 0

/-- The header's text, filled up with blanks so that the items begin at a multiple of 64. -/
def header (a : NamedArray) : String :=
  let text := s!"\x7b'descr': '{a.code}', 'fortran_order': False, 'shape': {shapeText a.shape}, \x7d"
  let fill := (64 - (10 + text.length + 1) % 64) % 64
  text ++ .ofList (List.replicate fill ' ') ++ "\n"

def bytes (a : NamedArray) : List UInt8 :=
  [0x93] ++ "NUMPY".toUTF8.toList ++ [1, 0] ++ littleEndian 2 a.header.length ++
    a.header.toUTF8.toList ++ a.itemBytes

end NamedArray

def crcShift (c : UInt32) : UInt32 := if c % 2 = 1 then (c >>> 1) ^^^ 0xEDB88320 else c >>> 1

def crcByte (c : UInt32) (b : UInt8) : UInt32 := Nat.repeat crcShift 8 (c ^^^ b.toUInt32)

def crc32 (bytes : List UInt8) : UInt32 := bytes.foldl crcByte 0xFFFFFFFF ^^^ 0xFFFFFFFF

namespace Archive

/-- A file in the archive with the place where it begins. -/
structure Entry where
  name : List UInt8
  content : List UInt8
  start : Nat

namespace Entry

/-- What is told of a file at its beginning and in the table at the end: the version that is
needed, the methods, the date, the check, the sizes and the length of the name. -/
def facts (e : Entry) : List UInt8 :=
  [20, 0, 0, 0, 0, 0, 0, 0, 0x21, 0] ++ littleEndian 4 (crc32 e.content).toNat ++
    littleEndian 4 e.content.length ++ littleEndian 4 e.content.length ++
    littleEndian 2 e.name.length ++ [0, 0]

def bytes (e : Entry) : List UInt8 :=
  [0x50, 0x4B, 3, 4] ++ e.facts ++ e.name ++ e.content

def tableBytes (e : Entry) : List UInt8 :=
  [0x50, 0x4B, 1, 2, 20, 0] ++ e.facts ++ List.replicate 10 0 ++ littleEndian 4 e.start ++ e.name

end Entry

def entries (start : Nat) : Archive → List Entry
  | [] => []
  | (name, a) :: rest =>
    let e : Entry := ⟨(name ++ ".npy").toUTF8.toList, a.bytes, start⟩
    e :: entries (start + e.bytes.length) rest

def bytes (a : Archive) : ByteArray :=
  let es := entries 0 a
  let files := es.flatMap Entry.bytes
  let table := es.flatMap Entry.tableBytes
  let ending := [0x50, 0x4B, 5, 6, 0, 0, 0, 0] ++ littleEndian 2 es.length ++
    littleEndian 2 es.length ++ littleEndian 4 table.length ++ littleEndian 4 files.length ++ [0, 0]
  ⟨(files ++ table ++ ending).toArray⟩

end Archive
end Vivarium
