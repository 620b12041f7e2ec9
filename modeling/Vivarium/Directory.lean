import Vivarium.Archive
import Vivarium.Keyed
import Vivarium.Text.Quoted

/-! A directory tree as a value: reading, writing, and what can be in the way. -/
namespace Vivarium

/-- Why a path cannot be used; the path is as it was given. -/
inductive FileFault
  | missing (path : String)
  | occupied (path : String)
  | notFolder (path : String)
  | folder (path : String)
  | tooLong (path : String)
  | nullCharacter
  deriving DecidableEq, Repr

def FileFault.message : FileFault → String
  | .missing path => s!"[Errno 2] No such file or directory: {Text.quoted path}"
  | .occupied path => s!"[Errno 17] File exists: {Text.quoted path}"
  | .notFolder path => s!"[Errno 20] Not a directory: {Text.quoted path}"
  | .folder path => s!"[Errno 21] Is a directory: {Text.quoted path}"
  | .tooLong path => s!"[Errno 36] File name too long: {Text.quoted path}"
  | .nullCharacter => "embedded null byte"

inductive Content
  | bytes (bytes : ByteArray)
  | arrays (archive : Archive)

instance : DecidableEq Content
  | .bytes a, .bytes b =>
    if h : a.data = b.data then isTrue (by cases a; cases b; simp_all)
    else isFalse (by rintro ⟨⟩; exact h rfl)
  | .arrays a, .arrays b => if h : a = b then isTrue (by rw [h]) else isFalse (by simpa)
  | .bytes _, .arrays _ => isFalse (by simp)
  | .arrays _, .bytes _ => isFalse (by simp)

/-- Bytes are put at the end of a file, whatever it holds. -/
def Content.append : Content → ByteArray → Content
  | .bytes a, b => .bytes (a ++ b)
  | .arrays a, b => .bytes (a.bytes ++ b)

theorem Content.append_append (c : Content) (a b : ByteArray) :
    (c.append a).append b = c.append (a ++ b) := by
  cases c with
  | bytes | arrays => exact congrArg Content.bytes ByteArray.append_assoc

/-- Files by the components of their paths, and the folders that were made on their own. -/
structure Directory where
  files : List (List String × Content) := []
  folders : List (List String) := []

namespace Path

/-- The component that stands for the root of all paths. -/
def root : String := "/"

/-- A path that begins with a separator begins at the root, any other where all paths start. -/
def start (path : String) : List String := if path.toList.head? = some '/' then [root] else []

def parts (path : String) : List String :=
  ((path.toList.splitOn '/').filter (· ≠ [])).map .ofList

/-- The component that leads above the folder where all paths start. -/
def above : String := ".."

/-- Where a part leads from a folder: `.` stays in place and `..` goes back one component. There is
nothing above the root. -/
def step (p : List String) (part : String) : List String :=
  if part = "." ∨ (part = above ∧ p = [root]) then p
  else if part = above ∧ ¬ p.all (· = above) then p.dropLast
  else p ++ [part]

def components (path : String) : List String := (parts path).foldl step (start path)

def ofComponents : List String → String
  | [] => ""
  | c :: cs => if c = root then root ++ "/".intercalate cs else "/".intercalate (c :: cs)

def parent (path : String) : String :=
  let upTo := path.toList.reverse.dropWhile (· ≠ '/')
  let bare := upTo.dropWhile (· = '/')
  .ofList (if bare.isEmpty then upTo else bare).reverse

def name (path : String) : String := .ofList (path.toList.reverse.takeWhile (· ≠ '/')).reverse

/-- The path of the folder that a path lies in, with no part that stays in place. -/
def plainParent (path : String) : String :=
  let folders := ((parts path).filter (· ≠ ".")).dropLast
  if start path = [root] then root ++ "/".intercalate folders
  else if folders.isEmpty then "."
  else "/".intercalate folders

/-- A name inside a folder; a separator is put between them unless the folder ends in one. -/
def join (folder name : String) : String :=
  if folder = "" ∨ folder.toList.getLast? = some '/' then folder ++ name else folder ++ "/" ++ name

/-- The places on the way of a path, its beginning and its end among them. -/
def places (path : String) : List (List String) :=
  (List.range ((parts path).length + 1)).map fun n => ((parts path).take n).foldl step (start path)

def endsOpen (path : String) : Bool := path.toList.getLast? = some '/'

def maxPart : Nat := 255

def maxPath : Nat := 4095

end Path

namespace Directory

/-- The components name a folder: the one all paths start from and those above it, the root, one
made on its own, or one with something below. -/
def isFolder (d : Directory) (p : List String) : Bool :=
  p.all (· = Path.above) || p = [Path.root] || d.folders.any (p.isPrefixOf ·) ||
    d.files.any fun (q, _) => p.isPrefixOf q && p ≠ q

def file? (d : Directory) (p : List String) : Option Content := Keyed.get? p d.files

/-- Goes on from the place `p`, which has to be a folder. -/
def enter (d : Directory) (path : String) (p : List String) (part : String) :
    Except FileFault (List String) :=
  if !d.isFolder p then .error (if (d.file? p).isSome then .notFolder path else .missing path)
  else if Path.maxPart < part.utf8ByteSize then .error (.tooLong path)
  else .ok (Path.step p part)

/-- The components of the place that a path names, where nothing need be; all folders on the way
have to be there. -/
def locate (d : Directory) (path : String) : Except FileFault (List String) :=
  if '\x00' ∈ path.toList then .error .nullCharacter
  else if path = "" then .error (.missing path)
  else if Path.maxPath < path.utf8ByteSize then .error (.tooLong path)
  else (Path.parts path).foldlM (d.enter path) (Path.start path)

def content? (d : Directory) (path : String) : Option Content :=
  match d.locate path with
  | .ok p => if Path.endsOpen path then none else d.file? p
  | .error _ => none

def hasFolder (d : Directory) (path : String) : Bool :=
  match d.locate path with
  | .ok p => d.isFolder p
  | .error _ => false

def contains (d : Directory) (path : String) : Bool :=
  d.hasFolder path || (d.content? path).isSome

def read (d : Directory) (path : String) : Except FileFault ByteArray := do
  let p ← d.locate path
  match d.file? p with
  | some content =>
    if Path.endsOpen path then .error (.notFolder path)
    else match content with
      | .bytes b => .ok b
      | .arrays a => .ok a.bytes
  | none => .error (if d.isFolder p then .folder path else .missing path)

def makeInside (d : Directory) (path : String) : Except FileFault Directory := do
  let p ← d.locate path
  if d.isFolder p ∨ (d.file? p).isSome then .error (.occupied path)
  else .ok { d with folders := d.folders ++ [p] }

def ensureInside (d : Directory) (path : String) : Directory × Except FileFault Unit :=
  match d.makeInside path with
  | .ok d => (d, .ok ())
  | .error fault => (d, if d.hasFolder path then .ok () else .error fault)

/-- Makes a folder and those above it that are missing. The folders that were made before one
could not be made stay; each level takes one from `levels`. -/
def makeLevels : Nat → Directory → String → Directory × Except FileFault Unit
  | 0, d, path => d.ensureInside path
  | levels + 1, d, path =>
    let bare := if Path.name path = "" then Path.parent path else path
    let above := Path.parent bare
    if above = "" ∨ Path.name bare = "" ∨ d.contains above then d.ensureInside path
    else match makeLevels levels d above with
      | (d, .error (.occupied _)) | (d, .ok ()) =>
        if Path.name bare = "." then (d, .ok ()) else d.ensureInside path
      | (d, .error fault) => (d, .error fault)

def makeFolder (d : Directory) (path : String) : Directory × Except FileFault Unit :=
  makeLevels path.length d path

def makeParent (d : Directory) (path : String) : Directory × Except FileFault Unit :=
  let parent := Path.parent path
  if parent = "" then (d, .ok ()) else d.makeFolder parent

/-- Puts a file in place of whatever the path named, a folder excepted. -/
def write (d : Directory) (path : String) (content : Content) : Except FileFault Directory := do
  let p ← d.locate path
  if d.isFolder p ∨ Path.endsOpen path then .error (.folder path)
  else .ok { d with files := Keyed.put p content d.files }

/-- The files of `d` that `before` has not, or has with another content. -/
def changedSince (d before : Directory) : List (List String × Content) :=
  d.files.filter fun (p, content) => before.file? p ≠ some content

end Directory
end Vivarium
