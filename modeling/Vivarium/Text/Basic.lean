/-!
How a text is cut and filled up: white space and words, line boundaries, and columns of a fixed width.
-/
namespace Vivarium.Text

/-- The Unicode characters that count as white space. -/
def isBlank (c : Char) : Bool :=
  let n := c.toNat
  (9 ≤ n && n ≤ 13) || (28 ≤ n && n ≤ 32) || n == 0x85 || n == 0xA0 || n == 0x1680 ||
    (0x2000 ≤ n && n ≤ 0x200A) || n == 0x2028 || n == 0x2029 || n == 0x202F || n == 0x205F ||
    n == 0x3000

/-- The list without its leading and trailing white space. -/
def trimChars (cs : List Char) : List Char :=
  ((cs.dropWhile isBlank).reverse.dropWhile isBlank).reverse

/-- The maximal runs of characters that are not white space, in order. -/
def wordChars (cs : List Char) : List (List Char) :=
  (cs.splitOnP isBlank).filter (!·.isEmpty)

def trim (s : String) : String := .ofList (trimChars s.toList)

def words (s : String) : List String := (wordChars s.toList).map .ofList

/-- The characters that end a line; a carriage return and the line feed after it end it together. -/
def isBreak (c : Char) : Bool :=
  let n := c.toNat
  (10 ≤ n && n ≤ 13) || (28 ≤ n && n ≤ 30) || n == 0x85 || n == 0x2028 || n == 0x2029

/-- The lines without their ends. An end at the very end of the text opens no further line. -/
def lineChars : List Char → List (List Char)
  | [] => []
  | '\r' :: '\n' :: cs => [] :: lineChars cs
  | c :: cs =>
    if isBreak c then [] :: lineChars cs
    else match lineChars cs with
      | [] => [[c]]
      | l :: ls => (c :: l) :: ls

/-- Every newline style written as a line feed. -/
def foldNewlineChars : List Char → List Char
  | [] => []
  | '\r' :: '\n' :: cs => '\n' :: foldNewlineChars cs
  | c :: cs => (if c = '\r' then '\n' else c) :: foldNewlineChars cs

def lines (s : String) : List String := (lineChars s.toList).map .ofList

def foldNewlines (s : String) : String := .ofList (foldNewlineChars s.toList)

/-- The text with blanks put in front until it is `width` characters wide. -/
def padLeft (width : Nat) (s : String) : String :=
  .ofList (List.replicate (width - s.length) ' ') ++ s

end Vivarium.Text
