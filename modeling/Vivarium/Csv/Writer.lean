/-! Writing comma-separated records: a field is quoted if it holds a comma, a quote or a newline. -/
namespace Vivarium.Csv

def isSpecial (c : Char) : Bool := c = ',' || c = '"' || c = '\r' || c = '\n'

def doubleQuotes : List Char → List Char
  | [] => []
  | c :: cs => if c = '"' then '"' :: '"' :: doubleQuotes cs else c :: doubleQuotes cs

def writeField (field : String) : String :=
  if field.toList.any isSpecial then
    .ofList ('"' :: doubleQuotes field.toList ++ ['"'])
  else field

/-- A record without its end; a lone empty field is quoted to set it off from a blank line. -/
def writeFields : List String → String
  | [""] => "\"\""
  | fields => ",".intercalate (fields.map writeField)

def writeRecord (fields : List String) : String := writeFields fields ++ "\r\n"

def write (records : List (List String)) : String := String.join (records.map writeRecord)

end Vivarium.Csv
