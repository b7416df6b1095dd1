import ApiMock.JsonPath.Parser

/-!
# Paths of fields

A field of a document is named by a JSONPath query or, shorter, by a dotted path. In a dotted path a
segment of decimal digits is an index, and any other one is a name.
-/

set_option autoImplicit false

namespace ApiMock.FieldPath

def escapeQuotes (name : List Char) : List Char :=
  name.flatMap fun c => if c = '\'' then ['\\', '\''] else [c]

def bracketed (segment : List Char) : List Char :=
  if !segment.isEmpty && segment.all Char.isDigit then '[' :: segment ++ [']']
  else ['[', '\''] ++ escapeQuotes segment ++ ['\'', ']']

/-- The text of the query that a path stands for. What starts with a dollar sign is one already. -/
def expression (path : String) : String :=
  match path.toList with
  | '$' :: _ => path
  | text => String.ofList ('$' :: (Split.atEach '.' text).flatMap bracketed)

def query? (path : String) : Option JsonPath.Query := JsonPath.parse? (expression path)

end ApiMock.FieldPath
