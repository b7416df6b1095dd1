/-!
# Lines of templates

Whether a tag stands alone on a line is seen from the texts in front of it and behind it. The lines
of a text can all be moved to the right by an indent.
-/

set_option autoImplicit false

namespace ApiMock.Template

def isLineBlank (c : Char) : Bool := c == ' ' || c == '\t'

def isLineEnd (c : Char) : Bool := c == '\n' || c == '\r'

/-- Whether the rest of a line is blank and the line ends, or the whole text ends at once. -/
def lineEnds (text : List Char) : Bool :=
  text.isEmpty || ((text.dropWhile isLineBlank).head?.map isLineEnd).getD false

def lineBegins (before : List Char) : Bool :=
  ((before.dropWhile isLineBlank).head?.map isLineEnd).getD true

def dropLine (text : List Char) : List Char :=
  match text.dropWhile isLineBlank with
  | '\r' :: '\n' :: rest | '\n' :: rest => rest
  | rest => rest

def indentLines (indent : List Char) : List Char → List Char
  | [] => []
  | [c] => [c]
  | c :: next :: rest =>
    (if c = '\n' then c :: indent else [c]) ++ indentLines indent (next :: rest)

end ApiMock.Template
