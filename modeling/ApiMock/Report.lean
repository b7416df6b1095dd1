import ApiMock.Json.SyntaxError
import ApiMock.Pattern.Syntax
import ApiMock.Template.Syntax
import ApiMock.Xml.SyntaxError
import ApiMock.Yaml.Fault

/-!
# Reports

A report is a text with gaps. Where the reader of a format finds a fault, or the renderer of templates
does, the words for it are theirs: a report says only which fault it is.
-/

set_option autoImplicit false

namespace ApiMock

/-- A fault whose words are those of a reader or renderer. -/
inductive ReaderFault where
  | json (fault : Json.SyntaxError)
  | xml (fault : Xml.SyntaxError)
  | yaml (fault : Yaml.Fault)
  | pattern (fault : Pattern.Fault)
  | path (path : String)
  | template (fault : Template.SyntaxError)
  | rendering (fault : Template.RenderError)
deriving DecidableEq

inductive Report.Piece where
  | words (text : String)
  | fault (fault : ReaderFault)
deriving DecidableEq

abbrev Report := List Report.Piece

namespace Report

def ofWords (text : String) : Report := [.words text]

def text (wording : ReaderFault → String) (report : Report) : String :=
  String.join (report.map fun
    | .words text => text
    | .fault fault => wording fault)

end Report

end ApiMock
