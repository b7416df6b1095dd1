import ApiMock.Keyed
import ApiMock.Text.Percent
import ApiMock.Text.Split

/-!
# Query parameters

A query is a list of segments between ampersands, each a key and, behind the first equals sign, a
value. A plus sign stands for a space. Values are grouped by key in the order of the segments, and
keys ascend.
-/

set_option autoImplicit false

namespace ApiMock.Query

/-- A query without its leading question mark, of which one is dropped. -/
def body : List Char → List Char
  | '?' :: rest => rest
  | text => text

def segments (query : String) : List (List Char) :=
  (Split.atEach '&' (body query.toList)).filter fun segment => !segment.isEmpty

/-- A key or a value in plain text. Escapes that spell no UTF-8 stay as they are. -/
def decode (raw : List Char) : String :=
  Percent.decode (String.ofList (raw.map fun c => if c = '+' then ' ' else c))

def parameter (segment : List Char) : String × String :=
  let (key, value) := Split.atFirst '=' segment
  (decode key, decode (value.getD []))

def parameters (query : String) : List (String × String) := (segments query).map parameter

def grouped (query : String) : List (String × List String) :=
  Keyed.collect (parameters query)

end ApiMock.Query
