import ApiMock.Text.Percent
import ApiMock.Text.Split

/-!
# Request targets

What a request is addressed to: a path with an optional query, `*`, or an authority, which may also
stand in front of a path. A fragment is dropped.
-/

set_option autoImplicit false

namespace ApiMock

/-- The target of a request. The resource is the path and the query as they were written, and is
missing when only an authority is given. -/
structure Target where
  authority : Option String := none
  resource : Option String := some "/"
deriving DecidableEq

namespace Target

def parts (target : Target) : List Char × Option (List Char) :=
  Split.atFirst '?' (target.resource.getD "").toList

/-- The path as it was written. An empty path in front of a query or behind an authority is the
root. -/
def path (target : Target) : String :=
  if target.resource.isSome && target.parts.1.isEmpty then "/" else String.ofList target.parts.1

/-- The path in plain text; as it was written if the escapes spell no UTF-8. -/
def decodedPath (target : Target) : String := Percent.decode target.path

def query (target : Target) : String := String.ofList (target.parts.2.getD [])

def line (target : Target) : String :=
  match target.resource with
  | none | some "" => "/"
  | some resource => resource

def isPathChar (c : Char) : Bool :=
  c == '!' || c == '"' || ('$' ≤ c && c ≤ ';') || c == '=' || ('@' ≤ c && c ≤ '_') ||
    ('a' ≤ c && c ≤ '~') || '\x7F' ≤ c

def isQueryChar (c : Char) : Bool :=
  c == '!' || ('$' ≤ c && c ≤ ';') || c == '=' || ('?' ≤ c && c ≤ '~') || '\x7F' ≤ c

def isAuthorityChar (c : Char) : Bool :=
  c.isAlphanum || "-._~!$&'()*+,;=:@[]%".toList.contains c

def resource? (text : List Char) : Option String :=
  let text := (Split.atFirst '#' text).1
  let (path, query) := Split.atFirst '?' text
  if path.all isPathChar && (query.getD []).all isQueryChar then some (String.ofList text)
  else none

def afterScheme? (text : List Char) : Option (List Char) :=
  let isSchemeChar (c : Char) : Bool := c.isAlphanum || c == '+' || c == '-' || c == '.'
  match text.takeWhile isSchemeChar, text.dropWhile isSchemeChar with
  | _ :: _, ':' :: '/' :: '/' :: rest => some rest
  | _, _ => none

def ofString? (text : String) : Option Target :=
  let inAuthority (c : Char) : Bool := c ≠ '/' && c ≠ '?' && c ≠ '#'
  match text.toList with
  | [] => none
  | '/' :: rest => (resource? ('/' :: rest)).map fun resource => ⟨none, some resource⟩
  | ['*'] => some ⟨none, some "*"⟩
  | characters =>
    match afterScheme? characters with
    | some rest =>
      let authority := rest.takeWhile inAuthority
      if authority.isEmpty || !authority.all isAuthorityChar then none
      else
        (resource? (rest.dropWhile inAuthority)).map fun resource =>
          ⟨some (String.ofList authority), some resource⟩
    | none => if characters.all isAuthorityChar then some ⟨some text, none⟩ else none

end Target

end ApiMock
