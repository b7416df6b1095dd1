import ApiMock.Text.Utf8

/-!
# Files

What the system gives for the path of a file. Which paths there are, absolute ones and those that lead
out of a directory included, is up to the system, and so are its words for a file that it does not
give.
-/

set_option autoImplicit false

namespace ApiMock

structure Files where
  read : String → Except String Bytes

def Files.ofList (files : List (String × Bytes)) : Files where
  read path :=
    match files.lookup path with
    | some content => .ok content
    | none => .error "No such file or directory (os error 2)"

end ApiMock
