import ApiMock.Http.Headers
import ApiMock.Http.Query
import ApiMock.Http.Target

/-!
# Requests
-/

set_option autoImplicit false

namespace ApiMock

structure Request where
  method : String := "GET"
  target : Target := {}
  headers : Headers := []
  body : Bytes := []

namespace Request

def decodedPath (request : Request) : String := request.target.decodedPath

def queryValues (request : Request) : List (String × List String) :=
  Query.grouped request.target.query

def header? (request : Request) (name : String) : Option String := request.headers.text? name

def bodyText (request : Request) : String := Utf8.decodeLossy request.body

/-- The request as a message. The authority of the target stands for a missing host field. -/
def dump (request : Request) : String :=
  let host := match request.target.authority with
    | some authority =>
      if (request.headers.lookup "host").isSome then "" else "Host: " ++ authority ++ "\r\n"
    | none => ""
  request.method ++ " " ++ request.target.line ++ " HTTP/1.1\r\n" ++ host ++ request.headers.lines
    ++ "\r\n" ++ request.bodyText

end Request

end ApiMock
