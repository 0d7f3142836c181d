import MeshRegistry.Json.Value

/-!
# Responses

What a request over HTTP is answered with, and what a client sees of it.
-/

namespace MeshRegistry.Http

inductive Body where
  | empty
  | json (v : Json.Value)
  | text (s : String)
deriving Inhabited

def Body.content : Body → List Char
  | empty => []
  | json v => v.write
  | text s => s.toList

structure Response where
  status : Nat
  headers : List (String × String)
  body : Body
deriving Inhabited

namespace Response

def header? (r : Response) (name : String) : Option String :=
  (r.headers.find? (·.1 = name)).map (·.2)

def json (status : Nat) (v : Json.Value) : Response :=
  ⟨status, [("content-type", "application/json")], .json v⟩

def plain (status : Nat) (s : String) : Response :=
  ⟨status, [("content-type", "text/plain; charset=utf-8")], .text s⟩

def withHeader (r : Response) (name value : String) : Response :=
  { r with headers := r.headers ++ [(name, value)] }

def withoutBody (r : Response) : Response :=
  { r with body := .empty }

end Response

/-- What a client sees of a response. -/
structure Answer where
  status : Nat
  body : List Char
deriving DecidableEq, Repr

def Response.toAnswer (r : Response) : Answer :=
  ⟨r.status, r.body.content⟩

def statusPhrase? : Nat → Option String
  | 200 => some "OK"
  | 204 => some "No Content"
  | 301 => some "Moved Permanently"
  | 302 => some "Found"
  | 304 => some "Not Modified"
  | 400 => some "Bad Request"
  | 401 => some "Unauthorized"
  | 403 => some "Forbidden"
  | 404 => some "Not Found"
  | 405 => some "Method Not Allowed"
  | 408 => some "Request Timeout"
  | 414 => some "URI Too Long"
  | 429 => some "Too Many Requests"
  | 500 => some "Internal Server Error"
  | 501 => some "Not Implemented"
  | 502 => some "Bad Gateway"
  | 503 => some "Service Unavailable"
  | 504 => some "Gateway Timeout"
  | _ => none

def statusText (status : Nat) : String :=
  status.repr ++ " " ++ (statusPhrase? status).getD "<unknown status code>"

end MeshRegistry.Http
