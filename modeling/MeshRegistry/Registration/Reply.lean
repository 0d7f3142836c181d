import MeshRegistry.Json.Decode
import MeshRegistry.Json.Value

/-!
# Replies

What the registry answers to a request.
-/

namespace MeshRegistry

structure Reply where
  status : Int32
  error : Option String
deriving DecidableEq, Repr, Inhabited

namespace Reply

def statusOk : Int32 := 1

def statusFailed : Int32 := 0

def ok : Reply := ⟨statusOk, none⟩

def failed (message : String) : Reply := ⟨statusFailed, some message⟩

def isSuccess (r : Reply) : Bool :=
  r.status == statusOk

def fields : Json.Fields [Int32, Option String] :=
  .cons "status_code" Json.int32 .nowhere <|
  .cons "error" (Json.optional Json.text) (.anywhere none) .nil

def decoder : Json.Decoder Reply :=
  Json.record "RegistrationReply" (some fields) fun (status, error, ()) => { status, error }

def decode (s : List Char) : Except Json.Problem Reply :=
  Json.decodeAll decoder s

/-- The message of a reply, without an error that is not there. -/
def toJson (r : Reply) : Json.Value :=
  .object (("status_code", .int r.status.toInt) :: r.error.toList.map fun e => ("error", .text e))

end Reply

end MeshRegistry
