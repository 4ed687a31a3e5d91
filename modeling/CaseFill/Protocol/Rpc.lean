import CaseFill.Connection
import CaseFill.Digits
import CaseFill.Protocol.Exchange

/-! Messages between the two ends of a connection. A message is a JSON object in
a frame: a header that gives the length of the body in bytes, an empty line, and
the body. -/
namespace CaseFill.Rpc

open Json.Decoder

inductive Message where
  /-- The client asks for something or tells something; a request has an id. -/
  | incoming (id : Option Json) (message : Incoming)
  | answer (id : Json) (reply : WireReply)

def wireError : Json.Decoder WireReply := object do
  return .error (← field "code" (between (-0x8000000000000000) 0x8000000000000000)) (← field "message" string)

def classify (v : Json) : Option Message := do
  match v.get? "method", v.get? "id" with
  | some (.str method), id =>
    return .incoming id ⟨method, v.get? "params", id.isSome⟩
  | some _, _ => none
  | none, some id =>
    match v.get? "error" with
    | some e => return .answer id (← wireError e)
    | none => return .answer id (.result ((v.get? "result").getD .null))
  | none, none => none

def envelope (members : List (String × Json)) : Json := .obj (("jsonrpc", .str "2.0") :: members)

def callJson (id : Nat) (call : Call) : Json :=
  envelope [("method", .str call.method), ("params", call.params), ("id", .int id)]

def notificationJson (note : String) : Json :=
  envelope [("method", .str Protocol.noteMethod), ("params", Protocol.noteJson note)]

def replyJson (id : Option Json) : Reply → Option Json
  | .silence => none
  | .result r => id.map fun id => envelope [("result", Protocol.responseJson r), ("id", id)]
  | .error why => id.map fun id => envelope [
      ("error", .obj [("code", .int why.code), ("message", .str why.message)]), ("id", id)]

def lengthHeader : String := "content-length"

def lengthOf? (line : String) : Option Nat := do
  let name := line.toList.takeWhile (· ≠ ':')
  let value := (line.toList.dropWhile (· ≠ ':')).drop 1
  let digits := (value.dropWhile (· == ' ')).takeWhile Char.isDigit
  if String.ofList (name.map Char.toLower) = lengthHeader ∧ digits ≠ [] then
    some (Digits.number 10 digits)
  else none

def endsHeader (line : String) : Bool := line.toList.all fun c => c == '\r' || c == '\n'

def framed (body : String) : String :=
  "Content-Length: " ++ toString body.utf8ByteSize ++ "\r\n\r\n" ++ body

end CaseFill.Rpc
