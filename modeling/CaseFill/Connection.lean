import CaseFill.Protocol.Message
import CaseFill.Protocol.Unserved

/-! The connection to a client. It passes through phases: until the first
message was answered only that message is served, and after the end nothing is.
A notification is never answered; one that cannot be read or comes at the wrong
time is dropped. -/
namespace CaseFill

inductive Phase where
  | fresh
  | running
  | ended
deriving DecidableEq, Repr

structure Connection where
  phase : Phase
  server : Server

inductive RequestError where
  | notStarted
  | invalidRequest
  | methodNotFound
  | invalidParams
deriving DecidableEq, Repr

namespace RequestError

def code : RequestError → Int
  | notStarted => -32002
  | invalidRequest => -32600
  | methodNotFound => -32601
  | invalidParams => -32602

def message : RequestError → String
  | notStarted => "Server not initialized"
  | invalidRequest => "Invalid request"
  | methodNotFound => "Method not found"
  | invalidParams => "Invalid params"

end RequestError

structure Incoming where
  method : String
  params : Option Json
  isRequest : Bool

inductive Reply where
  | silence
  | result (response : Response)
  | error (why : RequestError)

namespace Connection

open Protocol

def opened (server : Server) : Connection := ⟨.fresh, server⟩

structure Effect where
  connection : Connection
  reply : Reply
  notes : List String

/-- Refuse a message; a notification is dropped. -/
def refuse (c : Connection) (i : Incoming) (why : RequestError) : Effect :=
  ⟨c, if i.isRequest then .error why else .silence, []⟩

def phaseError : Phase → RequestError
  | .ended => .invalidRequest
  | _ => .notStarted

def serve (read : Path → FileRead) (c : Connection) (after : Phase) (i : Incoming)
    (message : ClientMessage) : Dialogue Effect := do
  let e ← c.server.handle read message
  return ⟨⟨after, e.server⟩, if i.isRequest then .result e.response else .silence, e.notes⟩

/-- Serve a message whose method the server carries out, in a connection that is
now in phase `after`. A notification that asks for an answer is refused, and a
request that does not is dropped. -/
def dispatch (read : Path → FileRead) (c : Connection) (after : Phase) (i : Incoming)
    (kind : MethodKind) (params : Params) : Dialogue Effect :=
  let c : Connection := ⟨after, c.server⟩
  match kind, i.isRequest with
  | .notification, true => return refuse c i .invalidRequest
  | .request, false => return ⟨c, .silence, []⟩
  | _, _ =>
    match params.read? i.params with
    | some message => serve read c after i message
    | none => return refuse c i .invalidParams

def unservedError (params : Option Json) : Unserved → RequestError
  | .notification => .invalidRequest
  | .request form => if (params.bind form).isSome then .methodNotFound else .invalidParams

/-- Serve the first message, which leaves the connection fresh unless it can be
read. -/
def dispatchFirst (read : Path → FileRead) (c : Connection) (i : Incoming) (params : Params) :
    Dialogue Effect :=
  match i.isRequest, params.read? i.params with
  | true, some message => serve read c .running i message
  | _, _ => return refuse c i .invalidParams

def receive (read : Path → FileRead) (c : Connection) (i : Incoming) : Dialogue Effect :=
  match servedMethods.lookup i.method with
  | some (kind, params) =>
    if i.method = "initialize" then
      if c.phase = .fresh then dispatchFirst read c i params
      else return refuse c i .invalidRequest
    else if c.phase = .running then
      dispatch read c (if i.method = "shutdown" then .ended else .running) i kind params
    else return refuse c i (phaseError c.phase)
  | none =>
    match unserved? i.method with
    | some known =>
      return refuse c i
        (if c.phase = .running then unservedError i.params known else phaseError c.phase)
    | none => return refuse c i .methodNotFound

def filesFor (c : Connection) (i : Incoming) : List Path :=
  match message? i.method i.params with
  | some (.start root _) => Settings.candidates c.server.explicitFile root c.server.userFile
  | _ => []

end Connection
end CaseFill
