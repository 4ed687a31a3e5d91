import CaseFill.CommandLine
import CaseFill.Json.Parser
import CaseFill.Json.Printer
import CaseFill.Protocol.Rpc

/-! The program: it reads the command line and then serves a client on standard
input and output until the input ends. -/
namespace CaseFill.Main

/-- What the running program keeps: the connection, the number of the next call,
and messages that arrived while it waited for an answer. -/
structure Session where
  connection : Connection
  nextCall : Nat
  waiting : List (Option Json × Incoming)

abbrev Program := StateT Session IO

def send (v : Json) : IO Unit := do
  let out ← IO.getStdout
  out.putStr (Rpc.framed v.render)
  out.flush

partial def readBytes (input : IO.FS.Stream) (n : Nat) (acc : ByteArray) : IO ByteArray := do
  if acc.size ≥ n then return acc
  let more ← input.read (n - acc.size).toUSize
  if more.isEmpty then return acc
  readBytes input n (acc ++ more)

partial def readHeader (input : IO.FS.Stream) (length : Nat) : IO (Option Nat) := do
  let line ← input.getLine
  if line.isEmpty then return none
  if Rpc.endsHeader line then return some length
  readHeader input ((Rpc.lengthOf? line).getD length)

/-- Read the next message; nothing at the end of the input. Bodies that are no
messages are skipped. -/
partial def nextMessage : IO (Option Rpc.Message) := do
  let input ← IO.getStdin
  match ← readHeader input 0 with
  | none => return none
  | some length =>
    let body ← readBytes input length .empty
    match ((String.fromUTF8? body).bind Json.parse?).bind Rpc.classify with
    | some message => return some message
    | none => nextMessage

/-- Wait for the answer to the call with number `id`; other messages are kept for
later. -/
partial def awaitAnswer (id : Nat) : Program WireReply := do
  match ← nextMessage with
  | none => return .error (-32603) "connection closed"
  | some (.answer answered reply) =>
    if answered == .int id then return reply else awaitAnswer id
  | some (.incoming sender message) =>
    modify fun s => { s with waiting := s.waiting ++ [(sender, message)] }
    awaitAnswer id

def clientHost (call : Call) : Program (Except HostError call.Answer) := do
  let id := (← get).nextCall
  modify fun s => { s with nextCall := id + 1 }
  send (Rpc.callJson id call)
  return call.readReply (← awaitAnswer id)

def readSettings (path : Path) : IO FileRead := do
  try
    if path.bytes.contains 0 then return .failed .badName
    let some name := path.text? | return .missing
    let bytes ← IO.FS.readBinFile name
    match String.fromUTF8? bytes with
    | some text => return .content text
    | none => return .failed .notText
  catch e =>
    match e with
    | .noFileOrDirectory .. => return .missing
    | _ => return .failed .other

def serveMessage (id : Option Json) (message : Incoming) : Program Unit := do
  let connection := (← get).connection
  let mut table : List (Path × FileRead) := []
  for path in connection.filesFor message do
    table := (path, ← readSettings path) :: table
  let read (path : Path) : FileRead := (table.lookup path).getD .missing
  let e ← (connection.receive read message).run clientHost
  modify fun s => { s with connection := e.connection }
  for note in e.notes do send (Rpc.notificationJson note)
  match Rpc.replyJson id e.reply with
  | some v => send v
  | none => return ()

def takeMessage : Program (Option (Option Json × Incoming)) := do
  let s ← get
  match s.waiting with
  | m :: rest =>
    set { s with waiting := rest }
    return some m
  | [] =>
    match ← nextMessage with
    | some (.incoming id message) => return some (id, message)
    | some (.answer _ _) => return some (none, ⟨"", none, false⟩)
    | none => return none

partial def serveAll : Program Unit := do
  match ← takeMessage with
  | none => return ()
  | some (id, message) =>
    if message.method = "exit" then return ()
    serveMessage id message
    serveAll

def ownSettingsFile : IO (Option Path) := do
  match ← IO.getEnv "HOME" with
  | some home =>
    let directory := (← IO.getEnv "XDG_CONFIG_HOME").map Path.ofString
    return some (Settings.userFile (.ofString home) directory)
  | none => return none

end CaseFill.Main

open CaseFill in
def main (arguments : List String) : IO UInt32 := do
  match CommandLine.ending arguments with
  | .printed text =>
    IO.print text
    return 0
  | .refused why =>
    IO.eprintln why.message
    return 2
  | .serving config =>
    let server := Server.fresh (config.map .ofString) (← Main.ownSettingsFile) true
    let _ ← (Main.serveAll).run ⟨Connection.opened server, 0, []⟩
    return 0
