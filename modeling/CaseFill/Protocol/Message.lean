import CaseFill.Protocol.Answer
import CaseFill.Protocol.Capabilities
import CaseFill.Server

/-! Messages of the client on the wire, and the server's answers. -/
namespace CaseFill.Protocol

open Json (Decoder)
open Json.Decoder

def progressToken : Decoder Unit := either int32 string

def workspaceFolder : Decoder Uri := record do
  let folder ← field "uri" uri
  let _ ← field "name" string
  return folder

def clientInfo : Decoder Unit := form [requires "name" string, allows "version" string]

/-- The path of the workspace: that of its first folder if it has folders, else
that of the root. -/
def workspaceRoot (root : Option Uri) (folders : Option (List Uri)) : Option Path :=
  match folders with
  | some (first :: _) => first.filePath?
  | _ => root.bind Uri.filePath?

def startParams : Decoder ClientMessage := record do
  let _ ← maybe "processId" nat32
  let _ ← maybe "rootPath" string
  let root ← withDefault "rootUri" none (nullable uri)
  let options ← maybe "initializationOptions" any
  let _ ← field "capabilities" capabilities
  let _ ← withDefault "trace" none (nullable (oneOf ["off", "messages", "verbose"]))
  let folders ← maybe "workspaceFolders" (list workspaceFolder)
  let _ ← maybe "clientInfo" clientInfo
  let _ ← maybe "locale" string
  return .start (workspaceRoot root folders) options

def noFields : Decoder Unit := record (pure ())

def openedDocument : Decoder ClientMessage := record do
  let name ← field "uri" uri
  let language ← field "languageId" string
  let _ ← field "version" int32
  return .opened name language (← field "text" text)

def openParams : Decoder ClientMessage := record (field "textDocument" openedDocument)

def versionedName : Decoder Uri := record do
  let name ← field "uri" uri
  let _ ← field "version" int32
  return name

def contentChange : Decoder Text := record do
  let _ ← maybe "range" range
  let _ ← maybe "rangeLength" nat32
  field "text" text

def changeParams : Decoder ClientMessage := record do
  let name ← field "textDocument" versionedName
  return .changed name (← field "contentChanges" (list contentChange))

def closeParams : Decoder ClientMessage := record do
  return .closed (← field "textDocument" documentName)

def relatedInformation : Decoder Unit :=
  form [requires "location" location, requires "message" string]

def diagnostic : Decoder Unit := form [
  requires "range" range,
  allows "severity" int32,
  allows "code" (either int32 string),
  allows "codeDescription" (form [requires "href" uri]),
  allows "source" string,
  requires "message" string,
  allows "relatedInformation" (list relatedInformation),
  allows "tags" (list int32),
  allows "data" any]

def actionContext : Decoder Unit := form [
  requires "diagnostics" (list diagnostic),
  allows "only" (list string),
  allows "triggerKind" int32]

def actionParams : Decoder ClientMessage := object do
  let name ← field "textDocument" documentName
  let extent ← field "range" range
  let _ ← field "context" actionContext
  let _ ← maybe "workDoneToken" progressToken
  let _ ← maybe "partialResultToken" progressToken
  return .codeAction name extent

def commandParams : Decoder ClientMessage := object do
  let name ← field "command" string
  let arguments ← withDefault "arguments" [] (list any)
  let _ ← maybe "workDoneToken" progressToken
  return .command name arguments

inductive Params where
  | absent (message : ClientMessage)
  | present (decode : Decoder ClientMessage)

def Params.read? : Params → Option Json → Option ClientMessage
  | absent message, none => some message
  | absent _, some _ => none
  | present decode, some v => decode v
  | present _, none => none

inductive MethodKind where
  | request
  | notification
deriving DecidableEq, Repr

def servedMethods : List (String × MethodKind × Params) :=
  [("initialize", .request, .present startParams),
   ("initialized", .notification, .present fun v => (noFields v).map fun _ => .started),
   ("shutdown", .request, .absent .shutdown),
   ("textDocument/didOpen", .notification, .present openParams),
   ("textDocument/didChange", .notification, .present changeParams),
   ("textDocument/didClose", .notification, .present closeParams),
   ("textDocument/codeAction", .request, .present actionParams),
   ("workspace/executeCommand", .request, .present commandParams)]

def message? (method : String) (params : Option Json) : Option ClientMessage := do
  let (_, reading) ← servedMethods.lookup method
  reading.read? params

def abilitiesJson : Json :=
  .obj [
    ("capabilities", .obj [
      ("textDocumentSync", .int 1),
      ("codeActionProvider", .obj [
        ("codeActionKinds", .strings ["quickfix"]), ("resolveProvider", .bool false)]),
      ("executeCommandProvider", .obj [("commands", .strings [Server.addCasesCommand])])]),
    ("serverInfo", .obj [("name", .str Server.name), ("version", .str Server.version)])]

def fixJson (title : String) (uri : Uri) (range : Range) : Json :=
  .obj [
    ("title", .str title),
    ("kind", .str "quickfix"),
    ("command", .obj [
      ("title", .str Server.addCasesTitle),
      ("command", .str Server.addCasesCommand),
      ("arguments", .arr [uriJson uri, rangeJson range])])]

def responseJson : Response → Json
  | .none => .null
  | .abilities => abilitiesJson
  | .fix title uri range => .arr [fixJson title uri range]
  | .filled enumName members =>
    .obj [("prefix", textJson enumName), ("members", .arr (members.map textJson))]

def noteMethod : String := "window/logMessage"

def noteJson (note : String) : Json := .obj [("type", .int 3), ("message", .str note)]

end CaseFill.Protocol
