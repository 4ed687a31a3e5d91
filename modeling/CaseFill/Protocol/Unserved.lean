import CaseFill.Protocol.Message
import CaseFill.Protocol.WorkspaceEdit

/-! Methods of the protocol that the server knows by name and does not carry
out. The parameters of a request are still checked: a request with parameters of
the wrong form is told so. -/
namespace CaseFill.Protocol

open Json (Decoder)
open Json.Decoder

def workDone : Record Unit := allows "workDoneToken" progressToken

def inParts : Record Unit := allows "partialResultToken" progressToken

def aboutDocument (more : List (Record Unit)) : Decoder Unit :=
  merged (requires "textDocument" documentName :: workDone :: more)

def aboutPosition (more : List (Record Unit)) : Decoder Unit :=
  aboutDocument (requires "position" position :: more)

def aboutRange (more : List (Record Unit)) : Decoder Unit :=
  aboutDocument (requires "range" range :: more)

/-! ### Parts of parameters -/

def knownFormattingOptions : List String :=
  ["tabSize", "insertSpaces", "trimTrailingWhitespace", "insertFinalNewline", "trimFinalNewlines"]

/-- Options of a formatter that have no name here are truth values, whole numbers
or strings. -/
def otherFormattingOptions : Decoder Unit
  | .obj members =>
    dictionary string (either boolean (either int32 string))
      (.obj (members.filter fun (name, _) => !(knownFormattingOptions.contains name)))
  | _ => none

def formattingOptions : Decoder Unit := fun v => do
  merged [
    requires "tabSize" nat32,
    requires "insertSpaces" boolean,
    allows "trimTrailingWhitespace" boolean,
    allows "insertFinalNewline" boolean,
    allows "trimFinalNewlines" boolean] v
  otherFormattingOptions v

def offsets : Decoder Unit := fun v => do
  let bounds ← list nat32 v
  if bounds.length = 2 then some () else none

def signatureParameter : Decoder Unit := form [
  requires "label" (either string offsets),
  allows "documentation" explanation]

def signatures : Decoder Unit := form [
  requires "signatures" (list (form [
    requires "label" string,
    allows "documentation" explanation,
    allows "parameters" (list signatureParameter),
    allows "activeParameter" nat32])),
  allows "activeSignature" nat32,
  allows "activeParameter" nat32]

def signatureContext : Decoder Unit := form [
  requires "triggerKind" int32,
  allows "triggerCharacter" string,
  requires "isRetrigger" boolean,
  allows "activeSignatureHelp" signatures]

def hierarchyItem (tags : Decoder Unit) : Decoder Unit := form [
  requires "name" string,
  requires "kind" int32,
  allows "tags" tags,
  allows "detail" string,
  requires "uri" uri,
  requires "range" range,
  requires "selectionRange" range,
  allows "data" any]

def aboutItem (tags : Decoder Unit) : Decoder Unit :=
  merged [requires "item" (hierarchyItem tags), workDone, inParts]

def documentLink : Decoder Unit := form [
  requires "range" range, allows "target" uri, allows "tooltip" string, allows "data" any]

def codeLens : Decoder Unit := form [
  requires "range" range, allows "command" commandNote, allows "data" any]

def hintPart : Decoder Unit := form [
  requires "value" string,
  allows "tooltip" explanation,
  allows "location" location,
  allows "command" commandNote]

def inlayHint : Decoder Unit := form [
  requires "position" position,
  requires "label" (either string (list hintPart)),
  allows "kind" int32,
  allows "textEdits" (list textEdit),
  allows "tooltip" explanation,
  allows "paddingLeft" boolean,
  allows "paddingRight" boolean,
  allows "data" any]

def quickFix : Decoder Unit := form [
  requires "title" string,
  allows "kind" string,
  allows "diagnostics" (list diagnostic),
  allows "edit" workspaceEdit,
  allows "command" commandNote,
  allows "isPreferred" boolean,
  allows "disabled" (form [requires "reason" string]),
  allows "data" any]

def workspaceSymbol : Decoder Unit := form [
  requires "name" string,
  requires "kind" int32,
  allows "tags" (list int32),
  allows "containerName" string,
  requires "location" (either location documentName),
  allows "data" any]

def color : Decoder Unit := form [
  requires "red" number, requires "green" number, requires "blue" number, requires "alpha" number]

def aboutFiles (fields : List String) : Decoder Unit :=
  form [requires "files" (list (form (fields.map (requires · string))))]

def saving : Decoder Unit := form [requires "textDocument" documentName, requires "reason" int32]

/-! ### The methods -/

def documentMethods : List String :=
  ["documentSymbol", "codeLens", "foldingRange", "documentLink", "documentColor",
   "semanticTokens/full"]

def positionMethods : List String :=
  ["hover", "linkedEditingRange", "prepareCallHierarchy", "prepareTypeHierarchy"]

def searchMethods : List String :=
  ["declaration", "definition", "typeDefinition", "implementation", "documentHighlight", "moniker"]

def documentRequests : List (String × Decoder Unit) :=
  documentMethods.map (·, aboutDocument [inParts]) ++
  positionMethods.map (·, aboutPosition []) ++
  searchMethods.map (·, aboutPosition [inParts]) ++ [
  ("completion", aboutPosition [inParts, allows "context"
    (form [requires "triggerKind" int32, allows "triggerCharacter" string])]),
  ("signatureHelp", aboutPosition [allows "context" signatureContext]),
  ("references", aboutPosition [inParts,
    requires "context" (form [requires "includeDeclaration" boolean])]),
  ("rename", aboutPosition [requires "newName" string]),
  ("prepareRename", form [requires "textDocument" documentName, requires "position" position]),
  ("onTypeFormatting", merged [
    requires "textDocument" documentName,
    requires "position" position,
    requires "ch" string,
    requires "options" formattingOptions]),
  ("semanticTokens/full/delta", aboutDocument [inParts, requires "previousResultId" string]),
  ("semanticTokens/range", aboutRange [inParts]),
  ("inlayHint", aboutRange []),
  ("inlineValue", aboutRange [requires "context"
    (form [requires "frameId" int32, requires "stoppedLocation" range])]),
  ("selectionRange", aboutDocument [inParts, requires "positions" (list position)]),
  ("colorPresentation", aboutRange [inParts, requires "color" color]),
  ("formatting", aboutDocument [requires "options" formattingOptions]),
  ("rangeFormatting", aboutRange [requires "options" formattingOptions]),
  ("diagnostic", aboutDocument [inParts,
    allows "identifier" string, allows "previousResultId" string]),
  ("willSaveWaitUntil", saving)]

def otherRequests : List (String × Decoder Unit) := [
  ("callHierarchy/incomingCalls", aboutItem (checked (list int32))),
  ("callHierarchy/outgoingCalls", aboutItem (checked (list int32))),
  ("typeHierarchy/supertypes", aboutItem (checked int32)),
  ("typeHierarchy/subtypes", aboutItem (checked int32)),
  ("documentLink/resolve", documentLink),
  ("codeLens/resolve", codeLens),
  ("inlayHint/resolve", inlayHint),
  ("completionItem/resolve", checked completion),
  ("codeAction/resolve", quickFix),
  ("workspaceSymbol/resolve", workspaceSymbol),
  ("workspace/diagnostic", merged [
    allows "identifier" string,
    requires "previousResultIds" (list (form [requires "uri" uri, requires "value" string])),
    workDone, inParts]),
  ("workspace/symbol", merged [requires "query" string, workDone, inParts]),
  ("workspace/willCreateFiles", aboutFiles ["uri"]),
  ("workspace/willRenameFiles", aboutFiles ["oldUri", "newUri"]),
  ("workspace/willDeleteFiles", aboutFiles ["uri"])]

def unservedNotifications : List String :=
  ["textDocument/willSave", "textDocument/didSave", "workspace/didChangeConfiguration",
   "workspace/didChangeWorkspaceFolders", "workspace/didCreateFiles", "workspace/didRenameFiles",
   "workspace/didDeleteFiles", "workspace/didChangeWatchedFiles"]

inductive Unserved where
  | request (params : Decoder Unit)
  | notification

def unserved? (method : String) : Option Unserved :=
  if unservedNotifications.contains method then some .notification
  else
    ((documentRequests.map fun (name, params) => ("textDocument/" ++ name, params)).lookup method
      |>.or (otherRequests.lookup method)).map .request

end CaseFill.Protocol
