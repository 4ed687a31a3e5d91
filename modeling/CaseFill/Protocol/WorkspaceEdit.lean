import CaseFill.Protocol.Answer

/-! Edits of several documents, in the form that clients send them. The server
makes nothing of them and only checks their form. -/
namespace CaseFill.Protocol

open Json (Decoder)
open Json.Decoder

def fileOperations : List (String × List (Record Unit)) := [
  ("create", [
    requires "uri" uri,
    allows "options" (form [allows "overwrite" boolean, allows "ignoreIfExists" boolean]),
    allows "annotationId" string]),
  ("rename", [
    requires "oldUri" uri,
    requires "newUri" uri,
    allows "options" (form [allows "overwrite" boolean, allows "ignoreIfExists" boolean]),
    allows "annotationId" string]),
  ("delete", [
    requires "uri" uri,
    allows "options" (form [
      allows "recursive" boolean,
      allows "ignoreIfNotExists" boolean,
      allows "annotationId" string])])]

/-- The kind of an operation on files, by its name or by its place in the list. -/
def operationKind : Decoder (List (Record Unit))
  | .str name => fileOperations.lookup name
  | .int n => if n < 0 then none else (fileOperations[n.toNat]?).map Prod.snd
  | _ => none

def fileOperation : Decoder Unit := record do
  let fields ← field "kind" operationKind
  fields.forM id

def documentEdit : Decoder Unit := form [
  requires "textDocument" (form [requires "uri" uri, allows "version" int32]),
  requires "edits" (list textEdit)]

def workspaceEdit : Decoder Unit := form [
  defaults "changes" (dictionary uri (list textEdit)),
  allows "documentChanges" (either (list documentEdit) (list (either fileOperation documentEdit))),
  allows "changeAnnotations" (dictionary string (form [
    requires "label" string, allows "needsConfirmation" boolean, allows "description" string]))]

end CaseFill.Protocol
