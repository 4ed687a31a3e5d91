import CaseFill.Protocol.Answer

/-! The capabilities a client announces. The server needs none of them, and only
checks that they have the form they should have. -/
namespace CaseFill.Protocol

open Json (Decoder)
open Json.Decoder

def flags (names : List String) : Decoder Unit := form (names.map (allows · boolean))

def each (names : List String) (d : Decoder Unit) : List (Record Unit) := names.map (allows · d)

def registrable : Decoder Unit := flags ["dynamicRegistration"]

def refreshable : Decoder Unit := flags ["refreshSupport"]

def resolvable : Decoder Unit := form [requires "properties" (list string)]

def knownValues {α : Type} (d : Decoder α) : Decoder Unit := form [allows "valueSet" (list d)]

/-- Tags that a client knows, or only whether it knows any. -/
def tagSupport : Record Unit :=
  defaults "tagSupport" (either boolean (form [requires "valueSet" (list int32)]))

/-! ### The workspace -/

def workspaceEditCapabilities : Decoder Unit := form [
  allows "documentChanges" boolean,
  allows "resourceOperations" (list (oneOf ["create", "rename", "delete"])),
  allows "failureHandling" (oneOf ["abort", "transactional", "textOnlyTransactional", "undo"]),
  allows "normalizesLineEndings" boolean,
  allows "changeAnnotationSupport" (flags ["groupsOnLabel"])]

def workspaceSymbolCapabilities : Decoder Unit := form [
  allows "dynamicRegistration" boolean,
  allows "symbolKind" (knownValues int32),
  tagSupport,
  allows "resolveSupport" resolvable]

def workspaceCapabilities : Decoder Unit := form ([
  allows "applyEdit" boolean,
  allows "workspaceEdit" workspaceEditCapabilities,
  allows "didChangeConfiguration" registrable,
  allows "didChangeWatchedFiles" (flags ["dynamicRegistration", "relativePatternSupport"]),
  allows "symbol" workspaceSymbolCapabilities,
  allows "executeCommand" registrable,
  allows "workspaceFolders" boolean,
  allows "configuration" boolean,
  allows "semanticTokens" refreshable,
  allows "codeLens" refreshable,
  allows "fileOperations" (flags ["dynamicRegistration", "didCreate", "willCreate", "didRename",
    "willRename", "didDelete", "willDelete"])] ++
  each ["inlineValue", "inlayHint", "diagnostic"] refreshable)

/-! ### Documents -/

def completionItemCapabilities : Decoder Unit := form [
  allows "snippetSupport" boolean,
  allows "commitCharactersSupport" boolean,
  allows "documentationFormat" (list markupKind),
  allows "deprecatedSupport" boolean,
  allows "preselectSupport" boolean,
  tagSupport,
  allows "insertReplaceSupport" boolean,
  allows "resolveSupport" resolvable,
  allows "insertTextModeSupport" (form [requires "valueSet" (list int32)]),
  allows "labelDetailsSupport" boolean]

def completionCapabilities : Decoder Unit := form [
  allows "dynamicRegistration" boolean,
  allows "completionItem" completionItemCapabilities,
  allows "completionItemKind" (knownValues int32),
  allows "contextSupport" boolean,
  allows "insertTextMode" int32,
  allows "completionList" (form [allows "itemDefaults" (list string)])]

def hoverCapabilities : Decoder Unit := form [
  allows "dynamicRegistration" boolean,
  allows "contentFormat" (list markupKind)]

def signatureHelpCapabilities : Decoder Unit := form [
  allows "dynamicRegistration" boolean,
  allows "signatureInformation" (form [
    allows "documentationFormat" (list markupKind),
    allows "parameterInformation" (flags ["labelOffsetSupport"]),
    allows "activeParameterSupport" boolean]),
  allows "contextSupport" boolean]

def documentSymbolCapabilities : Decoder Unit := form [
  allows "dynamicRegistration" boolean,
  allows "symbolKind" (knownValues int32),
  allows "hierarchicalDocumentSymbolSupport" boolean,
  tagSupport]

def gotoCapabilities : Decoder Unit := flags ["dynamicRegistration", "linkSupport"]

def codeActionCapabilities : Decoder Unit := form [
  allows "dynamicRegistration" boolean,
  allows "codeActionLiteralSupport"
    (form [requires "codeActionKind" (form [requires "valueSet" (list string)])]),
  allows "isPreferredSupport" boolean,
  allows "disabledSupport" boolean,
  allows "dataSupport" boolean,
  allows "resolveSupport" resolvable,
  allows "honorsChangeAnnotations" boolean]

def renameCapabilities : Decoder Unit := form [
  allows "dynamicRegistration" boolean,
  allows "prepareSupport" boolean,
  allows "prepareSupportDefaultBehavior" int32,
  allows "honorsChangeAnnotations" boolean]

def publishDiagnosticsCapabilities : Decoder Unit := form [
  allows "relatedInformation" boolean,
  tagSupport,
  allows "versionSupport" boolean,
  allows "codeDescriptionSupport" boolean,
  allows "dataSupport" boolean]

def foldingRangeCapabilities : Decoder Unit := form [
  allows "dynamicRegistration" boolean,
  allows "rangeLimit" nat32,
  allows "lineFoldingOnly" boolean,
  allows "foldingRangeKind" (knownValues (oneOf ["comment", "imports", "region"])),
  allows "foldingRange" (flags ["collapsedText"])]

def semanticTokensCapabilities : Decoder Unit := form [
  allows "dynamicRegistration" boolean,
  requires "requests" (form [
    allows "range" boolean,
    allows "full" (either boolean (merged [allows "delta" boolean]))]),
  requires "tokenTypes" (list string),
  requires "tokenModifiers" (list string),
  requires "formats" (list string),
  allows "overlappingTokenSupport" boolean,
  allows "multilineTokenSupport" boolean,
  allows "serverCancelSupport" boolean,
  allows "augmentsSyntaxTokens" boolean]

def inlayHintCapabilities : Decoder Unit := form [
  allows "dynamicRegistration" boolean,
  allows "resolveSupport" resolvable]

def documentCapabilities : Decoder Unit := form ([
  allows "synchronization"
    (flags ["dynamicRegistration", "willSave", "willSaveWaitUntil", "didSave"]),
  allows "completion" completionCapabilities,
  allows "hover" hoverCapabilities,
  allows "signatureHelp" signatureHelpCapabilities,
  allows "references" registrable,
  allows "documentHighlight" registrable,
  allows "documentSymbol" documentSymbolCapabilities] ++
  each ["formatting", "rangeFormatting", "onTypeFormatting"] registrable ++
  each ["declaration", "definition", "typeDefinition", "implementation"] gotoCapabilities ++ [
  allows "codeAction" codeActionCapabilities,
  allows "codeLens" registrable,
  allows "documentLink" (flags ["dynamicRegistration", "tooltipSupport"]),
  allows "colorProvider" registrable,
  allows "rename" renameCapabilities,
  allows "publishDiagnostics" publishDiagnosticsCapabilities,
  allows "foldingRange" foldingRangeCapabilities] ++
  each ["selectionRange", "linkedEditingRange", "callHierarchy"] registrable ++ [
  allows "semanticTokens" semanticTokensCapabilities] ++
  each ["moniker", "typeHierarchy", "inlineValue"] registrable ++ [
  allows "inlayHint" inlayHintCapabilities,
  allows "diagnostic" (flags ["dynamicRegistration", "relatedDocumentSupport"])])

/-! ### Everything -/

def windowCapabilities : Decoder Unit := form [
  allows "workDoneProgress" boolean,
  allows "showMessage"
    (form [allows "messageActionItem" (flags ["additionalPropertiesSupport"])]),
  allows "showDocument" (form [requires "support" boolean])]

def generalCapabilities : Decoder Unit := form [
  allows "regularExpressions" (form [requires "engine" string, allows "version" string]),
  allows "markdown" (form [
    requires "parser" string, allows "version" string, allows "allowedTags" (list string)]),
  allows "staleRequestSupport" (form [
    requires "cancel" boolean, requires "retryOnContentModified" (list string)]),
  allows "positionEncodings" (list string)]

def capabilities : Decoder Unit := form [
  allows "workspace" workspaceCapabilities,
  allows "textDocument" documentCapabilities,
  allows "window" windowCapabilities,
  allows "general" generalCapabilities,
  allows "experimental" any]

end CaseFill.Protocol
