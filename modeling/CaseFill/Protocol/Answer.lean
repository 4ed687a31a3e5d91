import CaseFill.Hover
import CaseFill.Protocol.Basic

/-! The editor's answers on the wire. An editor may answer in several forms: one
location or many, locations or links, nested or flat symbols, a list of
completions or a list with remarks. The forms are told apart by trying them in
order, and each is reduced to the one form that the program works with. -/
namespace CaseFill.Protocol

open Json (Decoder)
open Json.Decoder

/-! ### Locations -/

structure LocationLink where
  targetUri : Uri
  targetRange : Range
  targetSelectionRange : Range
deriving DecidableEq, Repr

inductive Definitions where
  | one (location : Location)
  | several (locations : List Location)
  | links (links : List LocationLink)

/-- The locations of an answer; a link leads to the name. -/
def Definitions.locations : Definitions → List Location
  | one l => [l]
  | several ls => ls
  | links ls => ls.map fun l => ⟨l.targetUri, l.targetSelectionRange⟩

def locationLink : Decoder LocationLink := record do
  let _ ← maybe "originSelectionRange" range
  return ⟨← field "targetUri" uri, ← field "targetRange" range, ← field "targetSelectionRange" range⟩

def definitions : Decoder Definitions := fun v =>
  ((location v).map .one).or
    (((list location v).map .several).or ((list locationLink v).map .links))

/-! ### Hovers -/

def marked : Decoder Marked :=
  orElse (fun v => (text v).map .plain)
    (record do return .code (← field "language" text) (← field "value" text))

def markupKind : Decoder String := oneOf ["plaintext", "markdown"]

def markup : Decoder Text := record do
  let _ ← field "kind" markupKind
  field "value" text

def hoverContents : Decoder HoverContents := fun v =>
  ((marked v).map .one).or (((list marked v).map .several).or ((markup v).map .markup))

def hover : Decoder HoverContents := record do
  let contents ← field "contents" hoverContents
  let _ ← maybe "range" range
  return contents

/-! ### Symbols -/

structure SymbolEntry where
  name : Text
  kind : SymbolKind
  location : Location
deriving DecidableEq, Repr

def SymbolEntry.symbol (e : SymbolEntry) : Symbol := ⟨e.name, e.kind, e.location.range, []⟩

structure SymbolTree where
  name : Text
  kind : SymbolKind
  range : Range
  children : Option (List SymbolTree)

namespace SymbolTree

mutual

/-- The symbol of a nested answer; without a list of children it has none. -/
def symbol : SymbolTree → Symbol
  | ⟨name, kind, range, none⟩ => ⟨name, kind, range, []⟩
  | ⟨name, kind, range, some children⟩ => ⟨name, kind, range, symbols children⟩

def symbols : List SymbolTree → List Symbol
  | [] => []
  | t :: rest => symbol t :: symbols rest

end

end SymbolTree

inductive DocumentSymbols where
  | nested (trees : List SymbolTree)
  | flat (entries : List SymbolEntry)

def DocumentSymbols.symbols : DocumentSymbols → List Symbol
  | nested trees => SymbolTree.symbols trees
  | flat entries => entries.map SymbolEntry.symbol

def symbolKind : Decoder SymbolKind := fun v => (int32 v).map SymbolKind.mk

def symbolEntry : Decoder SymbolEntry := record do
  let name ← field "name" text
  let kind ← field "kind" symbolKind
  let _ ← maybe "tags" (list int32)
  let _ ← maybe "deprecated" boolean
  let location ← field "location" location
  let _ ← maybe "containerName" string
  return ⟨name, kind, location⟩

def symbolTree : Nat → Decoder SymbolTree
  | 0 => fun _ => none
  | depth + 1 => record do
    let name ← field "name" text
    let _ ← maybe "detail" string
    let kind ← field "kind" symbolKind
    let _ ← maybe "tags" (list int32)
    let _ ← maybe "deprecated" boolean
    let extent ← field "range" range
    let _ ← field "selectionRange" range
    let children ← maybe "children" (list (symbolTree depth))
    return ⟨name, kind, extent, children⟩

def documentSymbols : Decoder DocumentSymbols := fun v =>
  ((list symbolEntry v).map .flat).or ((list (symbolTree v.depth) v).map .nested)

/-! ### Completions -/

structure Completion where
  label : Text
  kind : Option Int
deriving DecidableEq, Repr

def textEdit : Decoder Unit := form [requires "range" range, requires "newText" string]

def completionEdit : Decoder Unit :=
  either textEdit
    (form [requires "newText" string, requires "insert" range, requires "replace" range])

def commandNote : Decoder Unit :=
  form [requires "title" string, requires "command" string, allows "arguments" (list any)]

def labelDetails : Decoder Unit := form [allows "detail" string, allows "description" string]

def explanation : Decoder Unit := either string markup

def completion : Decoder Completion := record do
  let label ← field "label" text
  let _ ← maybe "labelDetails" labelDetails
  let kind ← maybe "kind" int32
  let _ ← maybe "detail" string
  let _ ← maybe "documentation" explanation
  let _ ← maybe "deprecated" boolean
  let _ ← maybe "preselect" boolean
  let _ ← maybe "sortText" string
  let _ ← maybe "filterText" string
  let _ ← maybe "insertText" string
  let _ ← maybe "insertTextFormat" int32
  let _ ← maybe "insertTextMode" int32
  let _ ← maybe "textEdit" completionEdit
  let _ ← maybe "additionalTextEdits" (list textEdit)
  let _ ← maybe "command" commandNote
  let _ ← maybe "commitCharacters" (list string)
  let _ ← maybe "data" any
  let _ ← maybe "tags" (list int32)
  return ⟨label, kind⟩

def completionList : Decoder (List Completion) := record do
  let _ ← field "isIncomplete" boolean
  field "items" (list completion)

def completions : Decoder (List Completion) := orElse (list completion) completionList

/-! ### Edits -/

structure EditReport where
  applied : Bool
  failureReason : Option String
deriving DecidableEq, Repr

def editReport : Decoder EditReport := record do
  let applied ← field "applied" boolean
  let reason ← maybe "failureReason" string
  let _ ← maybe "failedChange" nat32
  return ⟨applied, reason⟩

/-- An edit that was not applied for a given reason is rejected; without a reason
it is declined. -/
def EditReport.answer (method : String) (r : EditReport) : Except HostError Bool :=
  match r.applied, r.failureReason with
  | false, some reason => .error (.rejected method reason)
  | applied, _ => .ok applied

end CaseFill.Protocol
