import CaseFill.Protocol.Answer

/-! Calls on the wire: the parameters that carry a call, and the reading of what
comes back. No answer at all is the empty one; an answer that cannot be read is
a failure of the transport. -/
namespace CaseFill

inductive WireReply where
  | result (value : Json)
  | error (code : Int) (message : String)

namespace Call

open Protocol Json.Decoder

def positionParams (uri : Uri) (p : Position) : Json :=
  .obj [("textDocument", documentNameJson uri), ("position", positionJson p)]

def params : Call → Json
  | definition uri p => positionParams uri p
  | hover uri p => positionParams uri p
  | typeDefinition uri p => positionParams uri p
  | documentSymbol uri => documentNameJson uri
  | completion uri p => positionParams uri p
  | edit uri edits =>
    .obj [("edit", .obj [("changes", .obj [(uri.text, .arr (edits.map textEditJson))])])]

def unreadable (method : String) : HostError := .transport method (-32700) "unreadable result"

def read {α β : Type} (method : String) (d : Json.Decoder α) (view : α → List β) (v : Json) :
    Except HostError (List β) :=
  match nullable d v with
  | some answer => .ok ((answer.map view).getD [])
  | none => .error (unreadable method)

def readAnswer (v : Json) : (call : Call) → Except HostError call.Answer
  | c@(definition _ _) => read c.method definitions Definitions.locations v
  | c@(hover _ _) => read c.method (list Protocol.hover) (·.map Hover.render) v
  | c@(typeDefinition _ _) => read c.method definitions Definitions.locations v
  | c@(documentSymbol _) => read c.method documentSymbols DocumentSymbols.symbols v
  | c@(completion _ _) => read c.method completions (·.map Completion.label) v
  | c@(edit _ _) =>
    match editReport v with
    | some report => report.answer c.method
    | none => .error (unreadable c.method)

def readReply (call : Call) : WireReply → Except HostError call.Answer
  | .result v => call.readAnswer v
  | .error code message => .error (.transport call.method code message)

end Call
end CaseFill
