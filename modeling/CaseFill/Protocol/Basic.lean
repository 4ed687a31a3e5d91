import CaseFill.Host.Dialogue
import CaseFill.Json.Decode
import CaseFill.Uri.Parser

/-! Positions, ranges and locations on the wire, in both directions. -/
namespace CaseFill.Protocol

open Json (Decoder)
open Json.Decoder

def text : Decoder Text := fun v => (string v).map String.toList

def uri : Decoder Uri := fun v => do Uri.parse? (← string v)

def position : Decoder Position :=
  record do return ⟨← field "line" nat32, ← field "character" nat32⟩

def range : Decoder Range :=
  record do return ⟨← field "start" position, ← field "end" position⟩

def location : Decoder Location :=
  record do return ⟨← field "uri" uri, ← field "range" range⟩

def documentName : Decoder Uri := record (field "uri" uri)

def textJson (t : Text) : Json := .str (String.ofList t)

def positionJson (p : Position) : Json :=
  .obj [("line", .int p.line), ("character", .int p.column)]

def rangeJson (r : Range) : Json :=
  .obj [("start", positionJson r.start), ("end", positionJson r.stop)]

def uriJson (u : Uri) : Json := .str u.text

def documentNameJson (u : Uri) : Json := .obj [("uri", uriJson u)]

def textEditJson (e : TextEdit) : Json :=
  .obj [("range", rangeJson e.range), ("newText", textJson e.newText)]

end CaseFill.Protocol
