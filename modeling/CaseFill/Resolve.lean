import CaseFill.Header
import CaseFill.Hover
import CaseFill.Settings
import CaseFill.Sweep

/-! Resolving a switch: is it over an enumeration, and over which one? Each
definition under the range leads through its hover to the name of a type and
through its type definition to a symbol tree, in which an enumeration of that
name has to stand. -/
namespace CaseFill

structure ResolvedEnum where
  /-- Declared name without qualifiers. -/
  name : Text
  symbol : Symbol
  declaredIn : Uri
  /-- The switched identifier that led to it. -/
  identifier : Text
deriving Repr

namespace Resolve

/-- Whether the first line of the range has the keyword, be it part of a longer
word. -/
def hasKeyword (content : Text) (range : Range) : Bool :=
  (Text.line? content range.start.line).any (Text.occursIn switchKeyword)

/-- The range that a request is about: a bare cursor stands for its whole line. -/
def headerRange (content : Text) (requested : Range) : Range :=
  if requested.start = requested.stop then
    let line := requested.start.line
    ⟨⟨line, 0⟩, ⟨line, ((Text.line? content line).map Text.width).getD 0⟩⟩
  else requested

def searchAround (name : Text) : List Location → Inquiry (Option (Uri × Symbol))
  | [] => pure none
  | l :: rest => do
    let symbols ← Inquiry.query (.documentSymbol l.uri)
    match Symbol.find name .enum (some l.range) symbols with
    | some symbol => return some (l.uri, symbol)
    | none => searchAround name rest

/-- Look for an enumeration called `name` from a definition. Without a type
definition the definition's own document is searched, all of it. -/
def findEnum (definition : Location) (name : Text) : Inquiry (Option (Uri × Symbol)) := do
  let types ← Inquiry.query (.typeDefinition definition.uri definition.range.start)
  match types with
  | [] =>
    let symbols ← Inquiry.query (.documentSymbol definition.uri)
    return (Symbol.find name .enum none symbols).map (definition.uri, ·)
  | types => searchAround name types

/-- The type name that the hovers at a definition yield. The first hover that is
not blank governs, and it has to mention the identifier. -/
def nameFrom (hovers : List Text) (identifier : Text) : Option Text := do
  let hover ← hovers.find? (!Hover.isEmpty ·)
  if Text.occursIn identifier hover then Hover.typeName? hover identifier else none

def follow (hit : Hit) : Inquiry (Option ResolvedEnum) := do
  if hit.identifier = [] then return none
  let hovers ← Inquiry.query (.hover hit.location.uri hit.location.range.start)
  match nameFrom hovers hit.identifier with
  | none => return none
  | some name =>
    match ← findEnum hit.location name with
    | some (uri, symbol) => return some ⟨name, symbol, uri, hit.identifier⟩
    | none => return none

def firstEnum : List Hit → Inquiry (Option ResolvedEnum)
  | [] => pure none
  | hit :: rest => do
    match ← follow hit with
    | some found => return some found
    | none => firstEnum rest

/-- The enumeration that the switch in a range is over. There is none when the
keyword is missing or no hit leads to one. -/
def resolve (uri : Uri) (content : Text) (range : Range) (settings : Settings) :
    Inquiry (Option ResolvedEnum) := do
  if hasKeyword content range then
    firstEnum (← Sweep.definitions uri content range settings.maxSweepPositions)
  else return none

/-- Whether the switch in a range is over an enumeration. A failing editor means
that it is not. -/
def isEnumSwitch (uri : Uri) (content : Text) (range : Range) (settings : Settings) :
    Dialogue Bool := do
  match ← (resolve uri content range settings).run with
  | .ok resolved => return resolved.isSome
  | .error _ => return false

end Resolve
end CaseFill
