import CaseFill.Host.Dialogue
import CaseFill.Text.Word

/-! The sweep over a range: the editor is asked for definitions at every
position, line by line and column by column, up to a cap. -/
namespace CaseFill

structure Row where
  line : Nat
  first : Nat
  count : Nat
deriving DecidableEq, Repr

namespace Row

def positions (r : Row) : List Position :=
  (List.range' r.first r.count).map fun column => ⟨r.line, column⟩

end Row

/-- What the sweep found: a definition, and the identifier at the position that
reported it, empty if there was none. -/
structure Hit where
  location : Location
  identifier : Text
deriving DecidableEq, Repr

namespace Sweep

/-- The columns of one line that a range covers, both ends included. -/
def rowOf (range : Range) (line : Nat) (text : Text) : Row :=
  let first := if line = range.start.line then range.start.column else 0
  let last := if line = range.stop.line then range.stop.column else Text.width text
  { line := line, first := first, count := last + 1 - first }

def rows (content : Text) (range : Range) : List Row :=
  let covered := ((Text.lines content).drop range.start.line).take
    (range.stop.line + 1 - range.start.line)
  covered.zipIdx.map fun (text, i) => rowOf range (range.start.line + i) text

def positions (content : Text) (range : Range) : List Position :=
  (rows content range).flatMap Row.positions

def next? : List Row → Option (Position × List Row)
  | [] => none
  | r :: rest =>
    match r.count with
    | 0 => next? rest
    | n + 1 => some (⟨r.line, r.first⟩, ⟨r.line, r.first + 1, n⟩ :: rest)

theorem next?_eq_none_iff (rows : List Row) :
    next? rows = none ↔ rows.flatMap Row.positions = [] := by
  induction rows with
  | nil => simp [next?]
  | cons r rest ih =>
    obtain ⟨line, first, count⟩ := r
    cases count with
    | zero => simpa [next?, Row.positions] using ih
    | succ n => simp [next?, Row.positions, List.range'_succ]

theorem positions_of_next? {rows rest : List Row} {p : Position} (h : next? rows = some (p, rest)) :
    rows.flatMap Row.positions = p :: rest.flatMap Row.positions := by
  induction rows with
  | nil => simp [next?] at h
  | cons r others ih =>
    obtain ⟨line, first, count⟩ := r
    cases count with
    | zero => simpa [Row.positions] using ih (by simpa [next?] using h)
    | succ n =>
      simp only [next?, Option.some.injEq, Prod.mk.injEq] at h
      obtain ⟨rfl, rfl⟩ := h
      simp [Row.positions, List.range'_succ]

def isKnown (hits : List Hit) (range : Range) : Bool :=
  hits.any fun hit => decide (hit.location.range = range)

def addHit (identifier : Text) (hits : List Hit) (location : Location) : List Hit :=
  if isKnown hits location.range then hits else hits ++ [⟨location, identifier⟩]

def record (content : Text) (p : Position) (hits : List Hit) (found : List Location) : List Hit :=
  found.foldl (addHit ((Text.wordAt content p).getD [])) hits

def sweepRows (uri : Uri) (content : Text) : Nat → List Row → List Hit → Inquiry (List Hit)
  | 0, _, hits => pure hits
  | cap + 1, rows, hits =>
    match next? rows with
    | none => pure hits
    | some (p, rows) => do
      let found ← Inquiry.query (.definition uri p)
      sweepRows uri content cap rows (record content p hits found)

/-- The definitions found in a range, with distinct ranges, in the order in
which the sweep met them. -/
def definitions (uri : Uri) (content : Text) (range : Range) (cap : Nat) : Inquiry (List Hit) :=
  sweepRows uri content cap (rows content range) []

end Sweep
end CaseFill
