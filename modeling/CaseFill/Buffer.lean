import CaseFill.Text.Column
import CaseFill.TextEdit

/-! The text of a document under edits. Lines are separated by line feeds and
columns count UTF-16 code units. All edits of one transaction refer to the text
before it, and insertions at one position keep their order. -/
namespace CaseFill.Buffer

/-- Number of characters before a column of the first line. A column past the
end of the line stands for its end. -/
def placeInLine : Text → Nat → Nat
  | _, 0 => 0
  | [], _ + 1 => 0
  | c :: cs, n + 1 => if c = '\n' then 0 else placeInLine cs (n + 1 - Text.units c) + 1

/-- Number of characters before a column of a line. A line past the end of the
text stands for its end. -/
def placeOf : Text → Nat → Nat → Nat
  | t, 0, column => placeInLine t column
  | [], _ + 1, _ => 0
  | c :: cs, line + 1, column => placeOf cs (if c = '\n' then line else line + 1) column + 1

def place (t : Text) (p : Position) : Nat := placeOf t p.line p.column

structure Splice where
  start : Nat
  stop : Nat
  newText : Text
deriving DecidableEq, Repr

def spliceOf (t : Text) (e : TextEdit) : Splice :=
  ⟨place t e.range.start, place t e.range.stop, e.newText⟩

def Splice.before (a b : Splice) : Bool :=
  decide (a.start < b.start) || (decide (a.start = b.start) && decide (a.stop ≤ b.stop))

def Splice.apart (a b : Splice) : Prop := a.stop ≤ b.start ∨ b.stop ≤ a.start

/-- Carry out splices that are in order on the text from place `done` on. -/
def spliceFrom (t : Text) (done : Nat) : List Splice → Text
  | [] => t.drop done
  | s :: rest => (t.take s.start).drop done ++ s.newText ++ spliceFrom t (max done s.stop) rest

def apply (t : Text) (edits : List TextEdit) : Text :=
  spliceFrom t 0 ((edits.map (spliceOf t)).mergeSort Splice.before)

end CaseFill.Buffer
