/-! Positions in a document and ranges between them. Lines and columns are natural
numbers. Editors count them in 32 bits without a sign; that the lines of a document and
the columns of its lines fit there, as do the columns that an edit moves, is assumed. -/
namespace CaseFill

/-- A place in a document: line and column, both counted from zero, the column
in UTF-16 code units. -/
structure Position where
  line : Nat
  column : Nat
deriving DecidableEq, Repr, Inhabited

namespace Position

protected def le (p q : Position) : Prop :=
  p.line < q.line ∨ (p.line = q.line ∧ p.column ≤ q.column)

instance : LE Position := ⟨Position.le⟩

instance (p q : Position) : Decidable (p ≤ q) :=
  inferInstanceAs (Decidable (p.line < q.line ∨ (p.line = q.line ∧ p.column ≤ q.column)))

end Position

structure Range where
  start : Position
  stop : Position
deriving DecidableEq, Repr, Inhabited

namespace Range

/-- Whether two ranges share a position; touching ends count. -/
def intersects (a b : Range) : Bool := decide (a.start ≤ b.stop) && decide (b.start ≤ a.stop)

end Range
end CaseFill
