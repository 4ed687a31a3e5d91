import CaseFill.Text.Line

/-! Columns and byte offsets. A column counts UTF-16 code units and a byte
offset counts bytes of the UTF-8 encoding. Both are measures of the part of a
line that stands before a place, and each is computed from the other here. Both are
natural numbers: a line is assumed to have fewer than 2 ^ 32 columns, so no sum of units
overflows the 32 bits of an editor's column. -/
namespace CaseFill.Text

def units (c : Char) : Nat := if c.toNat < 0x10000 then 1 else 2

def width : Text → Nat
  | [] => 0
  | c :: cs => units c + width cs

def byteSize : Text → Nat
  | [] => 0
  | c :: cs => c.utf8Size + byteSize cs

@[simp] theorem width_append (s t : Text) : width (s ++ t) = width s + width t := by
  induction s with
  | nil => simp [width]
  | cons c cs ih => simp [width, ih, Nat.add_assoc]

@[simp] theorem byteSize_append (s t : Text) : byteSize (s ++ t) = byteSize s + byteSize t := by
  induction s with
  | nil => simp [byteSize]
  | cons c cs ih => simp [byteSize, ih, Nat.add_assoc]

theorem units_pos (c : Char) : 0 < units c := by
  unfold units; split <;> omega

/-- Column of byte offset `b`. There is none when the offset lies inside a
character or past the end. -/
def columnAtByte : Text → Nat → Option Nat
  | _, 0 => some 0
  | [], _ + 1 => none
  | c :: cs, b + 1 =>
    if c.utf8Size ≤ b + 1 then (columnAtByte cs (b + 1 - c.utf8Size)).map (units c + ·) else none

/-- Byte offset of column `n`. A column inside a surrogate pair stands for the
end of that character; a column past the end has no offset. -/
def byteAtColumn : Text → Nat → Option Nat
  | _, 0 => some 0
  | [], _ + 1 => none
  | c :: cs, n + 1 => (byteAtColumn cs (n + 1 - units c)).map (c.utf8Size + ·)

def splitAtColumn : Text → Nat → Option (Text × Text)
  | t, 0 => some ([], t)
  | [], _ + 1 => none
  | c :: cs, n + 1 => (splitAtColumn cs (n + 1 - units c)).map fun p => (c :: p.1, p.2)

end CaseFill.Text
