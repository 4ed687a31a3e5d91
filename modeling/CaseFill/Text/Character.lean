import CaseFill.Text.Alphabetic
import CaseFill.Text.Numeric

/-! Character classes. A text is a list of characters; what counts as blank, as
a letter or as part of an identifier follows the Unicode properties White_Space,
Alphabetic and the number categories, so names in any script are identifiers. -/
namespace CaseFill

/-- A text is the list of its characters. Lines, hovers, symbol names, labels
and inserted code are all texts. -/
abbrev Text := List Char

namespace Text

def inRanges (ranges : List (Nat × Nat)) (n : Nat) : Bool :=
  ranges.any fun r => decide (r.1 ≤ n) && decide (n ≤ r.2)

def blankRanges : List (Nat × Nat) :=
  [(0x09, 0x0D), (0x20, 0x20), (0x85, 0x85), (0xA0, 0xA0), (0x1680, 0x1680),
   (0x2000, 0x200A), (0x2028, 0x2029), (0x202F, 0x202F), (0x205F, 0x205F), (0x3000, 0x3000)]

/-- White space of any script; line breaks are included. -/
def isBlank (c : Char) : Bool := inRanges blankRanges c.toNat

def isLetter (c : Char) : Bool :=
  if c.toNat < 128 then c.isAlpha else inRanges alphabeticRanges c.toNat

def isNumeral (c : Char) : Bool :=
  if c.toNat < 128 then c.isDigit else inRanges numericRanges c.toNat

def isIdentChar (c : Char) : Bool := isLetter c || isNumeral c || c == '_'

def isIdentStart (c : Char) : Bool := isLetter c || c == '_'

def isIdentifier : Text → Bool
  | [] => false
  | c :: cs => isIdentStart c && cs.all isIdentChar

end Text
end CaseFill
