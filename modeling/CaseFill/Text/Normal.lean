import CaseFill.Text.Character
import CaseFill.Text.CombiningClass
import CaseFill.Text.Composition

/-! The composed normal form of a text. A character with marks can be written in
several ways, as one character or as several, and with its marks in different
orders. The normal form takes every character apart, puts the marks in order and
puts together again what can be. -/
namespace CaseFill.Text

/-! ### Syllables of Hangul -/

def hangulBase : Nat := 0xAC00

def leadBase : Nat := 0x1100

def vowelBase : Nat := 0x1161

/-- The code point before the first of the 27 trailing consonants. -/
def trailBase : Nat := 0x11A7

def isAmong (base count n : Nat) : Bool := decide (base ≤ n) && decide (n < base + count)

def splitHangul? (n : Nat) : Option (Nat × Nat) :=
  if isAmong hangulBase 11172 n then
    let i := n - hangulBase
    if i % 28 = 0 then some (leadBase + i / 588, vowelBase + i % 588 / 28)
    else some (n - i % 28, trailBase + i % 28)
  else none

def joinHangul? (a b : Nat) : Option Nat :=
  if isAmong leadBase 19 a && isAmong vowelBase 21 b then
    some (hangulBase + ((a - leadBase) * 21 + (b - vowelBase)) * 28)
  else if isAmong hangulBase 11172 a && (a - hangulBase) % 28 == 0 && isAmong (trailBase + 1) 27 b then
    some (a + (b - trailBase))
  else none

/-! ### Taking apart and putting together -/

def counterpart? (source target : List Char) (c : Char) : Option Char :=
  (source.zip target).lookup c

def split? (c : Char) : Option (Char × Char) :=
  match splitHangul? c.toNat with
  | some (a, b) => some (Char.ofNat a, Char.ofNat b)
  | none => compositions.findSome? fun (mark, bases, results) =>
    (counterpart? results.toList bases.toList c).map (·, Char.ofNat mark)

def join? (a b : Char) : Option Char :=
  match joinHangul? a.toNat b.toNat with
  | some n => some (Char.ofNat n)
  | none => compositions.findSome? fun (mark, bases, results) =>
    if mark = b.toNat then counterpart? bases.toList results.toList a else none

def takeApart : Nat → Char → Text
  | 0, c => [c]
  | n + 1, c =>
    match split? c with
    | some (a, b) => takeApart n a ++ [b]
    | none => [c]

def marksLimit : Nat := 4

/-- Put a character at the end of a reversed text: a mark goes in front of the
marks of higher classes that it meets there. -/
def placeMark (c : Char) : Text → Text
  | [] => [c]
  | d :: rest =>
    if combiningClass c ≠ 0 ∧ combiningClass c < combiningClass d then d :: placeMark c rest
    else c :: d :: rest

def decomposed (t : Text) : Text :=
  ((t.flatMap (takeApart marksLimit)).foldl (fun acc c => placeMark c acc) []).reverse

/-- Whether a character reaches the one before some marks, which are reversed:
marks of its own class or a higher one stand in its way. -/
def reaches (marks : Text) (c : Char) : Bool :=
  match marks with
  | [] => true
  | d :: _ => decide (combiningClass d < combiningClass c)

/-- Put together what can be. `base` is the last character that begins a cluster,
and `marks` are those behind it, reversed, that could not be put to it. -/
def putTogether (base : Char) (marks : Text) : Text → Text
  | [] => base :: marks.reverse
  | c :: rest =>
    match if reaches marks c then join? base c else none with
    | some d => putTogether d marks rest
    | none =>
      if combiningClass c = 0 then base :: marks.reverse ++ putTogether c [] rest
      else putTogether base (c :: marks) rest

def composed (t : Text) : Text :=
  let t := decomposed t
  let marks := t.takeWhile (combiningClass · ≠ 0)
  match t.dropWhile (combiningClass · ≠ 0) with
  | [] => marks
  | c :: rest => marks ++ putTogether c [] rest

end CaseFill.Text
