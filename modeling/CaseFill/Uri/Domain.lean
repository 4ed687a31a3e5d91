import CaseFill.Text.Blank
import CaseFill.Text.Mark
import CaseFill.Text.Normal
import CaseFill.Uri.Domain.Joining
import CaseFill.Uri.Domain.Letters
import CaseFill.Uri.Domain.Refused
import CaseFill.Uri.Domain.Words
import CaseFill.Uri.Punycode

/-! Domain names in any script. A name is brought into a form in which case and
width of letters make no difference, its labels are checked, and those with
characters outside ASCII are written in ASCII. The tables are those of the Unicode
standard, version 17. -/
namespace CaseFill.Uri.Domain

def place? (first step n : Nat) : Option Nat :=
  if first ≤ n ∧ (n - first) % step = 0 then some ((n - first) / step) else none

def replacement? (c : Char) : Option (List Char) :=
  if Text.inRanges ignoredRanges c.toNat then some []
  else
    (letterRows.findSome? fun (first, step, letters) => do
      return [← letters.toList[← place? first step c.toNat]?]).or
    (wordRows.findSome? fun (first, step, words) => do
      return (← words[← place? first step c.toNat]?).toList)

def mapped (cs : List Char) : List Char := cs.flatMap fun c => (replacement? c).getD [c]

def isAscii (c : Char) : Bool := decide (c.toNat < 128)

/-- Whether a label may hold a character. Which characters of ASCII a domain may
hold is not decided here. -/
def isAllowed (c : Char) : Bool :=
  isAscii c || (!(Text.inRanges refusedRanges c.toNat) && (replacement? c).isNone)

/-- Whether a label may be part of a domain, apart from the direction of its
letters: no mark stands at its front, and joining signs stand only where they
show. -/
def isWellFormed (label : List Char) : Bool :=
  label.all isAllowed && !(label.head?.any fun c => Text.inRanges Text.markRanges c.toNat) &&
    joinersFit [] label

def mark : List Char := "xn--".toList

def decodeLimit : Nat := 2000

def encodeLimit : Nat := 1000

/-- A label in its own script. One that is written in ASCII has to stand for a
label in normal form that needs to be. -/
def plain? (label : List Char) : Option (List Char) :=
  if mark.isPrefixOf label then do
    if !(label.all isAscii) || decodeLimit < label.length - mark.length then none
    let plain ← Punycode.decode? (label.drop mark.length)
    if plain.all isAscii || mark.isPrefixOf plain || Text.composed plain ≠ plain then none
    return plain
  else some label

def asciiLabel? (label : List Char) : Option (List Char) :=
  if label.all isAscii then some label
  else if encodeLimit < label.length then none
  else some (mark ++ Punycode.encode label)

def ascii? (cs : List Char) : Option (List Char) := do
  let labels := Text.piecesBy (· == '.') (Text.composed (mapped cs))
  let plain ← labels.mapM plain?
  if plain.all isWellFormed && Direction.areSettled plain then
    return ['.'].intercalate (← labels.mapM asciiLabel?)
  else none

end CaseFill.Uri.Domain
