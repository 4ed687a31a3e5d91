/-! Digits and the numbers they denote, in bases up to sixteen. -/
namespace CaseFill.Digits

def value? (c : Char) : Option Nat :=
  if c.isDigit then some (c.toNat - '0'.toNat)
  else if 'a' ≤ c ∧ c ≤ 'f' then some (c.toNat - 'a'.toNat + 10)
  else if 'A' ≤ c ∧ c ≤ 'F' then some (c.toNat - 'A'.toNat + 10)
  else none

def isDigitIn (base : Nat) (c : Char) : Bool := (value? c).any (· < base)

/-- The number that a list of digits denotes in a base; no digits denote zero. -/
def number (base : Nat) (ds : List Char) : Nat :=
  ds.foldl (fun n d => n * base + (value? d).getD 0) 0

def number? (base : Nat) (cs : List Char) : Option Nat :=
  if cs.all (isDigitIn base) then some (number base cs) else none

def hexDigit (n : Nat) : Char :=
  if n < 10 then Char.ofNat ('0'.toNat + n) else Char.ofNat ('a'.toNat + (n - 10))

end CaseFill.Digits
