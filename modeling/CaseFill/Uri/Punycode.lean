/-! Punycode: a host label with characters outside ASCII is written with
letters, digits and hyphens only. The other characters are inserted in
ascending order, each by the distance from the previous insertion, and the
distances are written in a mixed base that adapts to them. -/
namespace CaseFill.Uri.Punycode

def digit (d : Nat) : Char :=
  if d < 26 then Char.ofNat ('a'.toNat + d) else Char.ofNat ('0'.toNat + (d - 26))

def threshold (k bias : Nat) : Nat :=
  if k ≤ bias then 1 else if bias + 26 ≤ k then 26 else k - bias

def scaleDown (delta k : Nat) : Nat × Nat :=
  if 455 < delta then scaleDown (delta / 35) (k + 36) else (delta, k)
termination_by delta
decreasing_by exact Nat.div_lt_self (by omega) (by omega)

def adapt (delta count : Nat) (first : Bool) : Nat :=
  let delta := if first then delta / 700 else delta / 2
  let (delta, k) := scaleDown (delta + delta / count) 0
  k + 36 * delta / (delta + 38)

/-- The digits of a distance; `fuel` bounds their number. -/
def digits : Nat → Nat → Nat → Nat → List Char
  | 0, _, _, _ => []
  | fuel + 1, bias, k, q =>
    let t := threshold k bias
    if q < t then [digit q]
    else digit (t + (q - t) % (36 - t)) :: digits fuel bias (k + 36) ((q - t) / (36 - t))

structure Pass where
  delta : Nat
  bias : Nat
  handled : Nat
  written : List Char

def insertions (next basic : Nat) (label : List Char) (start : Pass) : Pass :=
  label.foldl (fun p c =>
    if c.toNat < next then { p with delta := p.delta + 1 }
    else if c.toNat = next then
      { delta := 0
        bias := adapt p.delta (p.handled + 1) (p.handled == basic)
        handled := p.handled + 1
        written := p.written ++ digits (p.delta + 1) p.bias 36 p.delta }
    else p) start

def passes (basic : Nat) (label : List Char) : Nat → List Nat → Pass → Pass
  | _, [], p => p
  | n, next :: rest, p =>
    let p := insertions next basic label
      { p with delta := p.delta + (next - n) * (p.handled + 1) }
    passes basic label (next + 1) rest { p with delta := p.delta + 1 }

def encode (label : List Char) : List Char :=
  let basic := label.filter (·.toNat < 128)
  let others := ((label.filter (·.toNat ≥ 128)).map Char.toNat).mergeSort.eraseDups
  let start : Pass :=
    { delta := 0, bias := 72, handled := basic.length
      written := if basic = [] then [] else basic ++ ['-'] }
  (passes basic.length label 128 others start).written

/-! ### Reading -/

def value? (c : Char) : Option Nat :=
  if c.isDigit then some (c.toNat - '0'.toNat + 26)
  else if c.isAlpha then some (c.toLower.toNat - 'a'.toNat)
  else none

def numberLimit : Nat := 0xFFFFFFFF

/-- Read the digits of a distance: the digit that is below its threshold is the
last. `weight` is the worth of the next digit and `sum` that of the digits
before; neither may pass the limit. -/
def distance? (bias : Nat) : Nat → Nat → Nat → List Char → Option (Nat × List Char)
  | _, _, _, [] => none
  | k, weight, sum, c :: rest => do
    if numberLimit < weight then none
    let sum := sum + (← value? c) * weight
    if numberLimit < sum then none
    let t := threshold k bias
    if (← value? c) < t then some (sum, rest)
    else distance? bias (k + 36) (weight * (36 - t)) sum rest

/-- Make the insertions that the digits tell; `place` and `code` are where the
last one was and what it inserted. Each insertion takes a digit, so their number
is bounded by `fuel`. -/
def inserted? : Nat → Nat → Nat → Nat → List Char → List Char → Option (List Char)
  | _, _, _, _, label, [] => some label
  | 0, _, _, _, _, _ => none
  | fuel + 1, bias, place, code, label, cs => do
    let (delta, rest) ← distance? bias 36 1 0 cs
    let size := label.length + 1
    let code := code + (place + delta) / size
    let place := (place + delta) % size
    if !code.isValidChar then none
    inserted? fuel (adapt delta size (label.all (·.toNat < 128))) (place + 1) code
      (label.take place ++ [Char.ofNat code] ++ label.drop place) rest

/-- The label that a text in this form stands for, its mark in front left out. What
stands before the last hyphen is in ASCII. -/
def decode? (cs : List Char) : Option (List Char) :=
  let digits := (cs.reverse.takeWhile (· ≠ '-')).reverse
  let basic := (cs.take (cs.length - digits.length)).dropLast
  let digits := if basic.isEmpty then cs else digits
  inserted? digits.length 72 0 128 basic digits

end CaseFill.Uri.Punycode
