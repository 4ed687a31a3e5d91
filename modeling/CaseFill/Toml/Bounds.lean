import CaseFill.Toml.Scalar

/-! Numbers of a document that a program can work with: whole numbers of up to
128 bits, and real numbers that do not go beyond the greatest binary number of 64
bits. -/
namespace CaseFill.Toml

def integerFits (n : Int) : Bool :=
  decide (-0x80000000000000000000000000000000 ≤ n) &&
    decide (n < 0x100000000000000000000000000000000)

/-- The least number that is rounded up beyond the greatest one: 1024 bits of
which the first 54 are set. -/
def realBound : Nat := 1 <<< 1024 - 1 <<< 970

/-- Whether `digits` with the decimal point moved `shift` places to the right is
below the bound. A number of up to 308 places is, and one of more than 309 is
not, so only a number of 309 places has to be compared. -/
def decimalFits (digits : List Char) (shift : Int) : Bool :=
  let digits := digits.dropWhile (· == '0')
  let places := digits.length + shift
  if digits.isEmpty ∨ places ≤ 308 then true
  else if 309 < places then false
  else decide (Digits.number 10 digits * Nat.pow 10 shift.toNat < realBound * Nat.pow 10 (-shift).toNat)

def digitsOf (cs : List Char) : List Char := cs.filter Char.isDigit

/-- Whether a real number, as it is written, stays below the bound; infinity and
what is no number are meant so. -/
def realFits (text : String) : Bool :=
  let unsigned := (Scalar.cutSign text.toList).2
  let (mantissa, exponent) := Text.cutAt (fun c => c == 'e' || c == 'E') unsigned
  let (whole, fraction) := Text.cutAt (· == '.') mantissa
  let (negative, power) := Scalar.cutSign (exponent.getD [])
  let power : Int := Digits.number 10 (digitsOf power)
  let decimals := digitsOf (fraction.getD [])
  decimalFits (digitsOf whole ++ decimals) ((if negative then -power else power) - decimals.length)

mutual

def isBounded : Toml → Bool
  | integer n => integerFits n
  | real text => realFits text
  | array items => areBounded items
  | table entries => entriesBounded entries
  | _ => true

def areBounded : List Toml → Bool
  | [] => true
  | v :: rest => isBounded v && areBounded rest

def entriesBounded : List (String × Toml) → Bool
  | [] => true
  | (_, v) :: rest => isBounded v && entriesBounded rest

end

end CaseFill.Toml
