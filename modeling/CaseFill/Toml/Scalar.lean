import CaseFill.Digits
import CaseFill.Json.Parser
import CaseFill.Text.Blank
import CaseFill.Toml

/-! Single TOML values: numbers, truth values, dates and times, and strings in
their four spellings. -/
namespace CaseFill.Toml.Scalar

open CaseFill.Json.Parser (Reader)

/-! ### Numbers -/

/-- Remove underscores, each of which has to stand between two digits. -/
def plainDigits? (isDigit : Char → Bool) : List Char → Option (List Char)
  | [] => none
  | [d] => if isDigit d then some [d] else none
  | d :: '_' :: rest => if isDigit d then (plainDigits? isDigit rest).map (d :: ·) else none
  | d :: rest => if isDigit d then (plainDigits? isDigit rest).map (d :: ·) else none

def natIn? (base : Nat) (cs : List Char) : Option Nat :=
  (plainDigits? (Digits.isDigitIn base) cs).map (Digits.number base)

/-- The digits of a decimal number; only zero itself begins with a zero. -/
def decimalDigits? (cs : List Char) : Option (List Char) := do
  let ds ← plainDigits? Char.isDigit cs
  if ds.length > 1 ∧ ds.head? = some '0' then none else some ds

def cutSign : List Char → Bool × List Char
  | '-' :: rest => (true, rest)
  | '+' :: rest => (false, rest)
  | cs => (false, cs)

def integer? (cs : List Char) : Option Int :=
  match cs with
  | '0' :: 'x' :: rest => (natIn? 16 rest).map Int.ofNat
  | '0' :: 'o' :: rest => (natIn? 8 rest).map Int.ofNat
  | '0' :: 'b' :: rest => (natIn? 2 rest).map Int.ofNat
  | cs =>
    let (negative, ds) := cutSign cs
    (decimalDigits? ds).map fun ds => if negative then -(Digits.number 10 ds : Int) else Digits.number 10 ds

def isExponent (cs : List Char) : Bool := (plainDigits? Char.isDigit (cutSign cs).2).isSome

def isReal (cs : List Char) : Bool :=
  let unsigned := (cutSign cs).2
  if unsigned = "inf".toList ∨ unsigned = "nan".toList then true
  else
    let (mantissa, exponent) := Text.cutAt (fun c => c == 'e' || c == 'E') unsigned
    let (whole, fraction) := Text.cutAt (· == '.') mantissa
    (decimalDigits? whole).isSome && (fraction.isSome || exponent.isSome) &&
      fraction.all (fun f => (plainDigits? Char.isDigit f).isSome) && exponent.all isExponent

/-! ### Dates and times -/

def field? (n low high : Nat) (cs : List Char) : Option (Nat × List Char) :=
  let ds := cs.take n
  if ds.length = n ∧ ds.all Char.isDigit ∧ low ≤ Digits.number 10 ds ∧ Digits.number 10 ds ≤ high then
    some (Digits.number 10 ds, cs.drop n)
  else none

def expect (c : Char) : List Char → Option (List Char)
  | d :: rest => if c = d then some rest else none
  | [] => none

def daysIn (year month : Nat) : Nat :=
  if month = 2 then
    if year % 4 = 0 ∧ (year % 100 ≠ 0 ∨ year % 400 = 0) then 29 else 28
  else if month = 4 ∨ month = 6 ∨ month = 9 ∨ month = 11 then 30
  else 31

def afterDate? (cs : List Char) : Option (List Char) := do
  let (year, cs) ← field? 4 0 9999 cs
  let cs ← expect '-' cs
  let (month, cs) ← field? 2 1 12 cs
  let cs ← expect '-' cs
  let (_, cs) ← field? 2 1 (daysIn year month) cs
  return cs

def afterFraction? : List Char → Option (List Char)
  | '.' :: rest =>
    if (rest.takeWhile Char.isDigit).isEmpty then none else some (rest.dropWhile Char.isDigit)
  | cs => some cs

def afterTime? (cs : List Char) : Option (List Char) := do
  let (_, cs) ← field? 2 0 23 cs
  let cs ← expect ':' cs
  let (_, cs) ← field? 2 0 59 cs
  match cs with
  | ':' :: rest =>
    let (_, cs) ← field? 2 0 60 rest
    afterFraction? cs
  | cs => return cs

def isOffset : List Char → Bool
  | [] => true
  | ['Z'] => true
  | ['z'] => true
  | sign :: rest =>
    (sign == '+' || sign == '-') &&
      (do
        let (_, cs) ← field? 2 0 23 rest
        let cs ← expect ':' cs
        let (_, cs) ← field? 2 0 59 cs
        return cs.isEmpty).getD false

def isDate (cs : List Char) : Bool := afterDate? cs == some []

def isDateTime (cs : List Char) : Bool :=
  match afterDate? cs with
  | some [] => true
  | some (t :: rest) =>
    (t == 'T' || t == 't' || t == ' ') && (afterTime? rest).any isOffset
  | none => afterTime? cs == some []

def ofWord? (cs : List Char) : Option Toml :=
  if cs = "true".toList then some (boolean true)
  else if cs = "false".toList then some (boolean false)
  else match integer? cs with
    | some n => some (integer n)
    | none =>
      if isReal cs then some (real (String.ofList cs))
      else if isDateTime cs then some (dateTime (String.ofList cs))
      else none

/-! ### Strings -/

def isPlain (c : Char) : Bool := c == '\t' || (c.toNat ≥ 0x20 && c != '\x7f')

def coded? (n : Nat) (cs : List Char) : Option (Char × List Char) := do
  let ds := cs.take n
  if ds.length = n ∧ ds.all (Digits.isDigitIn 16) then
    let code := Digits.number 16 ds
    if code < 0xD800 ∨ (0xDFFF < code ∧ code < 0x110000) then
      return (Char.ofNat code, cs.drop n)
    else none
  else none

def escaped? : List Char → Option (Char × List Char)
  | 'b' :: rest => some ('\x08', rest)
  | 't' :: rest => some ('\t', rest)
  | 'n' :: rest => some ('\n', rest)
  | 'f' :: rest => some ('\x0c', rest)
  | 'r' :: rest => some ('\r', rest)
  | 'e' :: rest => some ('\x1b', rest)
  | '"' :: rest => some ('"', rest)
  | '\\' :: rest => some ('\\', rest)
  | 'x' :: rest => coded? 2 rest
  | 'u' :: rest => coded? 4 rest
  | 'U' :: rest => coded? 8 rest
  | _ => none

def basicBody : Nat → List Char → Reader String
  | 0, _, _ => none
  | _ + 1, acc, '"' :: rest => some (String.ofList acc.reverse, rest)
  | fuel + 1, acc, '\\' :: rest => do
    let (c, rest) ← escaped? rest
    basicBody fuel (c :: acc) rest
  | fuel + 1, acc, c :: rest => if isPlain c then basicBody fuel (c :: acc) rest else none
  | _ + 1, _, [] => none

def literalBody (cs : List Char) : Option (String × List Char) :=
  let body := cs.takeWhile (· ≠ '\x27')
  match cs.dropWhile (· ≠ '\x27') with
  | [] => none
  | _ :: rest => if body.all isPlain then some (String.ofList body, rest) else none

def cutBreak? : List Char → Option (List Char)
  | '\n' :: rest => some rest
  | '\r' :: '\n' :: rest => some rest
  | _ => none

def skipGap : List Char → List Char
  | ' ' :: rest => skipGap rest
  | '\t' :: rest => skipGap rest
  | '\n' :: rest => skipGap rest
  | '\r' :: '\n' :: rest => skipGap rest
  | cs => cs

/-- The end of a long string: the delimiter is three quotes, and up to two more
in front of it belong to the string. -/
def longEnd? (quote : Char) (cs : List Char) : Option (List Char × List Char) :=
  let run := (cs.takeWhile (· = quote)).take 5
  if run.length ≥ 3 then some (run.drop 3, cs.drop run.length) else none

def endsLine (cs : List Char) : Bool :=
  (cutBreak? (cs.dropWhile fun c => c == ' ' || c == '\t')).isSome

/-- The rest of a long string. In a `basic` one a backslash begins an escape, and
at the end of a line it joins that line to the next text. -/
def longBody (quote : Char) (basic : Bool) : Nat → List Char → Reader String
  | 0, _, _ => none
  | _ + 1, _, [] => none
  | fuel + 1, acc, c :: rest =>
    if c = quote then
      match longEnd? quote (c :: rest) with
      | some (extra, rest) => some (String.ofList (extra ++ acc).reverse, rest)
      | none => longBody quote basic fuel (c :: acc) rest
    else if basic ∧ c = '\\' then
      if endsLine rest then longBody quote basic fuel acc (skipGap rest)
      else do
        let (e, rest) ← escaped? rest
        longBody quote basic fuel (e :: acc) rest
    else if c = '\n' then longBody quote basic fuel (c :: acc) rest
    else if c = '\r' then
      match rest with
      | '\n' :: rest => longBody quote basic fuel ('\n' :: '\r' :: acc) rest
      | _ => none
    else if isPlain c then longBody quote basic fuel (c :: acc) rest
    else none

/-- A line break right after the opening quotes is no part of a long string. -/
def afterBreak (cs : List Char) : List Char := (cutBreak? cs).getD cs

def shortString : List Char → Option (String × List Char)
  | '"' :: rest => basicBody (rest.length + 1) [] rest
  | '\x27' :: rest => literalBody rest
  | _ => none

def anyString : List Char → Option (String × List Char)
  | '"' :: '"' :: '"' :: rest => longBody '"' true (rest.length + 1) [] (afterBreak rest)
  | '\x27' :: '\x27' :: '\x27' :: rest =>
    longBody '\x27' false (rest.length + 1) [] (afterBreak rest)
  | cs => shortString cs

end CaseFill.Toml.Scalar
