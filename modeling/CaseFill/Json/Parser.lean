import CaseFill.Digits
import CaseFill.Json

/-! Reading JSON texts. The reader works on the list of characters and hands on
what is left of it. `fuel` bounds the number of steps; every two steps use up a
character, so twice the length of the text is enough. -/
namespace CaseFill.Json.Parser

abbrev Reader (α : Type) := List Char → Option (α × List Char)

def isGap (c : Char) : Bool := c == ' ' || c == '\n' || c == '\r' || c == '\t'

def skipGap (cs : List Char) : List Char := cs.dropWhile isGap

def unit (cs : List Char) : Option (Nat × List Char) :=
  if (cs.take 4).length = 4 then (Digits.number? 16 (cs.take 4)).map (·, cs.drop 4) else none

/-- The character an escape stands for, read after its `u`. A leading surrogate
needs its trailing one right behind it, and neither may stand alone. -/
def escapedUnit (cs : List Char) : Option (Char × List Char) := do
  let (high, rest) ← unit cs
  if 0xD800 ≤ high ∧ high < 0xDC00 then
    match rest with
    | '\\' :: 'u' :: rest =>
      let (low, rest) ← unit rest
      if 0xDC00 ≤ low ∧ low < 0xE000 then
        return (Char.ofNat (0x10000 + (high - 0xD800) * 0x400 + (low - 0xDC00)), rest)
      else none
    | _ => none
  else if 0xDC00 ≤ high ∧ high < 0xE000 then none
  else return (Char.ofNat high, rest)

def escaped : List Char → Option (Char × List Char)
  | '"' :: rest => some ('"', rest)
  | '\\' :: rest => some ('\\', rest)
  | '/' :: rest => some ('/', rest)
  | 'b' :: rest => some ('\x08', rest)
  | 'f' :: rest => some ('\x0c', rest)
  | 'n' :: rest => some ('\n', rest)
  | 'r' :: rest => some ('\r', rest)
  | 't' :: rest => some ('\t', rest)
  | 'u' :: rest => escapedUnit rest
  | _ => none

/-- The rest of a string after its opening quote; `acc` holds what was read,
last character first. -/
def stringBody : Nat → List Char → Reader String
  | 0, _, _ => none
  | _ + 1, acc, '"' :: rest => some (String.ofList acc.reverse, rest)
  | fuel + 1, acc, '\\' :: rest => do
    let (c, rest) ← escaped rest
    stringBody fuel (c :: acc) rest
  | fuel + 1, acc, c :: rest => if c.toNat < 0x20 then none else stringBody fuel (c :: acc) rest
  | _ + 1, _, [] => none

def digits (cs : List Char) : List Char × List Char :=
  (cs.takeWhile Char.isDigit, cs.dropWhile Char.isDigit)

def someDigits (cs : List Char) : Option (List Char × List Char) :=
  match digits cs with
  | ([], _) => none
  | (ds, rest) => some (ds, rest)

/-- The digits of a whole part: a leading zero stands alone. -/
def wholePart : List Char → Option (List Char × List Char)
  | '0' :: rest => if (rest.head?.any Char.isDigit) then none else some (['0'], rest)
  | cs => someDigits cs

def exponentPart : List Char → Option ((Int × Bool) × List Char)
  | c :: rest =>
    if c == 'e' || c == 'E' then
      match rest with
      | '-' :: rest => (someDigits rest).map fun (ds, rest) => ((-(Digits.number 10 ds : Int), true), rest)
      | '+' :: rest => (someDigits rest).map fun (ds, rest) => (((Digits.number 10 ds : Int), true), rest)
      | rest => (someDigits rest).map fun (ds, rest) => (((Digits.number 10 ds : Int), true), rest)
    else some ((0, false), c :: rest)
  | [] => some ((0, false), [])

def fractionPart : List Char → Option (Option (List Char) × List Char)
  | '.' :: rest => (someDigits rest).map fun (ds, rest) => (some ds, rest)
  | cs => some (none, cs)

/-- The number with the given sign and parts. A negative zero is a real number. -/
def number (negative : Bool) (whole : List Char) (fraction : Option (List Char))
    (exponent : Int) (hasExponent : Bool) : Json :=
  let mantissa : Int := Digits.number 10 (whole ++ fraction.getD [])
  let signed := if negative then -mantissa else mantissa
  if fraction.isNone && !hasExponent && isWordSized signed && !(negative && mantissa == 0) then
    int signed
  else real signed (exponent - (fraction.getD []).length)

def numberText (cs : List Char) : Option (Json × List Char) := do
  let (negative, cs) := match cs with
    | '-' :: rest => (true, rest)
    | cs => (false, cs)
  let (whole, cs) ← wholePart cs
  let (fraction, cs) ← fractionPart cs
  let ((exponent, hasExponent), cs) ← exponentPart cs
  return (number negative whole fraction exponent hasExponent, cs)

mutual

def value : Nat → Reader Json
  | 0, _ => none
  | fuel + 1, cs =>
    match skipGap cs with
    | 'n' :: 'u' :: 'l' :: 'l' :: rest => some (null, rest)
    | 't' :: 'r' :: 'u' :: 'e' :: rest => some (bool true, rest)
    | 'f' :: 'a' :: 'l' :: 's' :: 'e' :: rest => some (bool false, rest)
    | '"' :: rest => (stringBody fuel [] rest).map fun (s, rest) => (str s, rest)
    | '[' :: rest =>
      match skipGap rest with
      | ']' :: rest => some (arr [], rest)
      | rest => (items fuel [] rest).map fun (vs, rest) => (arr vs, rest)
    | '{' :: rest =>
      match skipGap rest with
      | '}' :: rest => some (obj [], rest)
      | rest => (members fuel [] rest).map fun (ms, rest) => (obj ms, rest)
    | rest => numberText rest

def items : Nat → List Json → Reader (List Json)
  | 0, _, _ => none
  | fuel + 1, acc, cs => do
    let (v, rest) ← value fuel cs
    match skipGap rest with
    | ',' :: rest => items fuel (v :: acc) rest
    | ']' :: rest => return ((v :: acc).reverse, rest)
    | _ => none

def members : Nat → List (String × Json) → Reader (List (String × Json))
  | 0, _, _ => none
  | fuel + 1, acc, cs =>
    match skipGap cs with
    | '"' :: rest => do
      let (key, rest) ← stringBody fuel [] rest
      match skipGap rest with
      | ':' :: rest => do
        let (v, rest) ← value fuel rest
        let acc := insertMember key v acc
        match skipGap rest with
        | ',' :: rest => members fuel acc rest
        | '}' :: rest => return (acc, rest)
        | _ => none
      | _ => none
    | _ => none

end

end Parser

def parse? (text : String) : Option Json := do
  let cs := text.toList
  let (v, rest) ← Parser.value (2 * cs.length + 2) cs
  if Parser.skipGap rest = [] then some v else none

end CaseFill.Json
