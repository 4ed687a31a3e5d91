import CaseFill.Digits

/-! Percent encoding. A character that a part of an identifier may not hold is
written as the bytes of its UTF-8 encoding, each as `%` and two hexadecimal
digits. -/
namespace CaseFill.Uri.Percent

def isControl (c : Char) : Bool := c.toNat < 0x20 || c.toNat ≥ 0x7F

def inFragment (c : Char) : Bool := isControl c || " \"<>\x60".toList.contains c

def inQuery (c : Char) : Bool := isControl c || " \"#<>".toList.contains c

def inSpecialQuery (c : Char) : Bool := inQuery c || c == '\x27'

def inPath (c : Char) : Bool := inFragment c || "#?\x7b\x7d".toList.contains c

def inUserInfo (c : Char) : Bool := inPath c || "/:;=@[\\]^|".toList.contains c

def encodeByte (b : UInt8) : List Char :=
  ['%', (Digits.hexDigit (b.toNat / 16)).toUpper, (Digits.hexDigit (b.toNat % 16)).toUpper]

def utf8 (c : Char) : List UInt8 := (String.singleton c).toUTF8.toList

def encode (set : Char → Bool) (cs : List Char) : List Char :=
  cs.flatMap fun c => if set c then (utf8 c).flatMap encodeByte else [c]

def decodeBytes : List Char → List UInt8
  | [] => []
  | '%' :: a :: b :: rest =>
    match Digits.value? a, Digits.value? b with
    | some x, some y => UInt8.ofNat (x * 16 + y) :: decodeBytes rest
    | _, _ => utf8 '%' ++ decodeBytes (a :: b :: rest)
  | c :: rest => utf8 c ++ decodeBytes rest
termination_by cs => cs.length

def decode? (cs : List Char) : Option String := String.fromUTF8? ⟨(decodeBytes cs).toArray⟩

end CaseFill.Uri.Percent
