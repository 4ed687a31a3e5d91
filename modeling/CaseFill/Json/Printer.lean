import CaseFill.Digits
import CaseFill.Json

/-! Writing JSON values as text, without white space. -/
namespace CaseFill.Json

def quotedChar (c : Char) : List Char :=
  match c with
  | '"' => ['\\', '"']
  | '\\' => ['\\', '\\']
  | '\n' => ['\\', 'n']
  | '\r' => ['\\', 'r']
  | '\t' => ['\\', 't']
  | '\x08' => ['\\', 'b']
  | '\x0c' => ['\\', 'f']
  | c =>
    if c.toNat < 0x20 then
      ['\\', 'u', '0', '0', Digits.hexDigit (c.toNat / 16), Digits.hexDigit (c.toNat % 16)]
    else [c]

def quoted (s : String) : String :=
  "\"" ++ String.ofList (s.toList.flatMap quotedChar) ++ "\""

mutual

def writeTo (out : String) : Json → String
  | null => out ++ "null"
  | bool true => out ++ "true"
  | bool false => out ++ "false"
  | int n => out ++ toString n
  | real m e => out ++ toString m ++ "e" ++ toString e
  | str s => out ++ quoted s
  | arr vs => writeItems (out ++ "[") vs ++ "]"
  | obj ms => writeMembers (out ++ "\x7b") ms ++ "\x7d"

def writeItems (out : String) : List Json → String
  | [] => out
  | [v] => writeTo out v
  | v :: vs => writeItems (writeTo out v ++ ",") vs

def writeMembers (out : String) : List (String × Json) → String
  | [] => out
  | [(k, v)] => writeTo (out ++ quoted k ++ ":") v
  | (k, v) :: ms => writeMembers (writeTo (out ++ quoted k ++ ":") v ++ ",") ms

end

def render (v : Json) : String := writeTo "" v

end CaseFill.Json
