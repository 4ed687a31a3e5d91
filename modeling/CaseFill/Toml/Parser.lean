import CaseFill.Toml.Layout
import CaseFill.Toml.Scalar

/-! Reading TOML documents. -/
namespace CaseFill.Toml.Parser

open CaseFill.Json.Parser (Reader)
open Scalar (cutBreak? isPlain)

def skipBlanks (cs : List Char) : List Char := cs.dropWhile fun c => c == ' ' || c == '\t'

def skipComment : List Char → Option (List Char)
  | [] => some []
  | '\n' :: rest => some ('\n' :: rest)
  | '\r' :: '\n' :: rest => some ('\r' :: '\n' :: rest)
  | c :: rest => if isPlain c then skipComment rest else none

def skipGaps : Nat → List Char → Option (List Char)
  | 0, cs => some cs
  | fuel + 1, cs =>
    match skipBlanks cs with
    | '#' :: rest => do skipGaps fuel (← skipComment rest)
    | cs =>
      match cutBreak? cs with
      | some rest => skipGaps fuel rest
      | none => some cs

def toToken (cs : List Char) : Option (List Char) := skipGaps (cs.length + 1) cs

def isBareKey (c : Char) : Bool := c.isAlphanum || c == '_' || c == '-'

def simpleKey (cs : List Char) : Option (String × List Char) :=
  match Scalar.shortString cs with
  | some found => some found
  | none =>
    match cs.takeWhile isBareKey with
    | [] => none
    | name => some (String.ofList name, cs.dropWhile isBareKey)

def dottedKey : Nat → Reader (List String)
  | 0, _ => none
  | fuel + 1, cs => do
    let (key, rest) ← simpleKey (skipBlanks cs)
    match skipBlanks rest with
    | '.' :: rest => do
      let (keys, rest) ← dottedKey fuel rest
      return (key :: keys, rest)
    | rest => return ([key], rest)

def depthLimit : Nat := 80

def key (cs : List Char) : Option (List String × List Char) := do
  let (keys, rest) ← dottedKey (cs.length + 1) cs
  if keys.length ≤ depthLimit then some (keys, rest) else none

def isWordChar (c : Char) : Bool :=
  c.isAlphanum || c == '+' || c == '-' || c == '_' || c == '.' || c == ':'

/-- A value without quotes. A date and a time may have a blank between them. -/
def word (cs : List Char) : Option (Toml × List Char) :=
  let first := cs.takeWhile isWordChar
  let rest := cs.dropWhile isWordChar
  match rest with
  | ' ' :: d :: _ =>
    if Scalar.isDate first ∧ d.isDigit then
      let text := first ++ [' '] ++ (rest.drop 1).takeWhile isWordChar
      (Scalar.ofWord? text).map (·, (rest.drop 1).dropWhile isWordChar)
    else (Scalar.ofWord? first).map (·, rest)
  | _ => (Scalar.ofWord? first).map (·, rest)

mutual

def value : Nat → Nat → Reader Toml
  | 0, _, _ => none
  | fuel + 1, room, cs =>
    match cs, room with
    | '[' :: _, 0 => none
    | '{' :: _, 0 => none
    | '[' :: rest, room + 1 => do items fuel room [] (← toToken rest)
    | '{' :: rest, room + 1 => do inlineEntries fuel room [] (← toToken rest)
    | '"' :: _, _ => (Scalar.anyString cs).map fun (s, rest) => (string s, rest)
    | '\x27' :: _, _ => (Scalar.anyString cs).map fun (s, rest) => (string s, rest)
    | _, _ => word cs

def items : Nat → Nat → List Toml → Reader Toml
  | 0, _, _, _ => none
  | _ + 1, _, acc, ']' :: rest => some (array acc.reverse, rest)
  | fuel + 1, room, acc, cs => do
    let (v, rest) ← value fuel room cs
    match ← toToken rest with
    | ',' :: rest => items fuel room (v :: acc) (← toToken rest)
    | ']' :: rest => return (array (v :: acc).reverse, rest)
    | _ => none

def inlineEntries : Nat → Nat → Entries → Reader Toml
  | 0, _, _, _ => none
  | _ + 1, _, entries, '}' :: rest => some (table (entriesValue entries), rest)
  | fuel + 1, room, entries, cs => do
    let (entries, rest) ← inlineEntry fuel room entries cs
    match ← toToken rest with
    | ',' :: rest => inlineEntries fuel room entries (← toToken rest)
    | '}' :: rest => return (table (entriesValue entries), rest)
    | _ => none

/-- A key with its value, put into an inline table. Line breaks and comments may
stand around the equals sign, not around the dots of the key. -/
def inlineEntry : Nat → Nat → Entries → Reader Entries
  | 0, _, _, _ => none
  | fuel + 1, room, entries, cs => do
    let (keys, rest) ← key cs
    match ← toToken rest with
    | '=' :: rest => do
      let (v, rest) ← value fuel room (← toToken rest)
      let entries ← Entries.set v keys entries
      return (entries, rest)
    | _ => none

end

structure Draft where
  root : Entries
  path : List String

def lineEnd (cs : List Char) : Option (List Char) := do
  let rest ← match skipBlanks cs with
    | '#' :: rest => skipComment rest
    | rest => some rest
  if rest.isEmpty then some [] else cutBreak? rest

def opened (series : Bool) (keys : List String) (d : Draft) : Option Draft := do
  let last ← keys.getLast?
  let openLast := if series then Entries.openSeries last else Entries.openTable last
  let root ← Entries.change openLast keys.dropLast d.root
  return ⟨root, keys⟩

def header (cs : List Char) (d : Draft) : Option (Draft × List Char) :=
  match cs with
  | '[' :: rest => do
    match ← key rest with
    | (keys, ']' :: ']' :: rest) => return (← opened true keys d, rest)
    | _ => none
  | cs => do
    match ← key cs with
    | (keys, ']' :: rest) => return (← opened false keys d, rest)
    | _ => none

def assigned (cs : List Char) (d : Draft) : Option (Draft × List Char) := do
  let (keys, rest) ← key cs
  match rest with
  | '=' :: rest =>
    let (v, rest) ← value (rest.length + 1) depthLimit (skipBlanks rest)
    let root ← Entries.change (Entries.set v keys) d.path d.root
    return ({ d with root := root }, rest)
  | _ => none

def documentLines : Nat → List Char → Draft → Option Draft
  | 0, _, _ => none
  | fuel + 1, cs, d => do
    match ← toToken cs with
    | [] => return d
    | '[' :: rest =>
      let (d, rest) ← header rest d
      documentLines fuel (← lineEnd rest) d
    | cs =>
      let (d, rest) ← assigned cs d
      documentLines fuel (← lineEnd rest) d

end Parser

/-- The table that a document denotes. A byte order mark may begin it. -/
def parse? (text : String) : Option Toml := do
  let cs := match text.toList with
    | '\uFEFF' :: rest => rest
    | cs => cs
  let d ← Parser.documentLines (cs.length + 1) cs ⟨[], []⟩
  return table (entriesValue d.root)

end CaseFill.Toml
