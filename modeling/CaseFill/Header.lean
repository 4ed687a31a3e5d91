import CaseFill.Text.Search

/-! The header line of a switch: which of its parentheses and braces are
missing, and where the cases go. All columns refer to the line as it is before
any edit. They are natural numbers, on the assumption that the columns of the line fit
the 32 bits that an editor counts them in. -/
namespace CaseFill

def switchKeyword : Text := "switch".toList

structure Header where
  /-- Column where an opening parenthesis has to go, if the header has none. -/
  openParenAt : Option Nat
  needsCloseParen : Bool
  /-- Column where a missing closing parenthesis goes when the header has its
  brace: right after the last character before the brace that is not blank. -/
  closeParenAt : Option Nat
  needsOpenBrace : Bool
  /-- Column of a brace that closes the body on the same line. -/
  endCurlyAt : Option Nat
  insertAt : Nat
deriving DecidableEq, Repr, Inhabited

namespace Header

def columnOf (line : Text) (i : Nat) : Nat := Text.width (line.take i)

def findFrom (c : Char) (line : Text) (start : Nat) : Option Nat :=
  (Text.find? [c] (line.drop start)).map (start + ·)

def atLeast (other : Option Nat) (column : Nat) : Nat :=
  match other with
  | some o => max column o
  | none => column

/-- Inspect a line from its keyword to its end. A line on which the keyword is
no whole word is no header. -/
def inspect (line : Text) : Option Header := do
  let keyword ← Text.findWord switchKeyword line
  let afterKeyword := keyword + switchKeyword.length
  let rest := line.drop afterKeyword
  let openParenAt :=
    if rest.contains '(' then none
    else some (columnOf line (afterKeyword + (rest.takeWhile Text.isBlank).length))
  let needsCloseParen := !(line.drop keyword).contains ')'
  let brace := findFrom '\x7b' line keyword
  let closeParenAt :=
    match brace with
    | some b =>
      if needsCloseParen then
        some (atLeast openParenAt (Text.width (Text.trimEnd (line.take b))))
      else none
    | none => none
  let endCurlyAt := do
    let b ← brace
    let close ← findFrom '\x7d' line (b + 1)
    return columnOf line close
  return {
    openParenAt := openParenAt
    needsCloseParen := needsCloseParen
    closeParenAt := closeParenAt
    needsOpenBrace := brace.isNone
    endCurlyAt := endCurlyAt
    insertAt := endCurlyAt.getD (Text.width line) }

def punctuation (h : Header) : Text :=
  (if h.needsCloseParen && h.closeParenAt.isNone then [')'] else []) ++
    (if h.needsOpenBrace then [' ', '\x7b'] else [])

end Header
end CaseFill
