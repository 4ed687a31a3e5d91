import CaseFill.Text.Column

/-! Searching a text. Places are counted in characters from the start of the
text, so that a place always lies between two characters. -/
namespace CaseFill.Text

def find? (needle : Text) : Text → Option Nat
  | [] => if needle = [] then some 0 else none
  | c :: cs =>
    if needle.isPrefixOf (c :: cs) then some 0 else (find? needle cs).map (· + 1)

def occursIn (needle t : Text) : Bool := (find? needle t).isSome

/-- Whether no identifier character stands at this side of a word: `c` is the
neighbour, if there is one. -/
def isEdge (c : Option Char) : Bool := c.all fun c => !isIdentChar c

/-- Search for `word` between edges in a text whose previous character is
`before`. Matches do not overlap: after a match that does not stand alone its
other characters, `skip` of them, begin no match. -/
def findWordFrom (word : Text) : Nat → Option Char → Text → Option Nat
  | _, _, [] => none
  | skip + 1, _, c :: cs => (findWordFrom word skip (some c) cs).map (· + 1)
  | 0, before, c :: cs =>
    if word.isPrefixOf (c :: cs) then
      if isEdge before && isEdge ((c :: cs).drop word.length).head? then some 0
      else (findWordFrom word (word.length - 1) (some c) cs).map (· + 1)
    else (findWordFrom word 0 (some c) cs).map (· + 1)

/-- Place of the first occurrence of `word` that neither follows nor precedes
an identifier character. The empty word occurs nowhere. -/
def findWord (word t : Text) : Option Nat :=
  if word = [] then none else findWordFrom word 0 none t

def findWordByte (word t : Text) : Option Nat :=
  (findWord word t).map fun i => byteSize (t.take i)

def afterLastScope? : Text → Option Text
  | [] => none
  | c :: cs =>
    match afterLastScope? cs with
    | some t => some t
    | none => if c = ':' ∧ cs.head? = some ':' then some cs.tail else none

def lastSegment (t : Text) : Text := (afterLastScope? t).getD t

end CaseFill.Text
