import CaseFill.Text.Search

/-! Hovers. What type a variable has is only known from the hover the editor
renders for it: a fenced block of code with the declaration, or a line of text
with the declaration in backticks. This module renders the parts of a hover as
one text, isolates the declaration and reads the name of the type off it. -/
namespace CaseFill

inductive Marked where
  | plain (text : Text)
  | code (language value : Text)
deriving DecidableEq, Repr, Inhabited

inductive HoverContents where
  | one (part : Marked)
  | several (parts : List Marked)
  | markup (value : Text)
deriving DecidableEq, Repr, Inhabited

namespace Hover

def fence : Text := ['\x60', '\x60', '\x60']

def renderMarked : Marked → Text
  | .plain text => text
  | .code language value => fence ++ language ++ ['\n'] ++ value ++ ['\n'] ++ fence

def render : HoverContents → Text
  | .one part => renderMarked part
  | .several parts => Text.joined ['\n'] (parts.map renderMarked)
  | .markup value => value

def isEmpty (hover : Text) : Bool := (Text.trim hover).isEmpty

def afterFirstLine (t : Text) : Text := (t.dropWhile (· ≠ '\n')).drop 1

def beforeFence (t : Text) : Text :=
  match Text.find? fence t with
  | some i => t.take i
  | none => t

/-- The declaration part: the inside of the first fenced block without the
fence's own line, or else the whole hover without its backticks. -/
def declaration (hover : Text) : Text :=
  match Text.find? fence hover with
  | some i => beforeFence (afterFirstLine (hover.drop (i + 3)))
  | none => hover.filter (· ≠ '\x60')

def commentMark : Text := ['/', '/']

def isCode (line : Text) : Bool := !line.isEmpty && !(commentMark.isPrefixOf line)

def codeLine (t : Text) : Text :=
  Text.joined [' '] (((Text.lines t).map Text.trim).filter isCode)

def signature (hover : Text) : Text := codeLine (declaration hover)

/-- Words that stand in front of a type in a declaration and are no part of its
name. -/
def declarationWords : List Text :=
  ["enum", "class", "struct", "union", "typename", "const", "volatile", "static", "extern",
   "constexpr", "constinit", "inline", "mutable", "register", "thread_local", "public:",
   "protected:", "private:"].map String.toList

def isSigil (c : Char) : Bool := c == '*' || c == '&'

/-- The tokens of a text, without pointer and reference marks around them, that
are neither empty nor declaration words. -/
def typeTokens (t : Text) : List Text :=
  ((Text.tokens t).map (Text.stripBoth isSigil)).filter fun token =>
    !token.isEmpty && !declarationWords.contains token

inductive Specifier where
  /-- There is nothing but declaration words. -/
  | absent
  | named (name : Text)
  /-- The last token is no name. -/
  | unreadable
deriving DecidableEq, Repr

/-- Read the type off the text in front of a declared name. Qualifiers before
the last `::` are left out. -/
def specifier (t : Text) : Specifier :=
  match (typeTokens t).getLast? with
  | none => .absent
  | some token =>
    let name := Text.lastSegment token
    if Text.isIdentifier name then .named name else .unreadable

def beforeLastBlank? (t : Text) : Option Text :=
  match t.reverse.dropWhile (!Text.isBlank ·) with
  | [] => none
  | _ :: rest => some rest.reverse

/-- The name of the type that a hover about `identifier` declares it with.

The first occurrence of the identifier as a whole word governs. If a blank
stands before it, the type is what comes before it; if it is glued to something
(`*c`, `ns::c`), the type is what comes before the nearest blank. A hover that
names only the type itself (`enum Color`) yields the identifier. -/
def typeName? (hover identifier : Text) : Option Text := do
  let shown := signature hover
  let place ← Text.findWord identifier shown
  let before := shown.take place
  let last ← before.getLast?
  if Text.isBlank last then
    match specifier before with
    | .absent => if Text.isIdentifier identifier then some identifier else none
    | .named name => some name
    | .unreadable => none
  else
    match specifier (← beforeLastBlank? before) with
    | .named name => some name
    | _ => none

end Hover
end CaseFill
