import CaseFill.Text.Blank
import CaseFill.Uri.Domain
import CaseFill.Uri.Percent

/-! Host names and addresses. A host of a scheme with a fixed authority form is
a domain, an IPv4 address or a bracketed IPv6 address and is brought into normal
form; a host of any other scheme is kept as written. -/
namespace CaseFill.Uri.Host

def isForbidden (c : Char) : Bool := "\x00\t\n\r #/:<>?@[\\]^|".toList.contains c

def isForbiddenInDomain (c : Char) : Bool :=
  isForbidden c || c.toNat < 0x20 || c == '%' || c == '\x7f'

def pieces (separator : Char) (cs : List Char) : List (List Char) :=
  Text.piecesBy (· == separator) cs

def ipv4Part? : List Char → Option Nat
  | [] => none
  | '0' :: x :: rest =>
    if x = 'x' ∨ x = 'X' then Digits.number? 16 rest else Digits.number? 8 (x :: rest)
  | cs => Digits.number? 10 cs

def labels (domain : List Char) : List (List Char) :=
  let parts := pieces '.' domain
  if parts.length > 1 ∧ parts.getLast? = some [] then parts.dropLast else parts

/-- Whether the last label reads as a number, so that the host has to be an
IPv4 address. -/
def endsInNumber (domain : List Char) : Bool :=
  match (labels domain).getLast? with
  | some last =>
    (!last.isEmpty && last.all Char.isDigit) ||
      (match last with
        | '0' :: x :: _ => (x = 'x' ∨ x = 'X') && (ipv4Part? last).isSome
        | _ => false)
  | none => false

def ipv4Text (n : Nat) : List Char :=
  (".".intercalate [toString (n / 0x1000000 % 256), toString (n / 0x10000 % 256),
    toString (n / 0x100 % 256), toString (n % 256)]).toList

/-- The address that some leading bytes make up with a number for the remaining
ones, of which there are `room`. -/
def ipv4Value? : Nat → List Nat → Option Nat
  | _, [] => none
  | 0, _ => none
  | room + 1, [last] => if last < 0x100 <<< (8 * room) then some last else none
  | room + 1, n :: rest =>
    if n < 256 then (ipv4Value? room rest).map (n <<< (8 * room) + ·) else none

/-- An IPv4 address of up to four parts; the last part fills the bytes that the
others leave. -/
def ipv4? (domain : List Char) : Option (List Char) := do
  let numbers ← (labels domain).mapM ipv4Part?
  return ipv4Text (← ipv4Value? 4 numbers)

def group? (cs : List Char) : Option Nat :=
  if cs.length = 0 ∨ cs.length > 4 then none else Digits.number? 16 cs

def byte? (cs : List Char) : Option Nat := do
  if cs.isEmpty || (cs.length > 1 && cs.head? == some '0') then none
  let n ← Digits.number? 10 cs
  if n ≤ 255 then some n else none

def dottedGroups? (cs : List Char) : Option (List Nat) := do
  match ← (pieces '.' cs).mapM byte? with
  | [a, b, c, d] => some [a * 256 + b, c * 256 + d]
  | _ => none

def groups? (final : Bool) (cs : List Char) : Option (List Nat) :=
  if cs.isEmpty then some [] else
  let parts := pieces ':' cs
  let last := parts.getLast?.getD []
  if final && last.contains '.' then do
    return (← parts.dropLast.mapM group?) ++ (← dottedGroups? last)
  else parts.mapM group?

def cutDoubleColon : List Char → Option (List Char × List Char)
  | ':' :: ':' :: rest => some ([], rest)
  | c :: rest => (cutDoubleColon rest).map fun (a, b) => (c :: a, b)
  | [] => none

/-- The eight groups of an IPv6 address; `::` stands for one or more zero
groups. -/
def ipv6Groups? (cs : List Char) : Option (List Nat) :=
  match cutDoubleColon cs with
  | some (front, back) => do
    let front ← groups? false front
    let back ← groups? true back
    let missing := 8 - (front.length + back.length)
    if front.length + back.length ≥ 8 then none
    return front ++ List.replicate missing 0 ++ back
  | none => do
    let gs ← groups? true cs
    if gs.length = 8 then some gs else none

def zerosInFront (gs : List Nat) : Nat := (gs.takeWhile (· = 0)).length

def longestZeros (gs : List Nat) : Option (Nat × Nat) :=
  let runs := (List.range gs.length).map fun i => (i, zerosInFront (gs.drop i))
  runs.foldl (fun best r =>
    if r.2 < 2 then best else
    match best with
    | some b => if b.2 < r.2 then some r else some b
    | none => some r) none

def hexText (n : Nat) : List Char := Nat.toDigits 16 n

def groupsText (gs : List Nat) : List Char := ":".toList.intercalate (gs.map hexText)

def ipv6Text (gs : List Nat) : List Char :=
  ['['] ++ (match longestZeros gs with
    | some (start, length) =>
      groupsText (gs.take start) ++ [':', ':'] ++ groupsText (gs.drop (start + length))
    | none => groupsText gs) ++ [']']

def bracketed? (cs : List Char) : Option (List Char) :=
  if cs.getLast? = some ']' then (ipv6Groups? cs.dropLast).map ipv6Text else none

def domain? (cs : List Char) : Option String :=
  match cs with
  | '[' :: rest => (bracketed? rest).map String.ofList
  | cs => do
    let domain ← Domain.ascii? (← Percent.decode? cs).toList
    if domain.isEmpty || domain.any isForbiddenInDomain then none
    if endsInNumber domain then (ipv4? domain).map String.ofList
    else return String.ofList domain

def kept? (cs : List Char) : Option String :=
  match cs with
  | '[' :: rest => (bracketed? rest).map String.ofList
  | cs => if cs.any isForbidden then none else some (String.ofList (Percent.encode Percent.isControl cs))

end CaseFill.Uri.Host
