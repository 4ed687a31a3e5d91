import CaseFill.Path
import CaseFill.Uri
import CaseFill.Uri.Host

/-! Reading identifiers. An identifier begins with a scheme; the schemes of the
web and of files have a fixed authority form, in which a backslash is a slash
and the path is never empty. The result is in normal form. -/
namespace CaseFill.Uri

inductive SchemeKind where
  | file
  | web
  | other
deriving DecidableEq

namespace SchemeKind

def ofScheme (scheme : String) : SchemeKind :=
  if scheme = "file" then file
  else if ["http", "https", "ws", "wss", "ftp"].contains scheme then web
  else other

def isSpecial : SchemeKind → Bool
  | other => false
  | _ => true

end SchemeKind

def impliedPort (scheme : String) : Option Nat :=
  if scheme = "http" ∨ scheme = "ws" then some 80
  else if scheme = "https" ∨ scheme = "wss" then some 443
  else if scheme = "ftp" then some 21
  else none

def cutBefore (p : Char → Bool) (cs : List Char) : List Char × List Char :=
  (cs.takeWhile (!p ·), cs.dropWhile (!p ·))

def isSchemeChar (c : Char) : Bool := c.isAlphanum || c == '+' || c == '-' || c == '.'

def scheme? (cs : List Char) : Option (String × List Char) :=
  match cs with
  | [] => none
  | c :: _ =>
    if c.isAlpha then
      match cutBefore (!isSchemeChar ·) cs with
      | (name, ':' :: rest) => some (String.ofList (name.map Char.toLower), rest)
      | _ => none
    else none

def isSlash (kind : SchemeKind) (c : Char) : Bool := c == '/' || (kind.isSpecial && c == '\\')

def segmentsOf (kind : SchemeKind) (cs : List Char) : List (List Char) :=
  Text.piecesBy (isSlash kind) cs

def isDriveLetter : List Char → Bool
  | [c, m] => c.isAlpha && (m == ':' || m == '|')
  | _ => false

def isUnderDrive (segment : List Char) : Bool :=
  isDriveLetter (segment.take 2) && (segment.drop 2).head?.all (· == '\\')

def plainDots : List Char → List Char
  | '%' :: '2' :: e :: rest =>
    if e = 'e' ∨ e = 'E' then '.' :: plainDots rest else '%' :: '2' :: plainDots (e :: rest)
  | c :: rest => c :: plainDots rest
  | [] => []
termination_by cs => cs.length

/-- A segment that is added to an empty path: the first segment of a file's path
may be a drive letter, which is followed by a colon. -/
def firstSegment (kind : SchemeKind) (segment : List Char) : List Char :=
  if kind = .file ∧ isDriveLetter segment then segment.take 1 ++ [':'] else segment

/-- Add a segment to the path read so far, whose last segment comes first. Dot
segments take their effect, and a drive letter is never taken off. -/
def addSegment (kind : SchemeKind) (last : Bool) (path : List (List Char)) (segment : List Char) :
    List (List Char) :=
  let written := Percent.encode Percent.inPath segment
  let dots := plainDots written
  if dots = ['.', '.'] then
    let shorter := match path with
      | top :: rest => if isUnderDrive top then path else rest
      | [] => []
    if last then [] :: shorter else shorter
  else if dots = ['.'] then
    if last then [] :: path else path
  else if path.isEmpty then [firstSegment kind written]
  else written :: path

def addSegments (kind : SchemeKind) : List (List Char) → List (List Char) → List (List Char)
  | path, [] => path
  | path, [s] => addSegment kind true path s
  | path, s :: rest => addSegments kind (addSegment kind false path s) rest

def resolvedSegments (kind : SchemeKind) (cs : List Char) : List (List Char) :=
  (addSegments kind [] (segmentsOf kind cs)).reverse

def pathOf (kind : SchemeKind) (cs : List Char) : UriPath :=
  .segments ((resolvedSegments kind cs).map String.ofList)

def filePathOf (segments : List (List Char)) : UriPath :=
  match segments.dropWhile (·.isEmpty) with
  | [] => .segments [""]
  | kept => .segments (kept.map String.ofList)

def userInfoText (cs : List Char) : String :=
  let (user, password) := Text.cutAt (· == ':') cs
  let user := Percent.encode Percent.inUserInfo user
  let password := Percent.encode Percent.inUserInfo (password.getD [])
  if user = [] ∧ password = [] then ""
  else
    String.ofList (user ++ (if password = [] then [] else ':' :: password) ++ ['@'])

def cutUserInfo (cs : List Char) : Option (List Char) × List Char :=
  if cs.contains '@' then
    let reversed := cs.reverse
    (some ((reversed.dropWhile (· ≠ '@')).drop 1).reverse, (reversed.takeWhile (· ≠ '@')).reverse)
  else (none, cs)

def cutPort : Bool → List Char → List Char × Option (List Char)
  | _, [] => ([], none)
  | inside, c :: rest =>
    if c = ':' ∧ !inside then ([], some rest)
    else
      let (host, port) := cutPort (if c = '[' then true else if c = ']' then false else inside) rest
      (c :: host, port)

/-- A port below 65536; the one that the scheme implies is left out, and so is
an empty one. -/
def port? (scheme : String) (cs : List Char) : Option (Option Nat) := do
  if cs.isEmpty then return none
  if !cs.all Char.isDigit then none
  let n ← Digits.number? 10 cs
  if n > 65535 then none
  return if impliedPort scheme = some n then none else some n

/-- Whether the user info of an authority leaves its host nothing to be: the `@`
comes first and the path, the query or the fragment follows at once. -/
def isBareAt (cs after : List Char) : Bool := cs == ['@'] && !after.isEmpty

/-- The authority of a scheme other than the file scheme, and the text between
its port and its path: a backslash ends a port in any scheme. `after` is what
follows the authority. -/
def authority? (scheme : String) (kind : SchemeKind) (cs after : List Char) :
    Option (Authority × List Char) := do
  let (user, hostPort) := cutUserInfo cs
  let userInfo := (user.map userInfoText).getD ""
  let (hostText, portText) := cutPort false hostPort
  if isBareAt cs after then none
  if hostText.isEmpty && (kind.isSpecial || portText.isSome || userInfo != "") then none
  let host ← if kind.isSpecial then Host.domain? hostText else Host.kept? hostText
  let (portText, behind) := cutBefore (· == '\\') (portText.getD [])
  let port ← port? scheme portText
  return ({ userInfo := userInfo, host := host, port := port }, behind)

def fileHost? (cs : List Char) : Option String :=
  if cs.isEmpty then some "" else do
    let host ← Host.domain? cs
    return if host = "localhost" then "" else host

def dropSlash (kind : SchemeKind) : List Char → List Char
  | c :: rest => if isSlash kind c then rest else c :: rest
  | [] => []

def beginsWithDrive (segments : List (List Char)) : Bool :=
  segments.head?.any fun name => isDriveLetter name

/-- Authority and path of a file. A drive letter in the place of the host
begins the path, and a path under a drive letter has no host. The slash behind an
empty host is not yet one of the path, which therefore begins with an empty
segment. -/
def filePart? (cs : List Char) : Option (Option Authority × UriPath) :=
  let here : Authority := { userInfo := "", host := "", port := none }
  match cs with
  | a :: b :: rest =>
    if isSlash .file a ∧ isSlash .file b then do
      let (hostText, pathText) := cutBefore (isSlash .file) rest
      if isDriveLetter hostText then
        return (some here, filePathOf (resolvedSegments .file rest))
      let host ← fileHost? hostText
      if host.isEmpty then
        return (some here, filePathOf (resolvedSegments .file pathText))
      let segments := resolvedSegments .file (dropSlash .file pathText)
      return (some { here with host := if beginsWithDrive segments then "" else host },
        filePathOf segments)
    else some (some here, filePathOf (resolvedSegments .file (dropSlash .file cs)))
  | _ => some (some here, filePathOf (resolvedSegments .file (dropSlash .file cs)))

/-- Authority and path of a web address; any number of slashes begins it.
`after` is what follows the path. -/
def webPart? (scheme : String) (cs after : List Char) : Option (Option Authority × UriPath) := do
  let (auth, pathText) := cutBefore (isSlash .web) (cs.dropWhile (isSlash .web))
  let (authority, _) ← authority? scheme .web auth (pathText ++ after)
  return (some authority, pathOf .web (dropSlash .web pathText))

/-- Authority and path of any other scheme. Without a slash the path has no
structure. `after` is what follows the path. -/
def otherPart? (scheme : String) (cs after : List Char) : Option (Option Authority × UriPath) :=
  match cs with
  | '/' :: '/' :: rest => do
    let (auth, pathText) := cutBefore (isSlash .other) rest
    let (authority, behind) ← authority? scheme .other auth (pathText ++ after)
    let pathText := behind ++ pathText
    let path := if pathText.isEmpty then .segments [] else pathOf .other (dropSlash .other pathText)
    return (some authority, path)
  | '/' :: rest => some (none, pathOf .other rest)
  | _ => some (none, .plain (String.ofList (Percent.encode Percent.isControl cs)))

/-- Spaces and controls around an identifier are no part of it, nor are tabs
and line breaks inside. -/
def cleaned (cs : List Char) : List Char :=
  let edge (c : Char) : Bool := c.toNat ≤ 0x20
  (((cs.dropWhile edge).reverse.dropWhile edge).reverse).filter
    fun c => !(c == '\t' || c == '\n' || c == '\r')

def parse? (s : String) : Option Uri := do
  let (scheme, rest) ← scheme? (cleaned s.toList)
  let kind := SchemeKind.ofScheme scheme
  let (body, after) := cutBefore (fun c => c == '?' || c == '#') rest
  let (beforeFragment, fragment) := Text.cutAt (· == '#') after
  let (_, query) := Text.cutAt (· == '?') beforeFragment
  let querySet := if kind.isSpecial then Percent.inSpecialQuery else Percent.inQuery
  let (authority, path) ← match kind with
    | .file => filePart? body
    | .web => webPart? scheme body after
    | .other => otherPart? scheme body after
  return {
    scheme := scheme
    authority := authority
    path := path
    query := query.map fun q => String.ofList (Percent.encode querySet q)
    fragment := fragment.map fun f => String.ofList (Percent.encode Percent.inFragment f) }

/-- The path of the file that an identifier names. The host has to be the local
one, and the path has to have segments; they are percent decoded. -/
def filePath? (uri : Uri) : Option Path :=
  let isLocal : Bool := uri.authority.all fun a => a.host == "" || a.host == "localhost"
  match uri.path with
  | .segments (name :: names) =>
    if isLocal then
      some ⟨Percent.decodeBytes (UriPath.segments (name :: names)).text.toList⟩
    else none
  | _ => none

end CaseFill.Uri
