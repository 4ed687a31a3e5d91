/-! Uniform resource identifiers, as the documents of an editor are named. A
value of this type is already in normal form: letters of the scheme are small,
dot segments are resolved and characters outside the allowed sets are percent
encoded, so two identifiers name one document exactly when their texts agree. -/
namespace CaseFill

structure Authority where
  /-- User name and password in their written form, with the closing `@`, or
  empty. -/
  userInfo : String
  host : String
  port : Option Nat
deriving DecidableEq, Repr, Inhabited

namespace Authority

def text (a : Authority) : String :=
  a.userInfo ++ a.host ++ match a.port with
    | some p => ":" ++ toString p
    | none => ""

end Authority

inductive UriPath where
  | segments (names : List String)
  | plain (text : String)
deriving DecidableEq, Repr, Inhabited

namespace UriPath

def text : UriPath → String
  | segments names => String.join (names.map fun name => "/" ++ name)
  | plain text => text

end UriPath

structure Uri where
  scheme : String
  authority : Option Authority
  path : UriPath
  query : Option String
  fragment : Option String
deriving DecidableEq, Repr, Inhabited

namespace Uri

/-- Without an authority, a path whose first segment is empty would read as
one; `/.` keeps the two apart. -/
def pathGuard (uri : Uri) : String :=
  match uri.authority, uri.path with
  | none, .segments ("" :: _ :: _) => "/."
  | _, _ => ""

def text (uri : Uri) : String :=
  uri.scheme ++ ":" ++
    (match uri.authority with
      | some a => "//" ++ a.text
      | none => "") ++
    uri.pathGuard ++ uri.path.text ++
    (match uri.query with
      | some q => "?" ++ q
      | none => "") ++
    (match uri.fragment with
      | some f => "#" ++ f
      | none => "")

def extension? (uri : Uri) : Option (List Char) :=
  let reversed := uri.path.text.toList.reverse
  if reversed.contains '.' then some (reversed.takeWhile (· ≠ '.')).reverse else none

end Uri
end CaseFill
