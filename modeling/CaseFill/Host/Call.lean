import CaseFill.Symbol
import CaseFill.TextEdit
import CaseFill.Uri

/-! The editor as the program sees it. There is no C++ front end here: all that
is known about a document comes from questions that the editor answers, and all
changes go through its edits. -/
namespace CaseFill

structure Location where
  uri : Uri
  range : Range
deriving DecidableEq, Repr, Inhabited

inductive Call where
  | definition (uri : Uri) (position : Position)
  | hover (uri : Uri) (position : Position)
  | typeDefinition (uri : Uri) (position : Position)
  | documentSymbol (uri : Uri)
  | completion (uri : Uri) (position : Position)
  | edit (uri : Uri) (edits : List TextEdit)
deriving DecidableEq, Repr

namespace Call

/-- What the editor answers to a call; an edit is answered by whether it was
applied. -/
def Answer : Call → Type
  | definition _ _ => List Location
  | hover _ _ => List Text
  | typeDefinition _ _ => List Location
  | documentSymbol _ => List Symbol
  | completion _ _ => List Text
  | edit _ _ => Bool

def method : Call → String
  | definition _ _ => "enumSwitch/definition"
  | hover _ _ => "enumSwitch/hover"
  | typeDefinition _ _ => "enumSwitch/typeDefinition"
  | documentSymbol _ => "enumSwitch/documentSymbol"
  | completion _ _ => "enumSwitch/completion"
  | edit _ _ => "workspace/applyEdit"

end Call

/-- Why a call was not answered. An empty answer is no failure. -/
inductive HostError where
  | transport (method : String) (code : Int) (message : String)
  | rejected (method : String) (reason : String)
deriving DecidableEq, Repr, Inhabited

namespace HostError

def codeName (code : Int) : String :=
  if code = -32700 then "Parse error"
  else if code = -32600 then "Invalid request"
  else if code = -32601 then "Method not found"
  else if code = -32602 then "Invalid params"
  else if code = -32603 then "Internal error"
  else if code = -32800 then "Canceled"
  else if code = -32801 then "Content modified"
  else "Server error"

def message : HostError → String
  | transport method code text =>
    "host request \x60" ++ method ++ "\x60 failed: " ++ codeName code ++ ": " ++ text
  | rejected method reason => "host rejected \x60" ++ method ++ "\x60: " ++ reason

end HostError

end CaseFill
