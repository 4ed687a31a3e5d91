import CaseFill.Documents
import CaseFill.Fix
import CaseFill.Protocol.Basic
import CaseFill.Settings.Discovery

/-! The server: what it keeps between messages, and what it does on each. A
failing editor never makes a request fail; it means that there is no quick fix
or no change. -/
namespace CaseFill

inductive ClientMessage where
  | start (root : Option Path) (options : Option Json)
  | started
  | opened (uri : Uri) (languageId : String) (text : Text)
  /-- A document was changed; each change gives its whole text. -/
  | changed (uri : Uri) (texts : List Text)
  | closed (uri : Uri)
  | codeAction (uri : Uri) (range : Range)
  | command (name : String) (arguments : List Json)
  | shutdown

structure Server where
  documents : Documents
  settings : Settings
  explicitFile : Option Path
  userFile : Option Path
  /-- Whether there is an editor to ask. -/
  hasHost : Bool

inductive Response where
  | none
  | abilities
  | fix (title : String) (uri : Uri) (range : Range)
  | filled (enumName : Text) (members : List Text)
deriving DecidableEq

namespace Server

def name : String := "EnumSwitch"

def version : String := "0.3.0"

def addCasesCommand : String := "enumswitch.addCases"

def addCasesTitle : String := "Add Cases"

def fresh (explicitFile userFile : Option Path) (hasHost : Bool) : Server :=
  ⟨.empty, .standard, explicitFile, userFile, hasHost⟩

def greeting : String := name ++ " " ++ version ++ " initialized"

def filledNote (enumName : Text) (members : List Text) : String :=
  "Added " ++ toString members.length ++ " cases for " ++ String.ofList enumName

structure Effect where
  server : Server
  response : Response
  notes : List String

def quiet (s : Server) : Effect := ⟨s, .none, []⟩

def configured (read : Path → FileRead) (s : Server) (root : Option Path) (options : Option Json) :
    Server :=
  { s with settings := .effective (Settings.discover read s.explicitFile root s.userFile) options }

def isCpp (s : Server) (uri : Uri) (doc : Document) : Bool :=
  Settings.isCpp s.settings.languageIds s.settings.fileExtensions uri doc.languageId

def codeAction (s : Server) (uri : Uri) (requested : Range) : Dialogue Response := do
  match s.documents.get? uri.text with
  | none => return .none
  | some doc =>
    let range := Resolve.headerRange doc.text requested
    if s.isCpp uri doc && Resolve.hasKeyword doc.text range && s.hasHost then
      if ← Resolve.isEnumSwitch uri doc.text range s.settings then
        return .fix s.settings.actionTitle uri range
      else return .none
    else return .none

def commandArguments (arguments : List Json) : Option (Uri × Range) :=
  match arguments with
  | [uri, range] => do return (← Protocol.uri uri, ← Protocol.range range)
  | _ => none

/-- Fill the switch that the arguments name. Nothing is written when they cannot
be read, the document is not open or the editor fails. -/
def addCases (s : Server) (arguments : List Json) : Dialogue (Option FixOutcome) := do
  match commandArguments arguments with
  | none => return none
  | some (uri, range) =>
    match s.documents.get? uri.text with
    | none => return none
    | some doc =>
      if s.hasHost then
        match ← (Fix.addCases uri doc.text range s.settings).run with
        | .ok outcome => return some outcome
        | .error _ => return none
      else return none

def command (s : Server) (name : String) (arguments : List Json) : Dialogue Effect := do
  if name = addCasesCommand then
    match ← s.addCases arguments with
    | some (.committed enumName members) =>
      return ⟨s, .filled enumName members, [filledNote enumName members]⟩
    | _ => return s.quiet
  else return s.quiet

def handle (read : Path → FileRead) (s : Server) : ClientMessage → Dialogue Effect
  | .start root options => return ⟨s.configured read root options, .abilities, []⟩
  | .started => return ⟨s, .none, [greeting]⟩
  | .opened uri languageId text =>
    return { s with documents := s.documents.insert uri.text ⟨some languageId, text⟩ }.quiet
  | .changed uri texts => return { s with documents := s.documents.change uri.text texts }.quiet
  | .closed uri => return { s with documents := s.documents.erase uri.text }.quiet
  | .codeAction uri range => return ⟨s, ← s.codeAction uri range, []⟩
  | .command name arguments => s.command name arguments
  | .shutdown => return s.quiet

end Server
end CaseFill
