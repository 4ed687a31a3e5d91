/-! The command line. Arguments are read from left to right, and the first one
that is wrong decides the message. A value that follows its option is only
checked once the next argument has been understood. -/
namespace CaseFill

inductive ValueOption where
  | config
  | logLevel
deriving DecidableEq, Repr

namespace ValueOption

def display : ValueOption → String
  | config => "--config <PATH>"
  | logLevel => "--log-level <FILTER>"

def allowsEmpty : ValueOption → Bool
  | config => false
  | logLevel => true

end ValueOption

inductive UsageError where
  | unexpectedArgument (argument : String)
  | unexpectedValue (value option : String)
  | missingValue (option : String)
  | repeated (option : String)
deriving DecidableEq, Repr

namespace UsageError

def message : UsageError → String
  | unexpectedArgument a => "error: unexpected argument '" ++ a ++ "' found"
  | unexpectedValue v o =>
    "error: unexpected value '" ++ v ++ "' for '" ++ o ++ "' found; no more were expected"
  | missingValue o => "error: a value is required for '" ++ o ++ "' but none was supplied"
  | repeated o => "error: the argument '" ++ o ++ "' cannot be used multiple times"

end UsageError

inductive Invocation where
  | help
  | version
  | serve (config : Option String)
deriving DecidableEq, Repr

namespace CommandLine

def program : String := "enumswitch_lsp"

def versionText : String := program ++ " 0.3.0\n"

def helpText : String :=
  "Quick-fix server that generates the cases of a C++ switch over an enum\n\n" ++
  "Usage: enumswitch_lsp [OPTIONS]\n\n" ++
  "Options:\n" ++
  "      --stdio               Communicate over stdin/stdout (the only transport; accepted for editors\n" ++
  "                            that always pass it)\n" ++
  "      --config <PATH>       Configuration file to use instead of the workspace / user file\n" ++
  "      --log-level <FILTER>  Log filter used when \x60RUST_LOG\x60 is not set (e.g. \x60debug\x60) [default:\n" ++
  "                            info]\n" ++
  "  -h, --help                Print help\n" ++
  "  -V, --version             Print version\n"

structure Pending where
  option : ValueOption
  value : Option String

structure Progress where
  stdio : Bool
  config : Option String
  logLevel : Option String
  pending : Option Pending

def Progress.empty : Progress := ⟨false, none, none, none⟩

def Progress.given (p : Progress) : ValueOption → Option String
  | .config => p.config
  | .logLevel => p.logLevel

def Progress.note (p : Progress) (value : String) : ValueOption → Progress
  | .config => { p with config := some value }
  | .logLevel => { p with logLevel := some value }

/-- Take over the value of an option, which may be given only once. -/
def accept (p : Progress) (option : ValueOption) (value : Option String) :
    Except UsageError Progress :=
  match value with
  | none => .error (.missingValue option.display)
  | some v =>
    if (p.given option).isSome then .error (.repeated option.display)
    else if v = "" ∧ !option.allowsEmpty then .error (.missingValue option.display)
    else .ok (p.note v option)

def settle (p : Progress) : Except UsageError Progress :=
  match p.pending with
  | none => .ok p
  | some ⟨option, value⟩ => accept { p with pending := none } option value

inductive Token where
  | long (name : String) (value : Option String)
  | short (letters : List Char)
  | escape
  | bare (text : String)

def tokenOf (argument : String) : Token :=
  match argument.toList with
  | ['-', '-'] => .escape
  | '-' :: '-' :: rest =>
    let name := String.ofList (rest.takeWhile (· ≠ '='))
    match rest.dropWhile (· ≠ '=') with
    | [] => .long name none
    | _ :: value => .long name (some (String.ofList value))
  | '-' :: c :: rest => .short (c :: rest)
  | _ => .bare argument

def valueOption? (name : String) : Option ValueOption :=
  if name = "config" then some .config
  else if name = "log-level" then some .logLevel
  else none

/-- A reading either goes on or is finished by what the user asked for. -/
abbrev Step := Except UsageError (Progress ⊕ Invocation)

def flag (p : Progress) (name : String) (value : Option String) : Step := do
  if name = "stdio" ∨ name = "help" ∨ name = "version" then
    match value with
    | some v => .error (.unexpectedValue v ("--" ++ name))
    | none =>
      let p ← settle p
      if name = "help" then return .inr .help
      else if name = "version" then return .inr .version
      else if p.stdio then .error (.repeated "--stdio")
      else return .inl { p with stdio := true }
  else .error (.unexpectedArgument ("--" ++ name))

def long (p : Progress) (name : String) (value : Option String) : Step :=
  match valueOption? name with
  | some option => do
    let p ← settle p
    match value with
    | some v => return .inl (← accept p option (some v))
    | none => return .inl { p with pending := some ⟨option, none⟩ }
  | none => flag p name value

/-- Read options with short names; the first letter decides. -/
def short (p : Progress) (letters : List Char) : Step := do
  match letters with
  | 'h' :: _ =>
    let _ ← settle p
    return .inr .help
  | 'V' :: _ =>
    let _ ← settle p
    return .inr .version
  | c :: _ => .error (.unexpectedArgument ("-" ++ String.singleton c))
  | [] => .error (.unexpectedArgument "-")

/-- Read a text that is no option: the value that is waited for, if one is. -/
def bare (p : Progress) (text : String) : Step :=
  match p.pending with
  | some ⟨option, none⟩ => .ok (.inl { p with pending := some ⟨option, some text⟩ })
  | _ => .error (.unexpectedArgument text)

/-- After the escape nothing is expected any more. -/
def escaped (p : Progress) : List String → Except UsageError Invocation
  | [] => do return .serve (← settle p).config
  | argument :: _ => .error (.unexpectedArgument argument)

def readFrom (p : Progress) : List String → Except UsageError Invocation
  | [] => do return .serve (← settle p).config
  | argument :: rest => do
    let step ← match tokenOf argument with
      | .escape => return ← escaped p rest
      | .long name value => long p name value
      | .short letters => short p letters
      | .bare text => bare p text
    match step with
    | .inl p => readFrom p rest
    | .inr invocation => return invocation

def parse (arguments : List String) : Except UsageError Invocation :=
  readFrom .empty arguments

inductive Ending where
  | printed (text : String)
  | refused (why : UsageError)
  | serving (config : Option String)
deriving DecidableEq, Repr

def ending (arguments : List String) : Ending :=
  match parse arguments with
  | .ok .help => .printed helpText
  | .ok .version => .printed versionText
  | .ok (.serve config) => .serving config
  | .error why => .refused why

end CommandLine
end CaseFill
