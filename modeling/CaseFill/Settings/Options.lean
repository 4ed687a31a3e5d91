import CaseFill.Json.Decode
import CaseFill.Settings
import CaseFill.Toml.Bounds

/-! Settings in the options of a client and in files. What is not mentioned has
its standard value, and what is mentioned has to be of the right form. -/
namespace CaseFill.Settings

open Json.Decoder

def positionsBound : Nat := 0x10000000000000000

/-- Read settings from the options of a client: an object, or a list of the
fields in order, whose end may be missing. -/
def ofOptions? : Json → Option Settings := record do
  return {
    languageIds := ← withDefault "languageIds" standard.languageIds (list string)
    fileExtensions := ← withDefault "fileExtensions" standard.fileExtensions (list string)
    maxSweepPositions :=
      ← withDefault "maxSweepPositions" standard.maxSweepPositions (natBelow positionsBound)
    actionTitle := ← withDefault "actionTitle" standard.actionTitle string }

def entry? {α : Type} (t : Toml) (key : String) (standard : α) (read : Toml → Option α) : Option α :=
  match t.get? key with
  | some v => read v
  | none => some standard

def ofTable? (t : Toml) : Option Settings := do
  if !t.isBounded then none
  return {
    languageIds := ← entry? t "languageIds" standard.languageIds Toml.asStrings?
    fileExtensions := ← entry? t "fileExtensions" standard.fileExtensions Toml.asStrings?
    maxSweepPositions :=
      ← entry? t "maxSweepPositions" standard.maxSweepPositions (Toml.asNatBelow? positionsBound)
    actionTitle := ← entry? t "actionTitle" standard.actionTitle Toml.asString? }

def toJson (s : Settings) : Json :=
  .obj [("languageIds", .strings s.languageIds), ("fileExtensions", .strings s.fileExtensions),
    ("maxSweepPositions", .int s.maxSweepPositions), ("actionTitle", .str s.actionTitle)]

end CaseFill.Settings
