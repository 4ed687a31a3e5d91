import CaseFill.Proofs.Resolve
import CaseFill.Proofs.Sweep
import CaseFill.Proofs.Symbol
import CaseFill.Proofs.Text.Search

/-! Where a resolution comes from. One report of the sweep leads to the enumeration
through its hover, its type definition and a symbol tree. Main statement: all that
a resolution says can be traced back to one report, through the answers of an
editor whose answers are a function of the question. -/
namespace CaseFill.Resolve
open Inquiry
variable {answers : Answers}

theorem hasKeyword_iff {content : Text} {range : Range} :
    hasKeyword content range = true ↔
      ∃ line, Text.line? content range.start.line = some line ∧ switchKeyword <:+: line := by
  rw [hasKeyword, Option.any_eq_true]
  simp only [Text.occursIn_iff_infix]

theorem nameFrom_eq_some_iff {hovers : List Text} {identifier name : Text} :
    nameFrom hovers identifier = some name ↔
      ∃ hover, hovers.find? (!Hover.isEmpty ·) = some hover ∧ identifier <:+: hover ∧
        Hover.typeName? hover identifier = some name := by
  have h : nameFrom hovers identifier = (hovers.find? (!Hover.isEmpty ·)).bind fun hover =>
      if Text.occursIn identifier hover then Hover.typeName? hover identifier else none := rfl
  rw [h, Option.bind_eq_some_iff]
  simp only [Option.ite_none_right_eq_some, Text.occursIn_iff_infix]

/-- From a definition, the answers lead to a declaration of an enumeration. -/
structure Declares (answers : Answers) (definition : Location) (name : Text) (uri : Uri)
    (symbol : Symbol) : Prop where
  kind_eq : symbol.kind = .enum
  name_eq : Text.lastSegment symbol.name = name
  /-- It stands in the symbol tree of its document. With type definitions, it and all
  that contains it meet one of them, in the document of that one. -/
  placed : ∃ (types : List Location) (symbols ancestors : List Symbol),
    answers (.typeDefinition definition.uri definition.range.start) = .ok types ∧
    answers (.documentSymbol uri) = .ok symbols ∧ Symbol.PathTo symbols ancestors symbol ∧
    (types = [] ∧ uri = definition.uri ∨
      ∃ t ∈ types, uri = t.uri ∧ ∀ s ∈ ancestors ++ [symbol], s.range.intersects t.range = true)

theorem exists_place_of_searchAround {name : Text} {places : List Location} {uri : Uri}
    {symbol : Symbol}
    (h : (searchAround name places).outcome answers = .ok (some (uri, symbol))) :
    ∃ t ∈ places, uri = t.uri ∧ ∃ symbols : List Symbol,
      answers (.documentSymbol t.uri) = .ok symbols ∧
      Symbol.find name .enum (some t.range) symbols = some symbol := by
  induction places with
  | nil => cases h
  | cons t rest ih =>
    obtain ⟨symbols, hsymbols, hrest⟩ := outcome_bind_eq_ok_iff.mp h
    cases hfind : Symbol.find name .enum (some t.range) symbols with
    | some found =>
      rw [hfind] at hrest
      cases hrest
      exact ⟨t, List.mem_cons_self, rfl, symbols, hsymbols, hfind⟩
    | none =>
      rw [hfind] at hrest
      obtain ⟨t', ht', hfound⟩ := ih hrest
      exact ⟨t', List.mem_cons_of_mem _ ht', hfound⟩

theorem declares_of_findEnum {definition : Location} {name : Text} {uri : Uri} {symbol : Symbol}
    (h : (findEnum definition name).outcome answers = .ok (some (uri, symbol))) :
    Declares answers definition name uri symbol := by
  obtain ⟨types, htypes, hrest⟩ := outcome_bind_eq_ok_iff.mp h
  cases types with
  | nil =>
    obtain ⟨symbols, hsymbols, hfound⟩ := outcome_bind_eq_ok_iff.mp hrest
    cases hfind : Symbol.find name .enum none symbols with
    | none =>
      rw [hfind] at hfound
      cases hfound
    | some found =>
      rw [hfind] at hfound
      cases hfound
      obtain ⟨ancestors, hpath, hkind, hname, -⟩ := Symbol.admissible_of_find symbols hfind
      exact ⟨hkind, hname, [], symbols, ancestors, htypes, hsymbols, hpath, .inl ⟨rfl, rfl⟩⟩
  | cons first others =>
    obtain ⟨t, ht, rfl, symbols, hsymbols, hfind⟩ := exists_place_of_searchAround hrest
    obtain ⟨ancestors, hpath, hkind, hname, hbound⟩ := Symbol.admissible_of_find symbols hfind
    exact ⟨hkind, hname, first :: others, symbols, ancestors, htypes, hsymbols, hpath,
      .inr ⟨t, ht, rfl, hbound⟩⟩

/-- A report leads to an enumeration by itself: its identifier is not empty, the
first hover at its definition that is not blank mentions the identifier and names a
type, and an enumeration of that name is found from the definition. -/
structure LeadsTo (answers : Answers) (hit : Hit) (r : ResolvedEnum) : Prop where
  identifier_eq : r.identifier = hit.identifier
  identifier_ne : hit.identifier ≠ []
  named : ∃ (hovers : List Text) (hover : Text),
    answers (.hover hit.location.uri hit.location.range.start) = .ok hovers ∧
    hovers.find? (!Hover.isEmpty ·) = some hover ∧ hit.identifier <:+: hover ∧
    Hover.typeName? hover hit.identifier = some r.name
  found : (findEnum hit.location r.name).outcome answers = .ok (some (r.declaredIn, r.symbol))

theorem outcome_follow_eq_some_iff {hit : Hit} {r : ResolvedEnum} :
    (follow hit).outcome answers = .ok (some r) ↔ LeadsTo answers hit r := by
  constructor
  · intro h
    rw [follow] at h
    split at h
    · cases h
    · next hne =>
      obtain ⟨hovers, hhovers, hrest⟩ := outcome_bind_eq_ok_iff.mp h
      cases hname : nameFrom hovers hit.identifier with
      | none =>
        rw [hname] at hrest
        cases hrest
      | some name =>
        rw [hname] at hrest
        obtain ⟨hover, hfirst, hmentions, htype⟩ := nameFrom_eq_some_iff.mp hname
        obtain ⟨place, hplace, hdone⟩ := outcome_bind_eq_ok_iff.mp hrest
        cases place with
        | none => cases hdone
        | some place =>
          cases hdone
          exact ⟨rfl, hne, ⟨hovers, hover, hhovers, hfirst, hmentions, htype⟩, hplace⟩
  · intro h
    obtain ⟨hovers, hover, hhovers, hfirst, hmentions, htype⟩ := h.named
    have hname : nameFrom hovers hit.identifier = some r.name :=
      nameFrom_eq_some_iff.mpr ⟨hover, hfirst, hmentions, htype⟩
    rw [follow, if_neg h.identifier_ne]
    refine outcome_bind_eq_ok_iff.mpr ⟨hovers, hhovers, ?_⟩
    rw [hname]
    refine outcome_bind_eq_ok_iff.mpr ⟨some (r.declaredIn, r.symbol), h.found, ?_⟩
    rw [← h.identifier_eq]
    rfl

theorem exists_leadsTo_of_firstEnum {hits : List Hit} {r : ResolvedEnum}
    (h : (firstEnum hits).outcome answers = .ok (some r)) :
    ∃ hit ∈ hits, LeadsTo answers hit r := by
  induction hits with
  | nil => cases h
  | cons hit rest ih =>
    obtain ⟨found, hfound, hrest⟩ := outcome_bind_eq_ok_iff.mp h
    cases found with
    | some r' =>
      cases hrest
      exact ⟨hit, List.mem_cons_self, outcome_follow_eq_some_iff.mp hfound⟩
    | none =>
      obtain ⟨hit', hmem, hleads⟩ := ih hrest
      exact ⟨hit', List.mem_cons_of_mem _ hmem, hleads⟩

variable {uri : Uri} {content : Text} {range : Range} {settings : Settings} {r : ResolvedEnum}

theorem exists_leadsTo_of_resolve
    (h : (resolve uri content range settings).outcome answers = .ok (some r)) :
    hasKeyword content range = true ∧
      ∃ hit ∈ Sweep.keepFirst []
        (Sweep.reports answers uri content range settings.maxSweepPositions),
        LeadsTo answers hit r := by
  rw [resolve] at h
  split at h
  · next hkeyword =>
    obtain ⟨hits, hhits, hfirst⟩ := outcome_bind_eq_ok_iff.mp h
    obtain rfl := Sweep.eq_keepFirst_of_definitions hhits
    exact ⟨hkeyword, exists_leadsTo_of_firstEnum hfirst⟩
  · cases h

theorem exists_position_of_resolve
    (h : (resolve uri content range settings).outcome answers = .ok (some r)) :
    ∃ p ∈ (Sweep.positions content range).take settings.maxSweepPositions,
      Text.wordAt content p = some r.identifier ∧ ∃ found : List Location,
        answers (.definition uri p) = .ok found ∧ ∃ definition ∈ found,
          LeadsTo answers ⟨definition, r.identifier⟩ r := by
  obtain ⟨-, hit, hkept, hleads⟩ := exists_leadsTo_of_resolve h
  have hreport := (Sweep.mem_keepFirst_nil_iff.mp hkept).mem
  obtain ⟨p, hp, found, hfound, hlocation, hidentifier⟩ := Sweep.mem_reports_iff.mp hreport
  have hidentifier' : r.identifier = hit.identifier := hleads.identifier_eq
  refine ⟨p, hp, ?_, found, hfound, hit.location, hlocation, ?_⟩
  · -- an empty identifier leads nowhere, so there is a word at the position
    have hne := hleads.identifier_ne
    cases hword : Text.wordAt content p with
    | none => simp [hidentifier, hword] at hne
    | some word => rw [hidentifier', hidentifier, hword, Option.getD_some]
  · rw [hidentifier']
    exact hleads

/-- A resolution is sound: it comes from a word of the range at which the editor
knows a definition, through a hover that names the type of that word, and ends at an
enumeration of that name which the editor declares for that definition. -/
theorem declares_of_resolve {editor : Editor} (hanswers : editor.AnswersAs answers)
    (h : (editor.converse (resolve uri content range settings).run).1 = .ok (some r)) :
    (∃ line, Text.line? content range.start.line = some line ∧ switchKeyword <:+: line) ∧
    ∃ p ∈ (Sweep.positions content range).take settings.maxSweepPositions,
    ∃ found : List Location, answers (.definition uri p) = .ok found ∧ ∃ definition ∈ found,
      Text.wordAt content p = some r.identifier ∧ r.identifier ≠ [] ∧
      (∃ (hovers : List Text) (hover : Text),
        answers (.hover definition.uri definition.range.start) = .ok hovers ∧
        hovers.find? (!Hover.isEmpty ·) = some hover ∧ r.identifier <:+: hover ∧
        Hover.typeName? hover r.identifier = some r.name) ∧
      Text.isIdentifier r.name = true ∧
      Declares answers definition r.name r.declaredIn r.symbol := by
  rw [hanswers.converse_eq (always_resolve uri content range settings)] at h
  obtain ⟨hkeyword, -⟩ := exists_leadsTo_of_resolve h
  obtain ⟨p, hp, hword, found, hfound, definition, hin, hleads⟩ := exists_position_of_resolve h
  have hname : Text.isIdentifier r.name = true := by
    obtain ⟨hovers, hover, -, -, -, htype⟩ := hleads.named
    exact Hover.isIdentifier_of_typeName? htype
  exact ⟨hasKeyword_iff.mp hkeyword, p, hp, found, hfound, definition, hin, hword,
    hleads.identifier_ne, hleads.named, hname, declares_of_findEnum hleads.found⟩

/-- The answers of an editor for one variable `c`: its type is declared in a namespace,
and the first hover is blank. -/
def paletteReply : (call : Call) → call.Answer
  | .definition _ p => if p = ⟨0, 8⟩ then [⟨default, ⟨⟨4, 15⟩, ⟨4, 16⟩⟩⟩] else ([] : List Location)
  | .hover _ _ => ([" ".toList, "palette::Color c".toList] : List Text)
  | .typeDefinition _ _ => ([⟨default, ⟨⟨1, 5⟩, ⟨1, 10⟩⟩⟩] : List Location)
  | .documentSymbol _ =>
    ([⟨"palette".toList, ⟨3⟩, ⟨⟨0, 0⟩, ⟨2, 1⟩⟩,
      [⟨"Color".toList, .enum, ⟨⟨1, 0⟩, ⟨1, 20⟩⟩, []⟩]⟩] : List Symbol)
  | .completion _ _ => ([] : List Text)
  | .edit _ _ => false

theorem eq_ok_some_of_join {result : Except HostError (Option ResolvedEnum)} {r : ResolvedEnum}
    (h : result.toOption.join = some r) : result = .ok (some r) := by
  cases result with
  | error e => cases h
  | ok found => exact congrArg Except.ok h

theorem declares_of_resolve_palette :
    let run := (Editor.replying paletteReply).converse
      (resolve default "switch (c)".toList ⟨⟨0, 0⟩, ⟨0, 10⟩⟩ .standard).run
    ∃ r, run.1 = .ok (some r) ∧ r.identifier = "c".toList ∧ ∃ definition,
      Declares (answering paletteReply) definition r.name r.declaredIn r.symbol := by
  intro run
  have hrun : run.1.toOption.join.map ResolvedEnum.identifier = some "c".toList := by
    decide +kernel
  obtain ⟨r, hr, hidentifier⟩ := Option.map_eq_some_iff.mp hrun
  have hok := eq_ok_some_of_join hr
  obtain ⟨-, p, -, found, -, definition, -, -, -, -, -, hdeclares⟩ :=
    declares_of_resolve (Editor.answersAs_replying paletteReply) hok
  exact ⟨r, hok, hidentifier, definition, hdeclares⟩

end CaseFill.Resolve
