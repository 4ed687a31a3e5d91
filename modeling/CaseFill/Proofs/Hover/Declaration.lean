import CaseFill.Proofs.Hover.Block

/-! Declarations that can be read. A grammar says what may stand around the type and the
name of a variable: declaration words, marks of pointers and references, qualifiers, spaces
and anything behind the name. Main statement: in a block of code every such declaration
yields its type. -/
namespace CaseFill.Hover
open Text (IsWordAt findWord isBlank isEdge isIdentChar isIdentifier lastSegment tokens)

/-- A token with the spaces behind it, `more` of them after the first. -/
structure Spaced where
  token : Text
  more : Nat

def Spaced.text (s : Spaced) : Text := s.token ++ List.replicate (s.more + 1) ' '

def IsSigils (t : Text) : Prop := ∀ c ∈ t, isSigil c = true

def qualifiers (scope : List Text) : Text := scope.flatMap (· ++ [':', ':'])

/-- The token of the type: its name, maybe qualified, between marks. -/
structure TypeToken where
  left : Text
  isGlobal : Bool
  scope : List Text
  name : Text
  right : Text
  left_isSigils : IsSigils left
  scope_isIdentifier : ∀ s ∈ scope, isIdentifier s = true
  name_isIdentifier : isIdentifier name = true
  name_notMem : isGlobal = false → scope = [] → name ∉ declarationWords
  right_isSigils : IsSigils right

namespace TypeToken

def qualifier (t : TypeToken) : Text :=
  (if t.isGlobal then [':', ':'] else []) ++ qualifiers t.scope

def path (t : TypeToken) : Text := t.qualifier ++ t.name

def text (t : TypeToken) : Text := t.left ++ t.path ++ t.right

end TypeToken

/-- A token between the type and the name. -/
inductive IsAddition : Text → Prop where
  | sigils {t : Text} (hne : t ≠ []) (h : IsSigils t) : IsAddition t
  | word {left word right : Text} (hleft : IsSigils left) (hword : word ∈ declarationWords)
      (hright : IsSigils right) : IsAddition (left ++ word ++ right)

/-- What may stand directly in front of the name. -/
inductive IsGlue : Text → Prop where
  | sigils {t : Text} (h : IsSigils t) : IsGlue t
  | qualifiers {scope : List Text} (h : ∀ s ∈ scope, isIdentifier s = true) :
      IsGlue (qualifiers scope)

structure Declaration where
  words : List Spaced
  type : TypeToken
  gap : Nat
  additions : List Spaced
  glue : Text
  name : Text
  tail : Text
  words_mem : ∀ s ∈ words, s.token ∈ declarationWords
  additions_isAddition : ∀ s ∈ additions, IsAddition s.token
  isGlue : IsGlue glue
  name_ne_nil : name ≠ []
  name_isIdentChar : ∀ c ∈ name, isIdentChar c = true
  tail_isEdge : isEdge tail.head? = true

namespace Declaration

def spaced (d : Declaration) : List Spaced := d.words ++ ⟨d.type.text, d.gap⟩ :: d.additions

def front (d : Declaration) : Text := d.spaced.flatMap Spaced.text ++ d.glue

def text (d : Declaration) : Text := d.front ++ d.name ++ d.tail

end Declaration

/-! Characters. All that stands in front of the name, the spaces apart, is made of
characters that are neither blank nor begin a comment. -/

def isTokenChar (c : Char) : Bool := isIdentChar c || isSigil c || c == ':'

theorem isTokenChar_of_isSigil {c : Char} (h : isSigil c = true) : isTokenChar c = true := by
  simp [isTokenChar, h]

theorem isTokenChar_of_isIdentChar {c : Char} (h : isIdentChar c = true) :
    isTokenChar c = true := by
  simp [isTokenChar, h]

theorem isBlank_of_isTokenChar {c : Char} (h : isTokenChar c = true) : isBlank c = false := by
  simp only [isTokenChar, Bool.or_eq_true, beq_iff_eq] at h
  rcases h with (hident | hsigil) | rfl
  · exact Text.isBlank_of_isIdentChar hident
  · rcases isSigil_iff.mp hsigil with rfl | rfl
    · decide
    · decide
  · decide

theorem ne_slash_of_isTokenChar {c : Char} (h : isTokenChar c = true) : c ≠ '/' := by
  rintro rfl
  revert h
  decide

theorem isSigil_of_isIdentChar {c : Char} (h : isIdentChar c = true) : isSigil c = false := by
  cases hc : isSigil c with
  | false => rfl
  | true =>
    have hedge := isEdge_of_isSigil hc
    simp [isEdge, h] at hedge

theorem mem_qualifiers {scope : List Text} (h : ∀ s ∈ scope, isIdentifier s = true) {c : Char}
    (hc : c ∈ qualifiers scope) : isIdentChar c = true ∨ c = ':' := by
  obtain ⟨s, hs, hin⟩ := List.mem_flatMap.mp hc
  rcases List.mem_append.mp hin with hin | hin
  · exact .inl (Text.isIdentChar_of_mem (h s hs) hin)
  · exact .inr (by simpa using hin)

theorem qualifiers_cases (scope : List Text) :
    qualifiers scope = [] ∨ ∃ q, qualifiers scope = q ++ [':', ':'] := by
  rcases List.eq_nil_or_concat scope with rfl | ⟨others, last, rfl⟩
  · exact .inl rfl
  · exact .inr ⟨qualifiers others ++ last, by simp [qualifiers]⟩

/-! Declaration words are plain: no marks, no blanks and no `::`. -/

theorem ne_nil_of_mem_declarationWords {w : Text} (h : w ∈ declarationWords) : w ≠ [] := by
  revert w
  decide +kernel

theorem isTokenChar_of_mem_declarationWords {w : Text} (h : w ∈ declarationWords) {c : Char}
    (hc : c ∈ w) : isTokenChar c = true ∧ isSigil c = false := by
  have hall : ∀ w ∈ declarationWords, w.all (fun c => isTokenChar c && !isSigil c) = true := by
    decide +kernel
  simpa using List.all_eq_true.mp (hall w h) c hc

theorem notScoped_of_mem_declarationWords {w : Text} (h : w ∈ declarationWords) :
    ¬[':', ':'] <:+: w := by
  have hall : ∀ w ∈ declarationWords, Text.afterLastScope? w = none := by decide +kernel
  exact Text.afterLastScope?_eq_none_iff.mp (hall w h)

theorem stripBoth_isSigil {left core right : Text} (hleft : IsSigils left)
    (hright : IsSigils right) (hcore : ∀ c ∈ core, isSigil c = false) :
    Text.stripBoth isSigil (left ++ core ++ right) = core :=
  Text.stripBoth_append hleft hright (fun c hc => hcore c (List.mem_of_head? hc))
    fun c hc => hcore c (List.mem_of_getLast? hc)

namespace TypeToken
variable (t : TypeToken)

theorem mem_path {c : Char} (hc : c ∈ t.path) : isIdentChar c = true ∨ c = ':' := by
  rcases List.mem_append.mp hc with hc | hc
  · rcases List.mem_append.mp hc with hc | hc
    · right
      split at hc
      · simpa using hc
      · cases hc
    · exact mem_qualifiers t.scope_isIdentifier hc
  · exact .inl (Text.isIdentChar_of_mem t.name_isIdentifier hc)

theorem path_ne_nil : t.path ≠ [] := by
  have hne : t.name ≠ [] := by
    intro h
    have hname := t.name_isIdentifier
    rw [h] at hname
    cases hname
  exact List.append_ne_nil_of_right_ne_nil _ hne

theorem qualifier_cases :
    t.isGlobal = false ∧ t.scope = [] ∧ t.path = t.name ∨
      ∃ q, t.path = q ++ [':', ':'] ++ t.name := by
  unfold path qualifier
  rcases qualifiers_cases t.scope with hnil | ⟨q, hq⟩
  · cases hglobal : t.isGlobal with
    | false =>
      cases hscope : t.scope with
      | nil => exact .inl ⟨rfl, rfl, rfl⟩
      | cons s others => simp [hscope, qualifiers] at hnil
    | true => exact .inr ⟨[], by simp [hnil]⟩
  · exact .inr ⟨(if t.isGlobal then [':', ':'] else []) ++ q, by simp [hq]⟩

theorem path_notMem : t.path ∉ declarationWords := by
  rcases t.qualifier_cases with ⟨hglobal, hscope, hpath⟩ | ⟨q, hpath⟩
  · rw [hpath]
    exact t.name_notMem hglobal hscope
  · intro hin
    exact notScoped_of_mem_declarationWords hin ⟨q, t.name, hpath.symm⟩

theorem lastSegment_path : lastSegment t.path = t.name := by
  have hcolon : ':' ∉ t.name := by
    intro hin
    exact absurd (Text.isIdentChar_of_mem t.name_isIdentifier hin) (by decide)
  have hname : lastSegment t.name = t.name := by
    refine Text.lastSegment_eq_iff.mpr (.inl ⟨rfl, ?_⟩)
    intro hscope
    exact hcolon (hscope.subset (by simp))
  rcases t.qualifier_cases with ⟨-, -, hpath⟩ | ⟨q, hpath⟩
  · rw [hpath, hname]
  · have hhead : t.name.head? ≠ some ':' := fun h => hcolon (List.mem_of_head? h)
    rw [hpath, Text.lastSegment_qualified hhead, hname]

theorem stripBoth_text : Text.stripBoth isSigil t.text = t.path := by
  refine stripBoth_isSigil t.left_isSigils t.right_isSigils ?_
  intro c hc
  rcases t.mem_path hc with hident | rfl
  · exact isSigil_of_isIdentChar hident
  · decide

end TypeToken

theorem tokens_flatMap_text {spaced : List Spaced}
    (h : ∀ s ∈ spaced, s.token ≠ [] ∧ ∀ c ∈ s.token, isTokenChar c = true) :
    tokens (spaced.flatMap Spaced.text) = spaced.map Spaced.token := by
  induction spaced with
  | nil => rfl
  | cons s rest ih =>
    obtain ⟨⟨hne, hchars⟩, hrest⟩ := List.forall_mem_cons.mp h
    have hblank : ∀ c ∈ s.token, isBlank c = false :=
      fun c hc => isBlank_of_isTokenChar (hchars c hc)
    rw [List.flatMap_cons, Spaced.text, Text.tokens_word_append hblank hne, ih hrest,
      List.map_cons]

theorem stripBoth_isAddition {t : Text} (h : IsAddition t) :
    Text.stripBoth isSigil t = [] ∨ Text.stripBoth isSigil t ∈ declarationWords := by
  cases h with
  | sigils hne h =>
    left
    have hstrip := stripBoth_isSigil h (List.forall_mem_nil _) (List.forall_mem_nil _)
    rwa [List.append_nil, List.append_nil] at hstrip
  | @word left word right hleft hword hright =>
    right
    rw [stripBoth_isSigil hleft hright fun c hc => (isTokenChar_of_mem_declarationWords hword hc).2]
    exact hword

theorem isAddition_of_mem_declarationWords {w : Text} (h : w ∈ declarationWords) :
    IsAddition w := by
  have hword := IsAddition.word (List.forall_mem_nil _) h (List.forall_mem_nil _)
  rwa [List.append_nil] at hword

theorem token_of_isAddition {t : Text} (h : IsAddition t) :
    t ≠ [] ∧ ∀ c ∈ t, isTokenChar c = true := by
  cases h with
  | sigils hne h => exact ⟨hne, fun c hc => isTokenChar_of_isSigil (h c hc)⟩
  | @word left word right hleft hword hright =>
    refine ⟨by simp [ne_nil_of_mem_declarationWords hword], ?_⟩
    intro c hc
    simp only [List.mem_append] at hc
    rcases hc with (hc | hc) | hc
    · exact isTokenChar_of_isSigil (hleft c hc)
    · exact (isTokenChar_of_mem_declarationWords hword hc).1
    · exact isTokenChar_of_isSigil (hright c hc)

namespace IsGlue
variable {glue : Text} (h : IsGlue glue)
include h

theorem isTokenChar {c : Char} (hc : c ∈ glue) : isTokenChar c = true := by
  cases h with
  | sigils h => exact isTokenChar_of_isSigil (h c hc)
  | qualifiers h =>
    rcases mem_qualifiers h hc with hident | rfl
    · exact isTokenChar_of_isIdentChar hident
    · decide

theorem isEdge : Text.isEdge glue.getLast? = true := by
  cases h with
  | sigils h =>
    cases hlast : glue.getLast? with
    | none => rfl
    | some c => exact isEdge_of_isSigil (h c (List.mem_of_getLast? hlast))
  | @qualifiers scope h =>
    rcases qualifiers_cases scope with hnil | ⟨q, hq⟩
    · rw [hnil]
      rfl
    · rw [hq, List.getLast?_append]
      change Text.isEdge (some ':') = true
      decide

end IsGlue

namespace Declaration
variable (d : Declaration)

theorem token_of_mem_spaced {s : Spaced} (hs : s ∈ d.spaced) :
    s.token ≠ [] ∧ ∀ c ∈ s.token, isTokenChar c = true := by
  rcases List.mem_append.mp hs with hs | hs
  · exact token_of_isAddition (isAddition_of_mem_declarationWords (d.words_mem s hs))
  · rcases List.mem_cons.mp hs with rfl | hs
    · refine ⟨by simp [TypeToken.text, d.type.path_ne_nil], ?_⟩
      intro c hc
      simp only [TypeToken.text, List.mem_append] at hc
      rcases hc with (hc | hc) | hc
      · exact isTokenChar_of_isSigil (d.type.left_isSigils c hc)
      · rcases d.type.mem_path hc with hident | rfl
        · exact isTokenChar_of_isIdentChar hident
        · decide
      · exact isTokenChar_of_isSigil (d.type.right_isSigils c hc)
    · exact token_of_isAddition (d.additions_isAddition s hs)

theorem typeTokens_spaced : typeTokens (d.spaced.flatMap Spaced.text) = [d.type.path] := by
  have hdropped : ∀ {l : List Spaced}, (∀ s ∈ l, IsAddition s.token) →
      ((l.map Spaced.token).map (Text.stripBoth isSigil)).filter
        (fun token => !token.isEmpty && !declarationWords.contains token) = [] := by
    intro l hl
    rw [List.filter_eq_nil_iff, List.map_map, List.forall_mem_map]
    intro s hs
    rw [isTypeToken_iff, not_not]
    exact stripBoth_isAddition (hl s hs)
  have hkept := isTypeToken_iff.mpr (not_or.mpr ⟨d.type.path_ne_nil, d.type.path_notMem⟩)
  have hwords := hdropped fun s hs => isAddition_of_mem_declarationWords (d.words_mem s hs)
  have hadditions := hdropped d.additions_isAddition
  rw [typeTokens, tokens_flatMap_text fun s hs => d.token_of_mem_spaced hs, spaced,
    List.map_append, List.map_append, List.filter_append, hwords, List.nil_append, List.map_cons,
    List.map_cons, d.type.stripBoth_text, List.filter_cons, if_pos hkept, hadditions]

theorem specifier_spaced : specifier (d.spaced.flatMap Spaced.text) = .named d.type.name := by
  refine specifier_eq_named_iff.mpr ⟨d.type.path, ?_, d.type.lastSegment_path,
    d.type.name_isIdentifier⟩
  rw [d.typeTokens_spaced]
  rfl

theorem exists_concat_space : ∃ t, d.spaced.flatMap Spaced.text = t ++ [' '] := by
  have hne : d.spaced ≠ [] := by simp [spaced]
  rcases List.eq_nil_or_concat d.spaced with hnil | ⟨others, last, hlast⟩
  · exact absurd hnil hne
  · refine ⟨others.flatMap Spaced.text ++ last.token ++ List.replicate last.more ' ', ?_⟩
    rw [hlast, List.concat_eq_append, List.flatMap_append, List.flatMap_singleton, Spaced.text,
      List.replicate_succ']
    simp

theorem typeBefore?_front : typeBefore? d.front d.name = some d.type.name := by
  obtain ⟨t, ht⟩ := d.exists_concat_space
  have hblank : isBlank ' ' = true := by decide
  have hglue : ∀ c ∈ d.glue, isBlank c = false :=
    fun c hc => isBlank_of_isTokenChar (d.isGlue.isTokenChar hc)
  have hs := d.specifier_spaced
  rw [ht, specifier_concat hblank] at hs
  rw [front, ht, List.append_assoc, List.singleton_append, typeBefore?_append hblank hglue, hs]

theorem isEdge_front : isEdge d.front.getLast? = true := by
  obtain ⟨t, ht⟩ := d.exists_concat_space
  rw [front, ht, List.getLast?_append, List.getLast?_concat]
  exact Text.isEdge_or d.isGlue.isEdge (by decide)

/-- The name stands in the text as a whole word, so the search stops there at the latest. -/
theorem findWord_text (hfirst : ∀ i, IsWordAt d.name none d.text i → d.front.length ≤ i) :
    findWord d.name d.text = some d.front.length := by
  have hword : IsWordAt d.name none d.text d.front.length := by
    refine ⟨d.front, d.tail, rfl, rfl, ?_, d.tail_isEdge⟩
    rw [Option.or_none]
    exact d.isEdge_front
  have hfound := (Text.isSome_findWord_iff d.name_isIdentChar d.name_ne_nil).mpr ⟨_, hword⟩
  obtain ⟨i, hi⟩ := Option.isSome_iff_exists.mp hfound
  have hle := Text.le_of_findWord d.name_isIdentChar hi hword
  have hge := hfirst i (Text.isWordAt_of_findWord hi)
  rw [hi, Nat.le_antisymm hle hge]

theorem exists_front_cons : ∃ c rest, d.front = c :: rest ∧ isTokenChar c = true := by
  have hne : d.spaced ≠ [] := by simp [spaced]
  obtain ⟨s, others, hspaced⟩ := List.exists_cons_of_ne_nil hne
  obtain ⟨hne, hchars⟩ := d.token_of_mem_spaced (hspaced ▸ List.mem_cons_self : s ∈ d.spaced)
  obtain ⟨c, cs, htoken⟩ := List.exists_cons_of_ne_nil hne
  refine ⟨c, cs ++ List.replicate (s.more + 1) ' ' ++ others.flatMap Spaced.text ++ d.glue, ?_,
    hchars c (htoken ▸ List.mem_cons_self)⟩
  simp [front, hspaced, Spaced.text, htoken]

theorem trim_text : Text.trim d.text = d.front ++ d.name ++ Text.dropEndWhile isBlank d.tail := by
  obtain ⟨first, rest, hfront, hfirst⟩ := d.exists_front_cons
  have hhead : ∀ c, d.text.head? = some c → isBlank c = false := by
    intro c hc
    rw [text, hfront, List.cons_append, List.cons_append, List.head?_cons, Option.some.injEq] at hc
    exact hc ▸ isBlank_of_isTokenChar hfirst
  have hlast : ∀ c, (d.front ++ d.name).getLast? = some c → isBlank c = false := by
    intro c hc
    have hin : c ∈ d.name := by
      rw [List.getLast?_append_of_ne_nil _ d.name_ne_nil] at hc
      exact List.mem_of_getLast? hc
    exact Text.isBlank_of_isIdentChar (d.name_isIdentChar c hin)
  rw [Text.trim, Text.stripBoth, Text.dropWhile_eq_self hhead, text,
    Text.dropEndWhile_append hlast]

theorem codeLine_text (hline : '\n' ∉ d.text) :
    codeLine d.text = d.front ++ d.name ++ Text.dropEndWhile isBlank d.tail := by
  obtain ⟨first, rest, hfront, hfirst⟩ := d.exists_front_cons
  have hcode : isCode (d.front ++ d.name ++ Text.dropEndWhile isBlank d.tail) = true := by
    have hcomment : first ≠ '/' := ne_slash_of_isTokenChar hfirst
    simp [isCode, hfront, commentMark, List.isPrefixOf, Ne.symm hcomment]
  have hne : d.text ≠ [] := by simp [text, d.name_ne_nil]
  rw [codeLine, Text.lines_eq_singleton hne hline, List.map_singleton, d.trim_text,
    List.filter_cons_of_pos hcode]
  rfl

theorem isEdge_trimmed_tail : isEdge (Text.dropEndWhile isBlank d.tail).head? = true := by
  have hprefix : Text.dropEndWhile isBlank d.tail <+: d.tail := Text.trimEnd_prefix d.tail
  cases htail : Text.dropEndWhile isBlank d.tail with
  | nil => rfl
  | cons c cs =>
    obtain ⟨more, hmore⟩ := hprefix
    have hhead := d.tail_isEdge
    rwa [← hmore, htail] at hhead

theorem typeName?_of_signature {hover : Text} (hline : '\n' ∉ d.text)
    (hfirst : ∀ i, IsWordAt d.name none d.text i → d.front.length ≤ i)
    (hshows : signature hover = codeLine d.text) :
    typeName? hover d.name = some d.type.name := by
  have hshown := hshows.trans (d.codeLine_text hline)
  have hplace : findWord d.name (signature hover) = some d.front.length := by
    rw [hshown]
    exact Text.findWord_of_front d.isEdge_trimmed_tail (d.findWord_text hfirst)
  rw [Hover.typeName?_of_signature hshown hplace, d.typeBefore?_front]

end Declaration

/-- A declaration on one line, whose name does not stand as a whole word before its place,
yields its type: in a block of code in any language, if it has no fence in it, and by
itself, if it has no backtick at all. -/
theorem typeName?_declaration (d : Declaration) (hline : '\n' ∉ d.text)
    (hfirst : ∀ i, IsWordAt d.name none d.text i → d.front.length ≤ i) :
    (∀ language rest : Text, '\n' ∉ language → ¬fence <:+: d.text →
      typeName? (renderMarked (.code language d.text) ++ rest) d.name = some d.type.name) ∧
    ('\x60' ∉ d.text → typeName? d.text d.name = some d.type.name) := by
  constructor
  · intro language rest hlanguage hfence
    exact d.typeName?_of_signature hline hfirst (signature_code hlanguage hfence rest)
  · intro hbacktick
    exact d.typeName?_of_signature hline hfirst (signature_plain hbacktick)

theorem isSigils_singleton {c : Char} (h : isSigil c = true) : IsSigils [c] := by
  simpa [IsSigils] using h

/-- A reference to a constant pointer, with the name qualified and an initialiser behind it. -/
theorem exists_penColor :
    ∃ d : Declaration, d.front = "static const   ::gfx::Canvas::Color* const &  Pen::".toList ∧
      d.name = ['c'] ∧ d.tail = " = ink.c".toList ∧ d.type.name = "Color".toList := by
  let color : TypeToken :=
    { left := []
      isGlobal := true
      scope := ["gfx".toList, "Canvas".toList]
      name := "Color".toList
      right := ['*']
      left_isSigils := List.forall_mem_nil _
      scope_isIdentifier := by decide +kernel
      name_isIdentifier := by decide +kernel
      name_notMem := fun h => by cases h
      right_isSigils := isSigils_singleton (by decide) }
  let pen : Declaration :=
    { words := [⟨"static".toList, 0⟩, ⟨"const".toList, 2⟩]
      type := color
      gap := 0
      additions := [⟨"const".toList, 0⟩, ⟨['&'], 1⟩]
      glue := qualifiers ["Pen".toList]
      name := ['c']
      tail := " = ink.c".toList
      words_mem := by decide +kernel
      additions_isAddition := List.forall_mem_cons.mpr
        ⟨isAddition_of_mem_declarationWords (by decide +kernel), List.forall_mem_singleton.mpr
          (.sigils (List.cons_ne_nil _ _) (isSigils_singleton (by decide)))⟩
      isGlue := .qualifiers (by decide +kernel)
      name_ne_nil := List.cons_ne_nil _ _
      name_isIdentChar := List.all_eq_true.mp (by decide +kernel)
      tail_isEdge := by decide +kernel }
  exact ⟨pen, by decide +kernel, rfl, rfl, rfl⟩

theorem typeName?_declaration_pen :
    ∃ d : Declaration,
      d.text = "static const   ::gfx::Canvas::Color* const &  Pen::c = ink.c".toList ∧
      '\n' ∉ d.text ∧ ¬fence <:+: d.text ∧
      typeName? (renderMarked (.code "cpp".toList d.text) ++ "\nThe pen.".toList) ['c'] =
        some "Color".toList := by
  obtain ⟨d, hfront, hname, htail, htype⟩ := exists_penColor
  have htext : d.text = "static const   ::gfx::Canvas::Color* const &  Pen::c = ink.c".toList := by
    rw [Declaration.text, hfront, hname, htail]
    decide +kernel
  have hline : '\n' ∉ d.text := by
    rw [htext]
    decide +kernel
  have hfence : ¬fence <:+: d.text := by
    rw [htext]
    decide +kernel
  have hfound : findWord d.name d.text = some d.front.length := by
    rw [htext, hname, hfront]
    decide +kernel
  have hread := (typeName?_declaration d hline fun i hi =>
    Text.le_of_findWord d.name_isIdentChar hfound hi).1 "cpp".toList "\nThe pen.".toList
    (by decide +kernel) hfence
  rw [hname, htype] at hread
  exact ⟨d, htext, hline, hfence, hread⟩

end CaseFill.Hover
