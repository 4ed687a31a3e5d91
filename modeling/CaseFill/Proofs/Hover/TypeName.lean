import CaseFill.Cases
import CaseFill.Hover
import CaseFill.Proofs.Text.Line
import CaseFill.Proofs.Text.Token

/-! What a type name is that was read off a hover. All that counts is the text in front of
the identifier. Main statement: the name is an identifier that stands in that text as a
whole word, or it is the identifier itself and only declaration words are in front of it. -/
namespace CaseFill

theorem Cases.lines_template {name : Text} (h : '\n' ∉ name) :
    Text.lines (template name) = [[], label name] := by
  have hne : label name ≠ [] :=
    List.append_ne_nil_of_right_ne_nil _ (List.cons_ne_nil _ _)
  rw [template, Text.lines, Text.lines_eq_singleton hne (newline_notMem_label h)]

namespace Hover
open Text (HasWord IsWordAt findWord isBlank isIdentChar isIdentifier tokens)

def typeBefore? (before identifier : Text) : Option Text := do
  let last ← before.getLast?
  if isBlank last then
    match specifier before with
    | .absent => if isIdentifier identifier then some identifier else none
    | .named name => some name
    | .unreadable => none
  else
    match specifier (← beforeLastBlank? before) with
    | .named name => some name
    | _ => none

theorem typeName?_eq (hover identifier : Text) :
    typeName? hover identifier =
      (findWord identifier (signature hover)).bind fun place =>
        typeBefore? ((signature hover).take place) identifier := rfl

theorem typeName?_of_signature {hover before identifier after : Text}
    (hshown : signature hover = before ++ identifier ++ after)
    (hplace : findWord identifier (signature hover) = some before.length) :
    typeName? hover identifier = typeBefore? before identifier := by
  have htake : (signature hover).take before.length = before := by
    rw [hshown, List.append_assoc, List.take_left]
  rw [typeName?_eq, hplace]
  exact congrArg (typeBefore? · identifier) htake

theorem exists_split_of_typeName? {hover identifier name : Text}
    (h : typeName? hover identifier = some name) :
    ∃ before after, signature hover = before ++ identifier ++ after ∧
      findWord identifier (signature hover) = some before.length ∧
      typeBefore? before identifier = some name := by
  have hfound := h
  rw [typeName?_eq] at hfound
  obtain ⟨place, hplace, -⟩ := Option.bind_eq_some_iff.mp hfound
  obtain ⟨before, after, hshown, rfl, -⟩ := Text.isWordAt_of_findWord hplace
  exact ⟨before, after, hshown, hplace, typeName?_of_signature hshown hplace ▸ h⟩

theorem specifier_eq_named_iff {t name : Text} :
    specifier t = .named name ↔ ∃ token, (typeTokens t).getLast? = some token ∧
      Text.lastSegment token = name ∧ isIdentifier name = true := by
  unfold specifier
  cases hlast : (typeTokens t).getLast? with
  | none => simp
  | some token =>
    dsimp only
    constructor
    · intro h
      split at h
      · next hname =>
        cases h
        exact ⟨token, rfl, rfl, hname⟩
      · cases h
    · rintro ⟨_, ⟨⟩, rfl, hname⟩
      rw [if_pos hname]

theorem isIdentifier_of_specifier {t name : Text} (h : specifier t = .named name) :
    isIdentifier name = true := by
  obtain ⟨token, -, -, hname⟩ := specifier_eq_named_iff.mp h
  exact hname

theorem specifier_concat {b : Char} (hb : isBlank b = true) (t : Text) :
    specifier (t ++ [b]) = specifier t := by
  rw [specifier, typeTokens, Text.tokens_concat hb]
  rfl

theorem beforeLastBlank?_append {front glue : Text} {b : Char} (hb : isBlank b = true)
    (hglue : ∀ c ∈ glue, isBlank c = false) :
    beforeLastBlank? (front ++ b :: glue) = some front := by
  have hrest : (front ++ b :: glue).reverse.dropWhile (!isBlank ·) = b :: front.reverse := by
    have hskip : ∀ c ∈ glue.reverse, (!isBlank c) = true := by simpa using hglue
    rw [List.reverse_append, List.reverse_cons, List.append_assoc,
      List.dropWhile_append_of_pos hskip, List.singleton_append]
    exact List.dropWhile_cons_of_neg (by simp [hb])
  rw [beforeLastBlank?, hrest]
  simp

theorem beforeLastBlank?_eq_none {t : Text} (h : ∀ c ∈ t, isBlank c = false) :
    beforeLastBlank? t = none := by
  have hrest : t.reverse.dropWhile (!isBlank ·) = [] := by
    rw [List.dropWhile_eq_nil_iff]
    simpa using h
  rw [beforeLastBlank?, hrest]

theorem typeBefore?_eq_none {before : Text} (h : ∀ c ∈ before, isBlank c = false)
    (identifier : Text) : typeBefore? before identifier = none := by
  rw [typeBefore?, beforeLastBlank?_eq_none h]
  cases hlast : before.getLast? with
  | none => rfl
  | some last =>
    have hb : isBlank last = false := h last (List.mem_of_getLast? hlast)
    simp [hb]

/-- The type is read off the text before the last blank; what is glued to the identifier
counts only when there is no type, for then nothing may be glued to it. -/
theorem typeBefore?_append {front glue : Text} {b : Char} (hb : isBlank b = true)
    (hglue : ∀ c ∈ glue, isBlank c = false) (identifier : Text) :
    typeBefore? (front ++ b :: glue) identifier =
      match specifier front with
      | .named name => some name
      | .absent => if glue = [] ∧ isIdentifier identifier = true then some identifier else none
      | .unreadable => none := by
  rw [typeBefore?, beforeLastBlank?_append hb hglue, List.getLast?_append, List.getLast?_cons]
  cases hlast : glue.getLast? with
  | none =>
    obtain rfl : glue = [] := List.getLast?_eq_none_iff.mp hlast
    simp only [Option.getD_none, Option.some_or, Option.bind_eq_bind, Option.bind_some, hb,
      if_true, specifier_concat hb]
    cases specifier front <;> simp
  | some last =>
    have hne : glue ≠ [] := by
      rintro rfl
      cases hlast
    have hlastBlank : isBlank last = false := hglue last (List.mem_of_getLast? hlast)
    simp only [Option.getD_some, Option.some_or, Option.bind_eq_bind, Option.bind_some, hlastBlank,
      hne, false_and, if_false]
    cases specifier front <;> simp

theorem exists_front_of_typeBefore? {before identifier name : Text}
    (h : typeBefore? before identifier = some name) :
    ∃ front b glue, before = front ++ b :: glue ∧ isBlank b = true ∧
      (specifier front = .named name ∨
        specifier front = .absent ∧ glue = [] ∧ isIdentifier identifier = true ∧
          name = identifier) := by
  cases hblank : List.find? isBlank before.reverse with
  | none =>
    have hall : ∀ c ∈ before, isBlank c = false := by simpa using hblank
    rw [typeBefore?_eq_none hall] at h
    cases h
  | some b =>
    obtain ⟨hb, glue, front, hsplit, hglue⟩ := List.find?_eq_some_iff_append.mp hblank
    have hbefore : before = front.reverse ++ b :: glue.reverse := by
      rw [← List.reverse_reverse before, hsplit]
      simp
    refine ⟨front.reverse, b, glue.reverse, hbefore, hb, ?_⟩
    rw [hbefore, typeBefore?_append hb (by simpa using hglue)] at h
    split at h
    · next hs =>
      cases h
      exact .inl hs
    · next hs =>
      split at h
      · next hclean =>
        cases h
        exact .inr ⟨hs, hclean.1, hclean.2, rfl⟩
      · cases h
    · cases h

theorem isIdentifier_of_typeBefore? {before identifier name : Text}
    (h : typeBefore? before identifier = some name) : isIdentifier name = true := by
  obtain ⟨front, b, glue, -, -, hs | ⟨-, -, hid, rfl⟩⟩ := exists_front_of_typeBefore? h
  · exact isIdentifier_of_specifier hs
  · exact hid

theorem isIdentifier_of_typeName? {hover identifier name : Text}
    (h : typeName? hover identifier = some name) : isIdentifier name = true := by
  obtain ⟨before, after, -, -, hbefore⟩ := exists_split_of_typeName? h
  exact isIdentifier_of_typeBefore? hbefore

theorem isSigil_iff {c : Char} : isSigil c = true ↔ c = '*' ∨ c = '&' := by
  simp [isSigil]

theorem isEdge_of_isSigil {c : Char} (h : isSigil c = true) : Text.isEdge (some c) = true := by
  rcases isSigil_iff.mp h with rfl | rfl
  · decide
  · decide

theorem hasWord_stripBoth {token t : Text} (h : HasWord token t) :
    HasWord (Text.stripBoth isSigil token) t := by
  obtain ⟨left, right, htoken, hleft, hright⟩ := Text.exists_stripBoth (p := isSigil) token
  rw [htoken] at h
  refine h.of_append ?_ ?_
  · cases hlast : left.getLast? with
    | none => rfl
    | some c => exact isEdge_of_isSigil (hleft c (List.mem_of_getLast? hlast))
  · cases hhead : right.head? with
    | none => rfl
    | some c => exact isEdge_of_isSigil (hright c (List.mem_of_head? hhead))

/-- The name of a specifier is cut out of one of its tokens at marks and colons only. -/
theorem hasWord_of_specifier {t name : Text} (h : specifier t = .named name) : HasWord name t := by
  obtain ⟨token, hlast, rfl, -⟩ := specifier_eq_named_iff.mp h
  have hin : token ∈ typeTokens t := List.mem_of_getLast? hlast
  obtain ⟨raw, hraw, rfl⟩ := List.mem_map.mp (List.mem_of_mem_filter hin)
  exact Text.hasWord_lastSegment (hasWord_stripBoth (Text.hasWord_of_mem_tokens hraw))

theorem isTypeToken_iff {token : Text} :
    (!token.isEmpty && !declarationWords.contains token) = true ↔
      ¬(token = [] ∨ token ∈ declarationWords) := by
  rw [Bool.and_eq_true, Bool.not_eq_true', Bool.not_eq_true', ← Bool.not_eq_true,
    ← Bool.not_eq_true, List.isEmpty_iff, List.contains_iff_mem, not_or]

theorem specifier_eq_absent_iff {t : Text} :
    specifier t = .absent ↔ ∀ token ∈ tokens t,
      Text.stripBoth isSigil token = [] ∨ Text.stripBoth isSigil token ∈ declarationWords := by
  have hnil : specifier t = .absent ↔ typeTokens t = [] := by
    unfold specifier
    cases hlast : (typeTokens t).getLast? with
    | none => simpa using hlast
    | some token =>
      have hne : typeTokens t ≠ [] := by
        intro hnil
        rw [hnil] at hlast
        cases hlast
      dsimp only
      split <;> simp [hne]
  rw [hnil, typeTokens, List.filter_eq_nil_iff, List.forall_mem_map]
  refine forall₂_congr fun token _ => ?_
  rw [isTypeToken_iff, not_not]

/-- A type name is an identifier, so that its case label is one line. It was found in front
of the identifier, which the search finds in the signature as a whole word, not at the start,
and as the first such word if it is made of identifier characters: either the name is itself
a whole word there that ends before the identifier begins, or it is the identifier, behind a
blank and with declaration words only in front of it. -/
theorem origin_of_typeName? {hover identifier name : Text}
    (h : typeName? hover identifier = some name) :
    isIdentifier name = true ∧ Text.lines (Cases.template name) = [[], Cases.label name] ∧
    ∃ before after, signature hover = before ++ identifier ++ after ∧ before ≠ [] ∧
      findWord identifier (signature hover) = some before.length ∧
      IsWordAt identifier none (signature hover) before.length ∧
      ((∀ c ∈ identifier, isIdentChar c = true) →
        ∀ i, IsWordAt identifier none (signature hover) i → before.length ≤ i) ∧
      ((∃ i, IsWordAt name none (signature hover) i ∧ i + name.length < before.length) ∨
        name = identifier ∧ (∃ b, before.getLast? = some b ∧ isBlank b = true) ∧
          ∀ token ∈ tokens before,
            Text.stripBoth isSigil token = [] ∨
              Text.stripBoth isSigil token ∈ declarationWords) := by
  have hname := isIdentifier_of_typeName? h
  refine ⟨hname, Cases.lines_template (Text.newline_notMem_of_isIdentifier hname), ?_⟩
  obtain ⟨before, after, hshown, hplace, hbefore⟩ := exists_split_of_typeName? h
  obtain ⟨front, b, glue, rfl, hb, hsource⟩ := exists_front_of_typeBefore? hbefore
  refine ⟨front ++ b :: glue, after, hshown, by simp, hplace,
    Text.isWordAt_of_findWord hplace, ?_, ?_⟩
  · intro hid i hi
    exact Text.le_of_findWord hid hplace hi
  · rcases hsource with hs | ⟨hs, rfl, -, rfl⟩
    · obtain ⟨i, hi⟩ := hasWord_of_specifier hs
      have hend := hi.end_le
      have hin : IsWordAt name none (front ++ b :: (glue ++ identifier ++ after)) i :=
        hi.append (Text.isEdge_of_isBlank hb)
      refine .inl ⟨i, ?_, ?_⟩
      · rw [hshown]
        simpa using hin
      · simp only [List.length_append, List.length_cons]
        omega
    · refine .inr ⟨rfl, ⟨b, by simp, hb⟩, ?_⟩
      rw [Text.tokens_concat hb]
      exact specifier_eq_absent_iff.mp hs

/-- A qualified type behind two declaration words and a pointer that is glued to the name. -/
theorem origin_of_typeName?_pointer :
    let hover :=
      "\x60\x60\x60cpp\n// In main\nstatic const gfx::Color *c = Color::RED\n\x60\x60\x60".toList
    typeName? hover ['c'] = some "Color".toList ∧ isIdentifier "Color".toList = true ∧
      ∃ before after, signature hover = before ++ ['c'] ++ after ∧
        ∃ i, IsWordAt "Color".toList none (signature hover) i ∧
          i + "Color".toList.length < before.length := by
  intro hover
  have h : typeName? hover ['c'] = some "Color".toList := by decide +kernel
  obtain ⟨hname, -, before, after, hshown, -, -, -, -, hword | ⟨hsame, -⟩⟩ := origin_of_typeName? h
  · exact ⟨h, hname, before, after, hshown, hword⟩
  · exact absurd hsame (by decide +kernel)

end Hover
end CaseFill
