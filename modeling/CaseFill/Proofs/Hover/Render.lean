import CaseFill.Proofs.Hover.Block

/-! Hovers that the editor answers in parts. Rendering puts each part on lines of its own and
code between fences; the signature is read off the first block of the rendered text. Main
statement: the signature of a rendered hover is made of the lines of its first part of code,
whatever texts without a fence come before it and whatever parts come after it. -/
namespace CaseFill.Hover

/-- The hover shows this code first: it has no other part, or in front of it there are only
texts that open no block. -/
inductive ShowsFirst (language value : Text) : HoverContents → Prop where
  | alone : ShowsFirst language value (.one (.code language value))
  | among {texts : List Text} (htexts : ∀ t ∈ texts, ¬fence <:+: t) (after : List Marked) :
    ShowsFirst language value (.several (texts.map .plain ++ .code language value :: after))

/-- A text that opens no block and the line feed behind it do not belong to the block that
follows. -/
theorem declaration_append_cons {t u : Text} (ht : ¬fence <:+: t) (hu : fence <:+: u) :
    declaration (t ++ '\n' :: u) = declaration u := by
  obtain ⟨i, hi⟩ := exists_find?_of_infix hu
  have hfound : Text.find? fence (t ++ '\n' :: u) = some (i + (t.length + 1)) := by
    rw [Text.find?_append_cons (by decide) (by decide) ht, hi, Option.map_some]
  have hplace : i + (t.length + 1) + 3 = (t ++ ['\n']).length + (i + 3) := by
    rw [List.length_append, List.length_singleton]
    omega
  have hsplit : t ++ '\n' :: u = (t ++ ['\n']) ++ u := by simp
  have hdrop : (t ++ '\n' :: u).drop (i + (t.length + 1) + 3) = u.drop (i + 3) := by
    rw [hplace, hsplit, ← List.drop_drop, List.drop_left]
  rw [declaration, declaration, hfound, hi]
  dsimp only
  rw [hdrop]

theorem exists_render_code (language value : Text) (after : List Marked) :
    ∃ rest, render (.several (.code language value :: after)) =
      renderMarked (.code language value) ++ rest := by
  cases after with
  | nil => exact ⟨[], (List.append_nil _).symm⟩
  | cons part parts => exact ⟨_, List.append_assoc ..⟩

theorem render_plain_cons (t : Text) {parts : List Marked} (h : parts ≠ []) :
    render (.several (.plain t :: parts)) = t ++ '\n' :: render (.several parts) := by
  obtain ⟨part, others, rfl⟩ := List.exists_cons_of_ne_nil h
  exact List.append_assoc ..

theorem fence_infix_code (language value rest : Text) :
    fence <:+: renderMarked (.code language value) ++ rest :=
  ⟨[], language ++ ['\n'] ++ value ++ ['\n'] ++ fence ++ rest, by simp [renderMarked]⟩

theorem declaration_render_among {texts : List Text} (htexts : ∀ t ∈ texts, ¬fence <:+: t)
    (language value : Text) (after : List Marked) :
    declaration (render (.several (texts.map .plain ++ .code language value :: after))) =
        declaration (render (.several (.code language value :: after))) ∧
      fence <:+: render (.several (texts.map .plain ++ .code language value :: after)) := by
  induction texts with
  | nil =>
    obtain ⟨rest, hrest⟩ := exists_render_code language value after
    refine ⟨rfl, ?_⟩
    rw [List.map_nil, List.nil_append, hrest]
    exact fence_infix_code language value rest
  | cons t texts ih =>
    -- a fence cannot reach over the line feed between two parts
    obtain ⟨ht, htexts⟩ := List.forall_mem_cons.mp htexts
    obtain ⟨hsame, hfence⟩ := ih htexts
    rw [List.map_cons, List.cons_append, render_plain_cons t (by simp)]
    refine ⟨(declaration_append_cons ht hfence).trans hsame, ?_⟩
    obtain ⟨before, behind, hsplit⟩ := hfence
    exact ⟨t ++ '\n' :: before, behind, by simp [← hsplit]⟩

theorem isCode_iff {line : Text} : isCode line = true ↔ line ≠ [] ∧ ¬"//".toList <+: line := by
  have hmark : commentMark = "//".toList := by decide
  simp [isCode, hmark, ← List.isPrefixOf_iff_prefix]

theorem codeLine_eq (t : Text) : codeLine t = Text.joined [' ']
    (((Text.lines t).map Text.trim).filter fun line => line ≠ [] ∧ ¬"//".toList <+: line) := by
  rw [codeLine]
  congr 2
  funext line
  rw [Bool.eq_iff_iff, isCode_iff, decide_eq_true_iff]

/-- The code that a hover shows first is read back from the rendered hover: its lines are
trimmed, those that are blank or comments are left out, and a space stands between the
others. -/
theorem signature_render {language value : Text} {contents : HoverContents}
    (hshows : ShowsFirst language value contents) (hlanguage : '\n' ∉ language)
    (hvalue : ¬fence <:+: value) :
    signature (render contents) = Text.joined [' ']
      (((Text.lines value).map Text.trim).filter
        fun line => line ≠ [] ∧ ¬"//".toList <+: line) := by
  rw [← codeLine_eq]
  cases hshows with
  | alone =>
    have h := signature_code hlanguage hvalue []
    rwa [List.append_nil] at h
  | among htexts after =>
    obtain ⟨rest, hrest⟩ := exists_render_code language value after
    rw [signature, (declaration_render_among htexts language value after).1, hrest]
    exact signature_code hlanguage hvalue rest

/-- Backticks in the text and in the code, a comment, a carriage return at the end of a line
and another block behind the code do not get in the way. -/
theorem signature_render_backticks :
    let value := "// In main\r\n  Color c = \x60\x60RED\x60\r\n\n \x60\x60".toList
    let contents : HoverContents := .several
      [.plain "the \x60c\x60\x60".toList, .plain [], .code "cpp".toList value,
        .code "cpp".toList "int c".toList]
    ShowsFirst "cpp".toList value contents ∧
      signature (render contents) = "Color c = \x60\x60RED\x60 \x60\x60".toList := by
  intro value contents
  have htexts : ∀ t ∈ ["the \x60c\x60\x60".toList, []], ¬fence <:+: t := by decide +kernel
  have hshows : ShowsFirst "cpp".toList value contents := .among htexts _
  have hvalue : ¬fence <:+: value := by decide +kernel
  exact ⟨hshows, (signature_render hshows (by decide +kernel) hvalue).trans (by decide +kernel)⟩

end CaseFill.Hover
