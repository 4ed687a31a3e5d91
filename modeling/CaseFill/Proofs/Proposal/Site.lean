import CaseFill.Proofs.Buffer
import CaseFill.Proofs.Header
import CaseFill.Proposal

/-! A proposal in its document. Its provisional edits are a change of the text
around the header line, and its rollback is the inverse of that change. Main
statements: what the document is after the provisional edits, and that the
rollback leads back from there. -/
namespace CaseFill.Proposal
open Buffer (Piece textBefore textAfter splices)
open Text (IsLines width)

/-- The document of a proposal, cut around the header line and within it. The
break that ends the header line belongs to `after`. -/
structure Site (p : Proposal) (content : Text) where
  before : Text
  line : Text
  after : Text
  parts : Header.Parts line p.header
  line_eq : Text.line? content p.line = some line
  header_eq : Header.inspect line = some p.header
  content_eq : content = before ++ line ++ after
  isLines : IsLines p.line before
  line_noBreak : '\n' ∉ line
  name_noBreak : '\n' ∉ p.enumName

theorem nonempty_site {p : Proposal} {content line : Text}
    (hline : Text.line? content p.line = some line)
    (hheader : Header.inspect line = some p.header) (hname : '\n' ∉ p.enumName) :
    Nonempty (Site p content) := by
  obtain ⟨before, after, hcontent, hbefore, hbreak⟩ := Text.exists_cut_of_line? hline
  obtain ⟨parts⟩ := Header.nonempty_parts hheader
  exact ⟨⟨before, line, after, parts, hline, hheader, hcontent, hbefore, hbreak, hname⟩⟩

def paren (c : Char) (column : Option Nat) : Text := if column.isSome then [c] else []

theorem width_paren {c : Char} (hc : Text.units c = 1) (column : Option Nat) :
    width (paren c column) = shift column := by
  cases column with
  | none => rfl
  | some _ => simp [paren, shift, width, hc]

theorem length_paren (c : Char) (column : Option Nat) :
    (paren c column).length = shift column := by
  cases column <;> rfl

theorem newline_notMem_punctuation (h : Header) : '\n' ∉ h.punctuation := by
  unfold Header.punctuation
  split <;> split <;> decide

theorem map_optional {t : Text} {column : Option Nat} {edit : Nat → TextEdit} {s : Buffer.Splice}
    (h : ∀ c, column = some c → Buffer.spliceOf t (edit c) = s) :
    (column.map edit).toList.map (Buffer.spliceOf t) = (column.map fun _ => s).toList := by
  cases column with
  | none => rfl
  | some c => simp [h c rfl]

theorem splices_optional (start : Nat) (column : Option Nat) (old new : Text) (rest : List Piece) :
    splices start ((column.map fun _ => Piece.replaced old new).toList ++ rest) =
      (column.map fun _ => ⟨start, start + old.length, new⟩).toList ++
        splices (start + shift column * old.length) rest := by
  cases column with
  | none => simp [shift]
  | some c => simp [shift, splices]

namespace Site
variable {p : Proposal} {content : Text} (site : Site p content)

def header : Text :=
  site.parts.head ++ paren '(' p.header.openParenAt ++ site.parts.condition ++
    paren ')' p.header.closeParenAt ++ site.parts.brace

def edited : Text :=
  site.before ++ (site.header ++ (p.text ++ (site.parts.tail ++ site.after)))

def change : List Piece :=
  .kept (site.before ++ site.parts.head) ::
    (p.header.openParenAt.map fun _ => Piece.replaced [] ['(']).toList ++
    .kept site.parts.condition ::
    (p.header.closeParenAt.map fun _ => Piece.replaced [] [')']).toList ++
    [.kept site.parts.brace, .replaced [] p.text, .kept (site.parts.tail ++ site.after)]

theorem textBefore_change : textBefore site.change = content := by
  refine Eq.trans ?_ (site.content_eq.trans (by rw [site.parts.line_eq])).symm
  rw [change]
  cases p.header.openParenAt <;> cases p.header.closeParenAt <;>
    simp [textBefore, Piece.before]

theorem textAfter_change : textAfter site.change = site.edited := by
  rw [change, edited, header]
  cases p.header.openParenAt <;> cases p.header.closeParenAt <;>
    simp [textAfter, Piece.after, paren]

theorem place_content {x : Text} (hx : x <+: site.line) :
    Buffer.place content (p.onHeader (width x)) = site.before.length + x.length := by
  obtain ⟨rest, hrest⟩ := hx
  have hbreak : '\n' ∉ x := fun hm => site.line_noBreak (hrest ▸ List.mem_append_left _ hm)
  have hcontent : content = site.before ++ (x ++ (rest ++ site.after)) := by
    refine site.content_eq.trans ?_
    simp [← hrest]
  have h := Buffer.place_of_isLines (rest ++ site.after) site.isLines hbreak
  rwa [← hcontent] at h

theorem header_noBreak : '\n' ∉ site.header := by
  have hline := site.line_noBreak
  rw [site.parts.line_eq] at hline
  simp only [List.mem_append, not_or] at hline
  have hparen : ∀ c column, c ≠ '\n' → '\n' ∉ paren c column := by
    intro c column hc
    cases column with
    | none => simp [paren]
    | some _ => simpa [paren] using hc.symm
  simp only [header, List.mem_append, not_or]
  exact ⟨⟨⟨⟨hline.1.1.1, hparen _ _ (by decide)⟩, hline.1.1.2⟩, hparen _ _ (by decide)⟩, hline.1.2⟩

theorem place_edited {x : Text} (hx : x <+: site.header) :
    Buffer.place site.edited (p.onHeader (width x)) = site.before.length + x.length := by
  obtain ⟨rest, hrest⟩ := hx
  have hbreak : '\n' ∉ x := fun hm => site.header_noBreak (hrest ▸ List.mem_append_left _ hm)
  rw [edited, ← hrest, List.append_assoc]
  exact Buffer.place_of_isLines _ site.isLines hbreak

theorem place_completionAt :
    Buffer.place site.edited p.completionAt =
      site.before.length + site.header.length + p.text.length := by
  have hbreak : '\n' ∉ site.header ++ p.header.punctuation := by
    simp [site.header_noBreak, newline_notMem_punctuation]
  have h := Buffer.place_of_isLines (site.parts.tail ++ site.after)
    (site.isLines.append_line hbreak) (Cases.newline_notMem_label site.name_noBreak)
  have hedited : site.edited = site.before ++ (site.header ++ p.header.punctuation) ++ ['\n'] ++
      (Cases.label p.enumName ++ (site.parts.tail ++ site.after)) := by
    simp [edited, text, Cases.template]
  rw [hedited, completionAt, h]
  simp [text, Cases.template]
  omega

theorem map_provisionalEdits :
    p.provisionalEdits.map (Buffer.spliceOf content) = splices 0 site.change := by
  have hopen : ∀ c, p.header.openParenAt = some c →
      Buffer.spliceOf content (.insertion (p.onHeader c) ['(']) =
        ⟨site.before.length + site.parts.head.length,
          site.before.length + site.parts.head.length, ['(']⟩ := by
    intro c hc
    have hp := site.place_content site.parts.head_prefix
    rw [← site.parts.openParenAt_eq c hc] at hp
    rw [Buffer.spliceOf, TextEdit.insertion, hp]
  have hclose : ∀ c, p.header.closeParenAt = some c →
      Buffer.spliceOf content (.insertion (p.onHeader c) [')']) =
        ⟨site.before.length + site.parts.head.length + site.parts.condition.length,
          site.before.length + site.parts.head.length + site.parts.condition.length, [')']⟩ := by
    intro c hc
    have hp := site.place_content site.parts.condition_prefix
    rw [← site.parts.closeParenAt_eq c hc, List.length_append, ← Nat.add_assoc] at hp
    rw [Buffer.spliceOf, TextEdit.insertion, hp]
  have hinsert := site.place_content site.parts.brace_prefix
  rw [← site.parts.insertAt_eq] at hinsert
  simp only [provisionalEdits, change, List.map_append, map_optional hopen, map_optional hclose,
    List.cons_append, List.append_assoc, splices, splices_optional]
  simp [Buffer.spliceOf, TextEdit.insertion, hinsert, Nat.add_assoc]

theorem apply_provisionalEdits : Buffer.apply content p.provisionalEdits = site.edited := by
  have hmap : p.provisionalEdits.map (Buffer.spliceOf (textBefore site.change)) =
      splices 0 site.change := by
    rw [site.textBefore_change]
    exact site.map_provisionalEdits
  have h := Buffer.apply_of_splices hmap
  rwa [site.textBefore_change, site.textAfter_change] at h

/-- The splices of the inverse change: the parentheses and the text that were put
in are taken out where they stand now. -/
theorem splices_inverse_change :
    splices 0 (Buffer.inverse site.change) =
      (p.header.openParenAt.map fun _ =>
        (⟨site.before.length + site.parts.head.length,
          site.before.length + site.parts.head.length + 1, []⟩ : Buffer.Splice)).toList ++
      (p.header.closeParenAt.map fun _ =>
        (⟨site.before.length + site.parts.head.length + shift p.header.openParenAt +
            site.parts.condition.length,
          site.before.length + site.parts.head.length + shift p.header.openParenAt +
            site.parts.condition.length + 1, []⟩ : Buffer.Splice)).toList ++
      [⟨site.before.length + site.header.length,
        site.before.length + site.header.length + p.text.length, []⟩] := by
  have hinverse : Buffer.inverse site.change =
      .kept (site.before ++ site.parts.head) ::
        ((p.header.openParenAt.map fun _ => Piece.replaced ['('] []).toList ++
        .kept site.parts.condition ::
        ((p.header.closeParenAt.map fun _ => Piece.replaced [')'] []).toList ++
        [.kept site.parts.brace, .replaced p.text [], .kept (site.parts.tail ++ site.after)])) := by
    rw [change]
    cases p.header.openParenAt <;> cases p.header.closeParenAt <;> rfl
  have hheader : site.header.length = site.parts.head.length + shift p.header.openParenAt +
      site.parts.condition.length + shift p.header.closeParenAt + site.parts.brace.length := by
    simp [header, length_paren, Nat.add_assoc]
  rw [hinverse, hheader]
  simp [splices, splices_optional, Nat.add_assoc]

theorem place_open {c : Nat} (hc : p.header.openParenAt = some c) :
    Buffer.place site.edited (p.onHeader c) = site.before.length + site.parts.head.length ∧
      Buffer.place site.edited (p.onHeader (c + 1)) =
        site.before.length + site.parts.head.length + 1 := by
  have hstart := site.place_edited (x := site.parts.head) (by simp [header])
  have hstop := site.place_edited
    (x := site.parts.head ++ paren '(' p.header.openParenAt) (by simp [header])
  rw [Text.width_append, width_paren (by decide), List.length_append, length_paren,
    ← Nat.add_assoc] at hstop
  rw [← site.parts.openParenAt_eq c hc] at hstart hstop
  rw [hc] at hstop
  exact ⟨hstart, hstop⟩

theorem place_close {c : Nat} (hc : p.header.closeParenAt = some c) :
    Buffer.place site.edited (p.onHeader (c + shift p.header.openParenAt)) =
        site.before.length + site.parts.head.length + shift p.header.openParenAt +
          site.parts.condition.length ∧
      Buffer.place site.edited (p.onHeader (c + shift p.header.openParenAt + 1)) =
        site.before.length + site.parts.head.length + shift p.header.openParenAt +
          site.parts.condition.length + 1 := by
  have hstart := site.place_edited
    (x := site.parts.head ++ paren '(' p.header.openParenAt ++ site.parts.condition)
    (by simp [header])
  have hstop := site.place_edited
    (x := site.parts.head ++ paren '(' p.header.openParenAt ++ site.parts.condition ++
      paren ')' p.header.closeParenAt) (by simp [header])
  have hcolumn : c + shift p.header.openParenAt =
      width (site.parts.head ++ paren '(' p.header.openParenAt ++ site.parts.condition) := by
    rw [site.parts.closeParenAt_eq c hc, Text.width_append, Text.width_append, Text.width_append,
      width_paren (by decide)]
    omega
  rw [Text.width_append _ (paren ')' _), width_paren (by decide), List.length_append,
    length_paren, hc] at hstop
  rw [hcolumn, hstart]
  simp only [List.length_append, length_paren, ← Nat.add_assoc] at hstop ⊢
  exact ⟨trivial, hstop⟩

theorem width_header : width site.header =
    p.header.insertAt + shift p.header.openParenAt + shift p.header.closeParenAt := by
  rw [site.parts.insertAt_eq, header]
  simp only [Text.width_append, width_paren (c := '(') (by decide),
    width_paren (c := ')') (by decide)]
  omega

theorem place_insert :
    Buffer.place site.edited (p.onHeader (p.header.insertAt + shift p.header.openParenAt +
      shift p.header.closeParenAt)) = site.before.length + site.header.length := by
  rw [← site.width_header]
  exact site.place_edited (List.prefix_refl _)

/-- The rollback edits are the splices of the inverse change, from right to left. -/
theorem map_rollbackEdits :
    p.rollbackEdits.map (Buffer.spliceOf site.edited) =
      (splices 0 (Buffer.inverse site.change)).reverse := by
  have hopen : ∀ c, p.header.openParenAt = some c →
      Buffer.spliceOf site.edited (p.removeAt c) =
        ⟨site.before.length + site.parts.head.length,
          site.before.length + site.parts.head.length + 1, []⟩ := by
    intro c hc
    obtain ⟨hstart, hstop⟩ := site.place_open hc
    simp only [Buffer.spliceOf, removeAt, TextEdit.deletion, hstart, hstop]
  have hclose : ∀ c, p.header.closeParenAt = some c →
      Buffer.spliceOf site.edited (p.removeAt (c + shift p.header.openParenAt)) =
        ⟨site.before.length + site.parts.head.length + shift p.header.openParenAt +
            site.parts.condition.length,
          site.before.length + site.parts.head.length + shift p.header.openParenAt +
            site.parts.condition.length + 1, []⟩ := by
    intro c hc
    obtain ⟨hstart, hstop⟩ := site.place_close hc
    simp only [Buffer.spliceOf, removeAt, TextEdit.deletion, hstart, hstop]
  rw [site.splices_inverse_change]
  simp only [rollbackEdits, List.map_append, map_optional hopen, map_optional hclose,
    List.reverse_append, List.append_assoc]
  simp only [Buffer.spliceOf, TextEdit.deletion, List.map_cons, List.map_nil, site.place_insert,
    site.place_completionAt, List.reverse_cons, List.reverse_nil, List.nil_append]
  cases p.header.openParenAt <;> cases p.header.closeParenAt <;> rfl

theorem apply_rollbackEdits : Buffer.apply site.edited p.rollbackEdits = content := by
  have hperm : (p.rollbackEdits.map (Buffer.spliceOf (textBefore (Buffer.inverse site.change)))).Perm
      (splices 0 (Buffer.inverse site.change)) := by
    rw [Buffer.textBefore_inverse, site.textAfter_change, site.map_rollbackEdits]
    exact List.reverse_perm _
  have hne : ∀ s ∈ splices 0 (Buffer.inverse site.change), s.start < s.stop := by
    have htext : 0 < p.text.length := by
      rw [text, Cases.template, List.length_append, List.length_cons]
      omega
    rw [site.splices_inverse_change]
    intro s hs
    simp only [List.mem_append, Option.mem_toList, Option.map_eq_some_iff, List.mem_singleton] at hs
    rcases hs with (⟨_, -, rfl⟩ | ⟨_, -, rfl⟩) | rfl
    · exact Nat.lt_succ_self _
    · exact Nat.lt_succ_self _
    · exact Nat.lt_add_of_pos_right htext
  have h := Buffer.apply_of_perm_splices hperm hne
  rwa [Buffer.textBefore_inverse, Buffer.textAfter_inverse, site.textAfter_change,
    site.textBefore_change] at h

end Site
end CaseFill.Proposal
