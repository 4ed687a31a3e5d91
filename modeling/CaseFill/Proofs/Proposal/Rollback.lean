import CaseFill.Proofs.Proposal.Site

/-! Taking a proposal back. Main statement: the rollback is the exact inverse of
the provisional edits, for every document, every header and every name. -/
namespace CaseFill.Proposal
open Buffer (Apart)

theorem onHeader_le_iff {p : Proposal} {c d : Nat} : p.onHeader c ≤ p.onHeader d ↔ c ≤ d := by
  change p.line < p.line ∨ p.line = p.line ∧ c ≤ d ↔ c ≤ d
  omega

namespace Site
variable {p : Proposal} {content : Text} (site : Site p content)

include site in
theorem apart_provisionalEdits : Apart content p.provisionalEdits := by
  have hranges : p.provisionalEdits.Pairwise fun e f => e.range.stop ≤ f.range.start := by
    rw [provisionalEdits]
    cases ho : p.header.openParenAt with
    | none =>
      cases hc : p.header.closeParenAt with
      | none => simp
      | some d =>
        have hci := site.parts.close_le_insert hc
        simpa [TextEdit.insertion, onHeader_le_iff] using hci
    | some c =>
      have hoi := site.parts.open_le_insert ho
      cases hc : p.header.closeParenAt with
      | none => simpa [TextEdit.insertion, onHeader_le_iff] using hoi
      | some d =>
        have hoc := site.parts.open_le_close ho hc
        have hci := site.parts.close_le_insert hc
        simp [TextEdit.insertion, onHeader_le_iff, hoc, hoi, hci]
  exact (hranges.imp Or.inl).and (Buffer.pairwise_apart_of_splices site.map_provisionalEdits)

theorem apart_rollbackEdits : Apart site.edited p.rollbackEdits := by
  have hranges : p.rollbackEdits.Pairwise fun e f => f.range.stop ≤ e.range.start := by
    rw [rollbackEdits]
    cases ho : p.header.openParenAt with
    | none =>
      cases hc : p.header.closeParenAt with
      | none => simp
      | some d =>
        have hci := site.parts.close_le_insert hc
        simpa [TextEdit.deletion, removeAt, shift, onHeader_le_iff] using hci
    | some c =>
      have hoi := site.parts.open_le_insert ho
      cases hc : p.header.closeParenAt with
      | none => simpa [TextEdit.deletion, removeAt, shift, onHeader_le_iff] using hoi
      | some d =>
        have hoc := site.parts.open_le_close ho hc
        have hci := site.parts.close_le_insert hc
        simp [TextEdit.deletion, removeAt, shift, onHeader_le_iff, hoc, hci]
        omega
  exact (hranges.imp Or.inr).and (Buffer.pairwise_apart_of_reverse_splices site.map_rollbackEdits)

end Site

/-- The rollback of a proposal is the exact inverse of its provisional edits: the
two transactions one after the other leave every document as it was, and in
neither do two edits overlap. -/
theorem apply_rollbackEdits_apply_provisionalEdits {p : Proposal} {content line : Text}
    (hline : Text.line? content p.line = some line)
    (hheader : Header.inspect line = some p.header) (hname : '\n' ∉ p.enumName) :
    Buffer.apply (Buffer.apply content p.provisionalEdits) p.rollbackEdits = content ∧
      Apart content p.provisionalEdits ∧
      Apart (Buffer.apply content p.provisionalEdits) p.rollbackEdits := by
  obtain ⟨site⟩ := nonempty_site hline hheader hname
  rw [site.apply_provisionalEdits]
  exact ⟨site.apply_rollbackEdits, site.apart_provisionalEdits, site.apart_rollbackEdits⟩

/-- Both parentheses are missing, the body is closed on the line, and a character
beyond the basic plane stands before the keyword. -/
theorem apply_rollbackEdits_of_astral_header :
    let content := "int n;\r\n😀 switch c \x7b\x7d\r\n".toList
    let p : Proposal :=
      ⟨default, 1, "Color".toList, ⟨some 10, true, some 11, false, some 13, 13⟩⟩
    Text.line? content 1 = some "😀 switch c \x7b\x7d".toList ∧
      Header.inspect "😀 switch c \x7b\x7d".toList = some p.header ∧ '\n' ∉ p.enumName ∧
      Buffer.apply (Buffer.apply content p.provisionalEdits) p.rollbackEdits = content := by
  intro content p
  have hline : Text.line? content p.line = some "😀 switch c \x7b\x7d".toList := by
    decide +kernel
  have hheader : Header.inspect "😀 switch c \x7b\x7d".toList = some p.header := by
    decide +kernel
  have hname : '\n' ∉ p.enumName := by decide +kernel
  exact ⟨hline, hheader, hname, (apply_rollbackEdits_apply_provisionalEdits hline hheader hname).1⟩

end CaseFill.Proposal
