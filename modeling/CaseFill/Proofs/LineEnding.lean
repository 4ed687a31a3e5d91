import CaseFill.Fix
import CaseFill.Proofs.Host.Course
import CaseFill.Proofs.Text.Line

/-! Line endings. All that is read of a document are its lines. Main statement: a
document with carriage returns in its line breaks, or with a break behind its last
line, leads every editor through the same calls and to the same results. -/
namespace CaseFill

namespace Text

def withReturns (t : Text) : Text := t.flatMap fun c => if c = '\n' then ['\r', '\n'] else [c]

inductive Respelling (t : Text) : Text → Prop where
  | returns : Respelling t (withReturns t)
  | finalBreak (hne : t ≠ []) (hlast : t.getLast? ≠ some '\n') : Respelling t (t ++ ['\n'])

theorem lines_cons {c : Char} (hfeed : c ≠ '\n') (hreturn : c ≠ '\r') (cs : Text) :
    lines (c :: cs) = prepend c (lines cs) :=
  lines_cons_of_not_break hfeed fun hc => absurd hc hreturn

theorem lines_withReturns {t : Text} (h : '\r' ∉ t) : lines (withReturns t) = lines t := by
  induction t with
  | nil => rfl
  | cons c cs ih =>
    obtain ⟨hc, hcs⟩ := List.ne_and_not_mem_of_not_mem_cons h
    by_cases hfeed : c = '\n'
    · subst hfeed
      have hsplit : withReturns ('\n' :: cs) = '\r' :: '\n' :: withReturns cs := rfl
      rw [hsplit, lines, lines, ih hcs]
    · have hsplit : withReturns (c :: cs) = c :: withReturns cs := by
        simp [withReturns, hfeed]
      rw [hsplit, lines_cons hfeed hc.symm, lines_cons hfeed hc.symm, ih hcs]

theorem lines_append_feed {t : Text} (h : '\r' ∉ t) (hne : t ≠ [])
    (hlast : t.getLast? ≠ some '\n') : lines (t ++ ['\n']) = lines t := by
  induction t with
  | nil => exact absurd rfl hne
  | cons c cs ih =>
    obtain ⟨hc, hcs⟩ := List.ne_and_not_mem_of_not_mem_cons h
    cases cs with
    | nil =>
      have hfeed : c ≠ '\n' := by simpa using hlast
      rw [List.singleton_append, lines_cons hfeed hc.symm, lines_cons hfeed hc.symm]
      rfl
    | cons d ds =>
      have hrest := ih hcs (List.cons_ne_nil d ds) (by simpa using hlast)
      by_cases hfeed : c = '\n'
      · subst hfeed
        rw [List.cons_append, lines, lines, hrest]
      · rw [List.cons_append, lines_cons hfeed hc.symm, lines_cons hfeed hc.symm, hrest]

theorem Respelling.lines_eq {t u : Text} (h : Respelling t u) (hreturn : '\r' ∉ t) :
    lines u = lines t := by
  cases h with
  | returns => exact lines_withReturns hreturn
  | finalBreak hne hlast => exact lines_append_feed hreturn hne hlast

end Text

/-! Two texts with the same lines are one document to every reader of it. -/
section
variable {t u : Text} (h : Text.lines u = Text.lines t)
include h

theorem Text.line?_of_lines_eq (n : Nat) : line? u n = line? t n := by
  rw [line?, line?, h]

theorem Text.wordAt_of_lines_eq (p : Position) : wordAt u p = wordAt t p := by
  rw [wordAt, wordAt, line?_of_lines_eq h]

theorem Sweep.rows_of_lines_eq (range : Range) : rows u range = rows t range := by
  rw [rows, rows, h]

theorem Sweep.record_of_lines_eq : record u = record t := by
  funext p hits found
  rw [record, record, Text.wordAt_of_lines_eq h]

theorem Sweep.sweepRows_of_lines_eq (uri : Uri) (cap : Nat) (rows : List Row) (hits : List Hit) :
    sweepRows uri u cap rows hits = sweepRows uri t cap rows hits := by
  induction cap generalizing rows hits with
  | zero => rfl
  | succ cap ih => simp only [sweepRows, record_of_lines_eq h, ih]

theorem Sweep.definitions_of_lines_eq (uri : Uri) (range : Range) (cap : Nat) :
    definitions uri u range cap = definitions uri t range cap := by
  rw [definitions, definitions, rows_of_lines_eq h, sweepRows_of_lines_eq h]

theorem Resolve.hasKeyword_of_lines_eq (range : Range) :
    hasKeyword u range = hasKeyword t range := by
  rw [hasKeyword, hasKeyword, Text.line?_of_lines_eq h]

theorem Resolve.headerRange_of_lines_eq (requested : Range) :
    headerRange u requested = headerRange t requested := by
  simp only [headerRange, Text.line?_of_lines_eq h]

theorem Resolve.resolve_of_lines_eq (uri : Uri) (range : Range) (settings : Settings) :
    resolve uri u range settings = resolve uri t range settings := by
  rw [resolve, resolve, hasKeyword_of_lines_eq h, Sweep.definitions_of_lines_eq h]

theorem Closing.closedBelow_of_lines_eq (n : Nat) : closedBelow u n = closedBelow t n := by
  rw [closedBelow, closedBelow, h]

theorem Closing.ofHeader_of_lines_eq (header : Header) (line : Nat) :
    ofHeader header u line = ofHeader header t line := by
  rw [ofHeader, ofHeader, closedBelow_of_lines_eq h]

theorem Fix.headerOf_of_lines_eq (range : Range) : headerOf u range = headerOf t range := by
  rw [headerOf, headerOf, Text.line?_of_lines_eq h]

theorem Fix.addCases_of_lines_eq (uri : Uri) (range : Range) (settings : Settings) :
    addCases uri u range settings = addCases uri t range settings := by
  simp only [addCases, Resolve.resolve_of_lines_eq h, headerOf_of_lines_eq h,
    Closing.ofHeader_of_lines_eq h]

end

namespace Fix

/-- How the line breaks of a document are written changes neither the range nor the
keyword that is found, nor what a sweep, a resolution and a fix come to, nor any call
that they make on the way. The editor's answers may depend on all calls before. -/
theorem converse_eq_of_respelling {t u : Text} (hreturn : '\r' ∉ t) (h : Text.Respelling t u)
    (editor : Editor) (uri : Uri) (range : Range) (settings : Settings) (cap : Nat) :
    Resolve.headerRange u range = Resolve.headerRange t range ∧
      Resolve.hasKeyword u range = Resolve.hasKeyword t range ∧
      editor.converse (Sweep.definitions uri u range cap).run =
        editor.converse (Sweep.definitions uri t range cap).run ∧
      editor.converse (Resolve.resolve uri u range settings).run =
        editor.converse (Resolve.resolve uri t range settings).run ∧
      editor.converse (addCases uri u range settings).run =
        editor.converse (addCases uri t range settings).run := by
  have hlines := h.lines_eq hreturn
  refine ⟨Resolve.headerRange_of_lines_eq hlines range, Resolve.hasKeyword_of_lines_eq hlines range,
    ?_, ?_, ?_⟩
  · rw [Sweep.definitions_of_lines_eq hlines]
  · rw [Resolve.resolve_of_lines_eq hlines]
  · rw [addCases_of_lines_eq hlines]

/-- A body that is closed two lines below its header: with carriage returns and with a
final break, the cases are written by the same calls. -/
theorem converse_eq_of_respelling_closed_body :
    let t := "switch (c) \x7b\n \n\x7d".toList
    let editor := Editor.knowing ⟨0, 8⟩ ⟨default, ⟨⟨9, 6⟩, ⟨9, 7⟩⟩⟩ "Color c".toList
      [⟨"Color".toList, .enum, ⟨⟨8, 0⟩, ⟨8, 20⟩⟩, []⟩] ["Red".toList]
    let run := fun content : Text =>
      editor.converse (addCases default content ⟨⟨0, 0⟩, ⟨0, 12⟩⟩ .standard).run
    '\r' ∉ t ∧ (run t).1.toOption = some (.committed "Color".toList ["Red".toList]) ∧
      Text.withReturns t = "switch (c) \x7b\r\n \r\n\x7d".toList ∧
      run (Text.withReturns t) = run t ∧
      t.getLast? ≠ some '\n' ∧ run (t ++ ['\n']) = run t := by
  intro t editor run
  have hreturn : '\r' ∉ t := by decide +kernel
  have hlast : t.getLast? ≠ some '\n' := by decide +kernel
  have hreturns := converse_eq_of_respelling hreturn .returns editor default
    ⟨⟨0, 0⟩, ⟨0, 12⟩⟩ .standard 0
  have hbreak := converse_eq_of_respelling hreturn
    (.finalBreak (List.ne_nil_of_length_pos (by decide +kernel)) hlast) editor default
    ⟨⟨0, 0⟩, ⟨0, 12⟩⟩ .standard 0
  refine ⟨hreturn, ?_, ?_, hreturns.2.2.2.2, hlast, hbreak.2.2.2.2⟩
  · decide +kernel
  · decide +kernel

end Fix
end CaseFill
