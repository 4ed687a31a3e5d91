import CaseFill.Proofs.Fix.Transaction

/-! What a committed fix writes. Main statement: the document afterwards is the
one before with the parentheses, the punctuation, one case per member and the
closing put into the header line, and nothing else. -/
namespace CaseFill

namespace Text

def insertAtColumn (c : Char) (column : Option Nat) (t : Text) : Option Text :=
  match column with
  | none => some t
  | some n => (splitAtColumn t n).map fun parts => parts.1 ++ c :: parts.2

end Text

/-- The header line with its missing parentheses. The right one goes in first, so
that both columns are those of the line. -/
def Header.parenthesised (h : Header) (line : Text) : Option Text :=
  (Text.insertAtColumn ')' h.closeParenAt line).bind (Text.insertAtColumn '(' h.openParenAt)

namespace Cases

def caseOf (name member : Text) : Text :=
  "\ncase ".toList ++ name ++ "::".toList ++ member ++ ":\nbreak;".toList

theorem caseOf_eq (name member : Text) :
    caseOf name member = template name ++ member ++ caseEnd := by
  have hlead : "\ncase ".toList = '\n' :: "case ".toList := by decide
  have hcolons : "::".toList = [':', ':'] := by decide
  have htemplate : "\ncase ".toList ++ name ++ "::".toList = template name :=
    congrArg₂ (fun lead colons => lead ++ name ++ colons) hlead hcolons
  exact congrArg (· ++ member ++ caseEnd) htemplate

/-- The provisional label and the text put after it are the cases of all members. -/
theorem template_append_block (name : Text) {members : List Text} (closing : Closing)
    (h : members ≠ []) :
    template name ++ block name members closing =
      members.flatMap (caseOf name) ++ closing.text := by
  cases members with
  | nil => exact absurd rfl h
  | cons first others =>
    have hcase : caseOf name = fun m => template name ++ m ++ caseEnd := funext (caseOf_eq name)
    simp only [block, List.flatMap_cons, hcase, List.append_assoc]

end Cases

namespace Proposal.Site
open Buffer (Piece textBefore textAfter splices)
variable {p : Proposal} {content : Text} (site : p.Site content)

theorem insertAtColumn_paren {c : Char} {column : Option Nat} {x y : Text}
    (h : ∀ n, column = some n → n = Text.width x) :
    Text.insertAtColumn c column (x ++ y) = some (x ++ paren c column ++ y) := by
  cases column with
  | none => simp [Text.insertAtColumn, paren]
  | some n =>
    rw [Text.insertAtColumn, h n rfl, Text.splitAtColumn_width]
    simp [paren]

theorem parenthesised_line :
    p.header.parenthesised site.line = some (site.header ++ site.parts.tail) := by
  have hclose := insertAtColumn_paren (c := ')') (x := site.parts.head ++ site.parts.condition)
    (y := site.parts.brace ++ site.parts.tail) site.parts.closeParenAt_eq
  have hopen := insertAtColumn_paren (c := '(') (x := site.parts.head)
    (y := site.parts.condition ++ paren ')' p.header.closeParenAt ++ site.parts.brace ++
      site.parts.tail) site.parts.openParenAt_eq
  have hline : site.line = site.parts.head ++ site.parts.condition ++
      (site.parts.brace ++ site.parts.tail) := by
    rw [← List.append_assoc]
    exact site.parts.line_eq
  have hclosed := (congrArg (Text.insertAtColumn ')' p.header.closeParenAt) hline).trans hclose
  rw [Header.parenthesised, hclosed, Option.bind_some]
  simpa [header] using hopen

theorem apply_finalEdits (members : List Text) (closing : Closing) :
    Buffer.apply site.edited (p.finalEdits members closing) =
      site.before ++ (site.header ++ (p.text ++
        (Cases.block p.enumName members closing ++ (site.parts.tail ++ site.after)))) := by
  let change : List Piece := [.kept (site.before ++ site.header ++ p.text),
    .replaced [] (Cases.block p.enumName members closing), .kept (site.parts.tail ++ site.after)]
  have hbefore : textBefore change = site.edited := by
    simp [change, textBefore, Piece.before, edited]
  have hsplices : (p.finalEdits members closing).map (Buffer.spliceOf (textBefore change)) =
      splices 0 change := by
    rw [hbefore]
    simp [finalEdits, Buffer.spliceOf, TextEdit.insertion, site.place_completionAt, change, splices,
      Nat.add_assoc]
  have h := Buffer.apply_of_splices hsplices
  rw [hbefore] at h
  rw [h]
  simp [change, textAfter, Piece.after]

end Proposal.Site

namespace Fix
variable {uri : Uri} {content : Text} {range : Range} {settings : Settings}

theorem exists_site_of_committed (editor : Editor) {name : Text} {members : List Text}
    (h : (editor.converse (addCases uri content range settings).run).1 =
      .ok (.committed name members)) :
    ∃ header, headerOf content range = some header ∧ Text.isIdentifier name = true ∧
      members ≠ [] ∧ ∃ site : Proposal.Site ⟨uri, range.start.line, name, header⟩ content,
        documentAfter uri content
            (editAttempts (editor.converse (addCases uri content range settings).run).2) =
          Buffer.apply site.edited (Proposal.finalEdits ⟨uri, range.start.line, name, header⟩
            members (Closing.ofHeader header content range.start.line)) := by
  obtain ⟨queries, rest, resolved, hevents, hqueries, -, hsequel⟩ :=
    course_addCases (editor.course_converse (addCases uri content range settings).run)
  rw [hevents, editAttempts_append_of_queries hqueries]
  rw [h] at hsequel
  generalize houtcome : (Except.ok (.committed name members) : Except HostError FixOutcome) =
    outcome at hsequel
  cases hsequel with
  | failed e => cases houtcome
  | unresolved => cases houtcome
  | headerless r hheader => cases houtcome
  | proposed r hname header hheader members' hend =>
    -- the final edits refer to the document with the proposal in it
    obtain ⟨site⟩ := nonempty_site uri hheader hname
    obtain ⟨rfl, rfl, rfl⟩ := hend.eq_committed houtcome.symm
    obtain ⟨hne, hdoc⟩ := hend.written content
    rw [site.apply_provisionalEdits] at hdoc
    exact ⟨header, hheader, hname, hne, site, hdoc⟩

/-- A committed fix writes one case per member into the switch, with what its
header lacks, and leaves all the rest of the document as it was. -/
theorem documentAfter_of_committed (editor : Editor) {name : Text} {members : List Text}
    (h : (editor.converse (addCases uri content range settings).run).1 =
      .ok (.committed name members)) :
    ∃ before line after header written first second,
      content = before ++ line ++ after ∧ Text.IsLines range.start.line before ∧
      Text.line? content range.start.line = some line ∧ Header.inspect line = some header ∧
      header.parenthesised line = some written ∧
      Text.splitAtColumn written (header.insertAt + Proposal.shift header.openParenAt +
        Proposal.shift header.closeParenAt) = some (first, second) ∧
      documentAfter uri content
          (editAttempts (editor.converse (addCases uri content range settings).run).2) =
        before ++ first ++ header.punctuation ++
          members.flatMap (Cases.caseOf name) ++
          (Closing.ofHeader header content range.start.line).text ++ second ++ after := by
  obtain ⟨header, -, -, hne, site, hdoc⟩ := exists_site_of_committed editor h
  refine ⟨site.before, site.line, site.after, header, _, site.header, site.parts.tail,
    site.content_eq, site.isLines, site.line_eq, site.header_eq, site.parenthesised_line, ?_, ?_⟩
  · rw [← site.width_header]
    exact Text.splitAtColumn_width _ _
  · rw [hdoc, site.apply_finalEdits]
    have hcases := Cases.template_append_block name
      (Closing.ofHeader header content range.start.line) hne
    simp only [Proposal.text, List.append_assoc] at hcases ⊢
    rw [← List.append_assoc (Cases.template _), hcases]
    simp only [List.append_assoc]

theorem documentAfter_of_committed_colors :
    let editor : Editor := .knowing ⟨1, 7⟩ ⟨default, ⟨⟨0, 11⟩, ⟨0, 12⟩⟩⟩ "Color c".toList
      [⟨"Color".toList, .enum, ⟨⟨0, 0⟩, ⟨0, 10⟩⟩, []⟩] ["Red".toList, "Green".toList]
    let content := "enum Color c;\nswitch c \x7b\x7d\nint n;\n".toList
    let run := editor.converse (addCases default content ⟨⟨1, 0⟩, ⟨1, 8⟩⟩ .standard).run
    run.1 = .ok (.committed "Color".toList ["Red".toList, "Green".toList]) ∧
      ∃ before after, documentAfter default content (editAttempts run.2) =
        before ++ ["Red".toList, "Green".toList].flatMap (Cases.caseOf "Color".toList) ++ after := by
  intro editor content run
  have hrun : run.1 = .ok (.committed "Color".toList ["Red".toList, "Green".toList]) := by
    decide +kernel
  refine ⟨hrun, ?_⟩
  obtain ⟨before, line, after, header, written, first, second, -, -, -, -, -, -, hdoc⟩ :=
    documentAfter_of_committed editor hrun
  refine ⟨before ++ first ++ header.punctuation,
    (Closing.ofHeader header content 1).text ++ second ++ after, ?_⟩
  rw [hdoc]
  simp only [List.append_assoc]

end Fix
end CaseFill
