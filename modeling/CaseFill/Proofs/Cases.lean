import CaseFill.Proofs.Fix.Commit

/-! The members that completion labels name, and the lines that are written for them.
Main statement: the members are the trimmed labels that are not empty, each once and in
the order in which they first occur, and the lines of the written cases read back as the
members. -/
namespace CaseFill

namespace Cases

/-- What a label does to the members: nothing if it is blank or known, and else it goes
to their end. -/
theorem addMember_cases (members : List Text) (label : Text) :
    (Text.trim label = [] ∨ Text.trim label ∈ members) ∧ addMember members label = members ∨
      Text.trim label ≠ [] ∧ Text.trim label ∉ members ∧
        addMember members label = members ++ [Text.trim label] := by
  unfold addMember
  by_cases h : Text.trim label = [] ∨ Text.trim label ∈ members
  · exact .inl ⟨h, if_pos (by simpa using h)⟩
  · refine .inr ⟨fun he => h (.inl he), fun hin => h (.inr hin), if_neg (by simpa using h)⟩

theorem mem_addMember {members : List Text} {label m : Text} :
    m ∈ addMember members label ↔ m ∈ members ∨ m ≠ [] ∧ Text.trim label = m := by
  rcases addMember_cases members label with ⟨hskip, heq⟩ | ⟨hne, -, heq⟩
  · rw [heq]
    constructor
    · exact .inl
    · rintro (hin | ⟨hm, rfl⟩)
      · exact hin
      · exact hskip.resolve_left hm
  · rw [heq, List.mem_append, List.mem_singleton]
    constructor
    · rintro (hin | rfl)
      · exact .inl hin
      · exact .inr ⟨hne, rfl⟩
    · rintro (hin | ⟨-, rfl⟩)
      · exact .inl hin
      · exact .inr rfl

theorem nodup_addMember {members : List Text} (h : members.Nodup) (label : Text) :
    (addMember members label).Nodup := by
  rcases addMember_cases members label with ⟨-, heq⟩ | ⟨-, hnew, heq⟩
  · rwa [heq]
  · rw [heq]
    refine List.nodup_append.mpr ⟨h, List.pairwise_singleton _ _, ?_⟩
    intro a ha b hb he
    rw [List.mem_singleton] at hb
    exact hnew (hb ▸ he ▸ ha)

theorem prefix_addMember (members : List Text) (label : Text) :
    members <+: addMember members label := by
  rcases addMember_cases members label with ⟨-, heq⟩ | ⟨-, -, heq⟩
  · exact ⟨[], by rw [heq, List.append_nil]⟩
  · rw [heq]
    exact List.prefix_append ..

theorem mem_foldl_addMember {labels members : List Text} {m : Text} :
    m ∈ labels.foldl addMember members ↔
      m ∈ members ∨ m ≠ [] ∧ ∃ l ∈ labels, Text.trim l = m := by
  induction labels generalizing members with
  | nil => simp
  | cons l rest ih =>
    rw [List.foldl_cons, ih, mem_addMember]
    simp only [List.mem_cons, exists_eq_or_imp]
    tauto

theorem nodup_foldl_addMember {members : List Text} (h : members.Nodup) (labels : List Text) :
    (labels.foldl addMember members).Nodup := by
  induction labels generalizing members with
  | nil => exact h
  | cons l rest ih => exact ih (nodup_addMember h l)

theorem prefix_foldl_addMember (members labels : List Text) :
    members <+: labels.foldl addMember members := by
  induction labels generalizing members with
  | nil => exact List.prefix_rfl
  | cons l rest ih => exact (prefix_addMember members l).trans (ih _)

theorem mem_distinctMembers_iff {labels : List Text} {m : Text} :
    m ∈ distinctMembers labels ↔ m ≠ [] ∧ ∃ l ∈ labels, Text.trim l = m := by
  rw [distinctMembers, mem_foldl_addMember]
  simp

theorem distinctMembers_prefix {first labels : List Text} (h : first <+: labels) :
    distinctMembers first <+: distinctMembers labels := by
  obtain ⟨rest, rfl⟩ := h
  rw [distinctMembers, distinctMembers, List.foldl_append]
  exact prefix_foldl_addMember _ rest

def caseLines (name member : Text) : List Text :=
  ["case ".toList ++ name ++ "::".toList ++ member ++ ":".toList, "break;".toList]

def closingLines : Closing → List Text
  | .nothing => []
  | .lineBreak => [[]]
  | .brace => [['\x7d']]

def memberOf? (name line : Text) : Option Text :=
  let opening := "case ".toList ++ name ++ "::".toList
  let rest := line.drop opening.length
  if opening.isPrefixOf line && rest.getLast? == some ':' then some rest.dropLast else none

theorem memberOf?_eq_some_iff {name line m : Text} :
    memberOf? name line = some m ↔
      line = "case ".toList ++ name ++ "::".toList ++ m ++ ":".toList := by
  have hcolon : ":".toList = [':'] := by decide
  rw [hcolon, memberOf?]
  generalize "case ".toList ++ name ++ "::".toList = opening
  simp only [Option.ite_none_right_eq_some, Bool.and_eq_true, List.isPrefixOf_iff_prefix,
    beq_iff_eq, Option.some.injEq]
  constructor
  · rintro ⟨⟨hopening, hlast⟩, rfl⟩
    rw [List.append_assoc, List.dropLast_append_getLast? ':' hlast]
    exact (List.prefix_iff_eq_append.mp hopening).symm
  · rintro rfl
    rw [List.append_assoc]
    refine ⟨⟨List.prefix_append .., ?_⟩, ?_⟩
    · rw [List.drop_left, List.getLast?_concat]
    · rw [List.drop_left, List.dropLast_concat]

theorem memberOf?_eq_none {name line : Text} (h : line.head? ≠ some 'c') :
    memberOf? name line = none := by
  rw [Option.eq_none_iff_forall_ne_some]
  intro m hm
  rw [memberOf?_eq_some_iff] at hm
  have hcase : "case ".toList = 'c' :: "ase ".toList := by decide
  rw [hm, hcase] at h
  exact h rfl

theorem caseOf_eq_flatMap (name member : Text) :
    caseOf name member = (caseLines name member).flatMap ('\n' :: ·) := by
  have hparts : ∀ lead stop : Text, lead = '\n' :: "case ".toList →
      stop = ":".toList ++ '\n' :: "break;".toList →
      lead ++ name ++ "::".toList ++ member ++ stop =
        (caseLines name member).flatMap ('\n' :: ·) := by
    rintro _ _ rfl rfl
    simp only [caseLines, List.flatMap_cons, List.flatMap_nil, List.append_nil, List.cons_append,
      List.append_assoc]
  exact hparts _ _ (by decide) (by decide +kernel)

theorem closing_text_eq (closing : Closing) :
    closing.text = (closingLines closing).flatMap ('\n' :: ·) := by
  cases closing with
  | nothing => rfl
  | lineBreak => rfl
  | brace => rfl

theorem newline_notMem_caseLines {name m : Text} (hname : '\n' ∉ name) (hm : '\n' ∉ m) :
    ∀ l ∈ caseLines name m, '\n' ∉ l := by
  have hcase : '\n' ∉ "case ".toList := by decide
  have hscope : '\n' ∉ "::".toList := by decide
  have hcolon : '\n' ∉ ":".toList := by decide
  have hbreak : '\n' ∉ "break;".toList := by decide
  intro l hl
  rcases List.mem_pair.mp hl with rfl | rfl
  · simp only [List.mem_append, not_or]
    exact ⟨⟨⟨⟨hcase, hname⟩, hscope⟩, hm⟩, hcolon⟩
  · exact hbreak

theorem newline_notMem_closingLines (closing : Closing) : ∀ l ∈ closingLines closing, '\n' ∉ l := by
  cases closing <;> decide

/-- Lines that each follow a line feed are what stands between the line feeds. -/
theorem splitOn_lines (first : Text) {lines : List Text} (hfirst : '\n' ∉ first)
    (h : ∀ l ∈ lines, '\n' ∉ l) :
    (first ++ lines.flatMap ('\n' :: ·)).splitOn '\n' = first :: lines := by
  induction lines generalizing first with
  | nil => simpa using List.splitOn_eq_singleton hfirst
  | cons l rest ih =>
    obtain ⟨hl, hrest⟩ := List.forall_mem_cons.mp h
    rw [List.flatMap_cons, List.cons_append, List.splitOn_append_cons_self_of_not_mem hfirst,
      ih l hl hrest]

theorem splitOn_cases {name : Text} {members : List Text} (hname : '\n' ∉ name)
    (hmembers : ∀ m ∈ members, '\n' ∉ m) (hne : members ≠ []) (closing : Closing) :
    (template name ++ block name members closing).splitOn '\n' =
      [] :: (members.flatMap (caseLines name) ++ closingLines closing) := by
  have hlines : template name ++ block name members closing =
      [] ++ (members.flatMap (caseLines name) ++ closingLines closing).flatMap ('\n' :: ·) := by
    have hcase : caseOf name = fun m => (caseLines name m).flatMap ('\n' :: ·) :=
      funext (caseOf_eq_flatMap name)
    rw [template_append_block name closing hne, List.nil_append, List.flatMap_append,
      List.flatMap_assoc, ← closing_text_eq, hcase]
  rw [hlines]
  refine splitOn_lines [] (by simp) ?_
  intro l hl
  rcases List.mem_append.mp hl with hl | hl
  · obtain ⟨m, hm, hl⟩ := List.mem_flatMap.mp hl
    exact newline_notMem_caseLines hname (hmembers m hm) l hl
  · exact newline_notMem_closingLines closing l hl

/-- Every line of the form of a case is followed by the line that leaves the switch. -/
def BreaksFollow (name : Text) (lines : List Text) : Prop :=
  ∀ before line after m, lines = before ++ line :: after → memberOf? name line = some m →
    after.head? = some "break;".toList

theorem BreaksFollow.cons {name line : Text} {lines : List Text} (h : BreaksFollow name lines)
    (hline : memberOf? name line = none ∨ lines.head? = some "break;".toList) :
    BreaksFollow name (line :: lines) := by
  intro before l after m hsplit hm
  cases before with
  | nil =>
    obtain ⟨rfl, rfl⟩ := List.cons.inj hsplit
    rcases hline with hnone | hbreak
    · rw [hnone] at hm
      cases hm
    · exact hbreak
  | cons _ before =>
    obtain ⟨-, hrest⟩ := List.cons.inj hsplit
    exact h before l after m hrest hm

section
variable (name : Text)

theorem memberOf?_break : memberOf? name "break;".toList = none := memberOf?_eq_none (by decide)

theorem memberOf?_closingLines (closing : Closing) :
    ∀ l ∈ closingLines closing, memberOf? name l = none := by
  have hhead : ∀ l ∈ closingLines closing, l.head? ≠ some 'c' := by cases closing <;> decide
  exact fun l hl => memberOf?_eq_none (hhead l hl)

theorem filterMap_cases (members : List Text) (closing : Closing) :
    (members.flatMap (caseLines name) ++ closingLines closing).filterMap (memberOf? name) =
      members := by
  induction members with
  | nil => simpa using memberOf?_closingLines name closing
  | cons m rest ih =>
    have hm : memberOf? name ("case ".toList ++ name ++ "::".toList ++ m ++ ":".toList) = some m :=
      memberOf?_eq_some_iff.mpr rfl
    rw [List.flatMap_cons, caseLines, List.append_assoc, List.cons_append, List.cons_append,
      List.filterMap_cons_some hm, List.filterMap_cons_none (memberOf?_break name),
      List.nil_append, ih]

theorem breaksFollow_cases (members : List Text) (closing : Closing) :
    BreaksFollow name (members.flatMap (caseLines name) ++ closingLines closing) := by
  induction members with
  | nil =>
    intro before line after m hsplit hm
    have hin : line ∈ closingLines closing := by
      rw [List.flatMap_nil, List.nil_append] at hsplit
      simp [hsplit]
    rw [memberOf?_closingLines name closing line hin] at hm
    cases hm
  | cons m rest ih =>
    rw [List.flatMap_cons, caseLines, List.append_assoc, List.cons_append, List.cons_append]
    exact (ih.cons (.inl (memberOf?_break name))).cons (.inr rfl)

end

/-- The members are the trimmed labels that are not empty, each once, and more labels
only put more members behind them. The provisional label with the text that goes after
it has a case line and a break for each member, in order, and no other case line. -/
theorem cases_of_labels (labels : List Text) :
    (distinctMembers labels).Nodup ∧
      (∀ m ∈ distinctMembers labels, m ≠ [] ∧ Text.trim m = m) ∧
      (∀ m, m ∈ distinctMembers labels ↔ m ≠ [] ∧ ∃ l ∈ labels, Text.trim l = m) ∧
      (∀ first, first <+: labels → distinctMembers first <+: distinctMembers labels) ∧
      ∀ name closing, Text.isIdentifier name = true → (∀ l ∈ labels, '\n' ∉ l) →
        distinctMembers labels ≠ [] →
        let lines := (template name ++ block name (distinctMembers labels) closing).splitOn '\n'
        lines.filterMap (memberOf? name) = distinctMembers labels ∧ BreaksFollow name lines := by
  refine ⟨nodup_foldl_addMember List.Pairwise.nil labels, ?_, fun m => mem_distinctMembers_iff,
    fun first => distinctMembers_prefix, ?_⟩
  · intro m hm
    obtain ⟨hne, l, -, rfl⟩ := mem_distinctMembers_iff.mp hm
    exact ⟨hne, Text.trim_trim l⟩
  · intro name closing hname hlabels hne lines
    have hmembers : ∀ m ∈ distinctMembers labels, '\n' ∉ m := by
      intro m hm hin
      obtain ⟨-, l, hl, rfl⟩ := mem_distinctMembers_iff.mp hm
      exact hlabels l hl (Text.mem_of_mem_trim hin)
    have hlines : lines = _ :=
      splitOn_cases (Text.newline_notMem_of_isIdentifier hname) hmembers hne closing
    have hempty : memberOf? name [] = none := memberOf?_eq_none (by decide)
    rw [hlines]
    refine ⟨?_, (breaksFollow_cases name _ closing).cons (.inl hempty)⟩
    rw [List.filterMap_cons_none hempty, filterMap_cases]

/-- A repeated label and labels with blanks around them: each member has its case once. -/
theorem cases_of_labels_repeated :
    let labels := [" Red".toList, "Green".toList, "Red ".toList, " ".toList]
    Text.isIdentifier "Color".toList = true ∧ (∀ l ∈ labels, '\n' ∉ l) ∧
      distinctMembers labels = ["Red".toList, "Green".toList] ∧
      ((template "Color".toList ++
          block "Color".toList (distinctMembers labels) .brace).splitOn '\n').filterMap
        (memberOf? "Color".toList) = distinctMembers labels := by
  intro labels
  have hname : Text.isIdentifier "Color".toList = true := by decide +kernel
  have hlabels : ∀ l ∈ labels, '\n' ∉ l := by decide +kernel
  have hmembers : distinctMembers labels = ["Red".toList, "Green".toList] := by decide +kernel
  have hne : distinctMembers labels ≠ [] := by
    rw [hmembers]
    exact List.cons_ne_nil _ _
  obtain ⟨-, -, -, -, hwritten⟩ := cases_of_labels labels
  exact ⟨hname, hlabels, hmembers, (hwritten "Color".toList .brace hname hlabels hne).1⟩

end Cases
end CaseFill
