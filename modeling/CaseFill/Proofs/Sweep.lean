import CaseFill.Proofs.Host.Answers
import CaseFill.Sweep

/-! What a sweep brings home. Every position reports its definitions with the
identifier that stands there. Main statement: a sweep that ends keeps, of all that
the positions up to the cap report, the first report of each range. -/
namespace CaseFill.Sweep

def reportsAt (answers : Answers) (uri : Uri) (content : Text) (p : Position) : List Hit :=
  match answers (.definition uri p) with
  | .ok found => found.map fun location => ⟨location, (Text.wordAt content p).getD []⟩
  | .error _ => []

/-- All that the positions of a range report up to the cap, in the order of the sweep. -/
def reports (answers : Answers) (uri : Uri) (content : Text) (range : Range) (cap : Nat) :
    List Hit :=
  ((positions content range).take cap).flatMap (reportsAt answers uri content)

/-- Add reports to the hits; of one range only the first is taken. -/
def keepFirst (hits more : List Hit) : List Hit :=
  more.foldl (fun hits hit => addHit hit.identifier hits hit.location) hits

section
variable {answers : Answers} {uri : Uri} {content : Text} {range : Range} {cap : Nat}

theorem reportsAt_of_ok {p : Position} {found : List Location}
    (h : answers (.definition uri p) = .ok found) :
    reportsAt answers uri content p =
      found.map fun location => ⟨location, (Text.wordAt content p).getD []⟩ := by
  rw [reportsAt, h]

theorem mem_reportsAt_iff {p : Position} {hit : Hit} :
    hit ∈ reportsAt answers uri content p ↔
      ∃ found : List Location, answers (.definition uri p) = .ok found ∧ hit.location ∈ found ∧
        hit.identifier = (Text.wordAt content p).getD [] := by
  constructor
  · intro hin
    cases h : answers (.definition uri p) with
    | error e =>
      rw [reportsAt, h] at hin
      cases hin
    | ok found =>
      rw [reportsAt_of_ok h] at hin
      obtain ⟨location, hlocation, rfl⟩ := List.mem_map.mp hin
      exact ⟨found, rfl, hlocation, rfl⟩
  · rintro ⟨found, h, hlocation, hidentifier⟩
    rw [reportsAt_of_ok h]
    exact List.mem_map.mpr ⟨hit.location, hlocation, by rw [← hidentifier]⟩

theorem mem_reports_iff {hit : Hit} :
    hit ∈ reports answers uri content range cap ↔
      ∃ p ∈ (positions content range).take cap, ∃ found : List Location,
        answers (.definition uri p) = .ok found ∧ hit.location ∈ found ∧
        hit.identifier = (Text.wordAt content p).getD [] := by
  rw [reports, List.mem_flatMap]
  simp only [mem_reportsAt_iff]

theorem record_eq_keepFirst_map (content : Text) (p : Position) (hits : List Hit)
    (found : List Location) :
    record content p hits found = keepFirst hits
      (found.map fun location => ⟨location, (Text.wordAt content p).getD []⟩) := by
  rw [keepFirst, List.foldl_map]
  rfl

theorem record_eq_keepFirst {p : Position} {found : List Location} (hits : List Hit)
    (h : answers (.definition uri p) = .ok found) :
    record content p hits found = keepFirst hits (reportsAt answers uri content p) := by
  rw [reportsAt_of_ok h, record_eq_keepFirst_map]

theorem keepFirst_cons (hits : List Hit) (first : Hit) (rest : List Hit) :
    keepFirst hits (first :: rest) =
      keepFirst (addHit first.identifier hits first.location) rest := rfl

theorem keepFirst_append (hits first second : List Hit) :
    keepFirst hits (first ++ second) = keepFirst (keepFirst hits first) second :=
  List.foldl_append ..

theorem eq_keepFirst_of_sweepRows {rows : List Row} {hits result : List Hit}
    (h : (sweepRows uri content cap rows hits).outcome answers = .ok result) :
    result = keepFirst hits
      (((rows.flatMap Row.positions).take cap).flatMap (reportsAt answers uri content)) := by
  -- on the cap, of which every position uses one; the rows and the hits change on the way
  induction cap generalizing rows hits with
  | zero =>
    cases h
    simp [keepFirst]
  | succ cap ih =>
    rw [sweepRows] at h
    cases hnext : next? rows with
    | none =>
      rw [hnext] at h
      cases h
      rw [(next?_eq_none_iff rows).mp hnext]
      rfl
    | some next =>
      obtain ⟨p, rest⟩ := next
      rw [hnext] at h
      obtain ⟨found, hfound, hrest⟩ := Inquiry.outcome_bind_eq_ok_iff.mp h
      rw [Inquiry.outcome_query] at hfound
      rw [positions_of_next? hnext, List.take_succ_cons, List.flatMap_cons, keepFirst_append,
        ← record_eq_keepFirst hits hfound]
      exact ih hrest

theorem eq_keepFirst_of_definitions {hits : List Hit}
    (h : (definitions uri content range cap).outcome answers = .ok hits) :
    hits = keepFirst [] (reports answers uri content range cap) :=
  eq_keepFirst_of_sweepRows h

theorem succeeds_sweepRows (reply : (call : Call) → call.Answer) (uri : Uri) (content : Text)
    (cap : Nat) (rows : List Row) (hits : List Hit) :
    Inquiry.Succeeds (answering reply) (sweepRows uri content cap rows hits) := by
  induction cap generalizing rows hits with
  | zero => exact Inquiry.succeeds_pure hits
  | succ cap ih =>
    rw [sweepRows]
    cases next? rows with
    | none => exact Inquiry.succeeds_pure hits
    | some next => exact Inquiry.succeeds_bind (Inquiry.succeeds_query reply _) fun _ => ih _ _

theorem outcome_definitions (reply : (call : Call) → call.Answer) (cap : Nat) :
    (definitions uri content range cap).outcome (answering reply) =
      .ok (keepFirst [] (reports (answering reply) uri content range cap)) := by
  obtain ⟨hits, hhits⟩ := succeeds_sweepRows reply uri content cap (rows content range) []
  rw [← eq_keepFirst_of_definitions hhits]
  exact hhits

end

theorem isKnown_iff {hits : List Hit} {range : Range} :
    isKnown hits range = true ↔ ∃ hit ∈ hits, hit.location.range = range := by
  simp [isKnown]

/-- The hit is among the reports, and none before it has its range. -/
def FirstOfRange (reports : List Hit) (hit : Hit) : Prop :=
  ∃ before after, reports = before ++ hit :: after ∧
    ∀ other ∈ before, other.location.range ≠ hit.location.range

theorem FirstOfRange.mem {reports : List Hit} {hit : Hit} (h : FirstOfRange reports hit) :
    hit ∈ reports := by
  obtain ⟨before, after, rfl, -⟩ := h
  exact List.mem_append_right _ List.mem_cons_self

theorem not_firstOfRange_nil (hit : Hit) : ¬FirstOfRange [] hit := by
  intro h
  cases h.mem

theorem firstOfRange_cons_iff {first hit : Hit} {rest : List Hit} :
    FirstOfRange (first :: rest) hit ↔
      first = hit ∨ first.location.range ≠ hit.location.range ∧ FirstOfRange rest hit := by
  constructor
  · rintro ⟨before, after, hsplit, hbefore⟩
    cases before with
    | nil => exact .inl (List.cons.inj hsplit).1
    | cons _ before =>
      obtain ⟨rfl, hrest⟩ := List.cons.inj hsplit
      obtain ⟨hfirst, hothers⟩ := List.forall_mem_cons.mp hbefore
      exact .inr ⟨hfirst, before, after, hrest, hothers⟩
  · rintro (rfl | ⟨hfirst, before, after, rfl, hothers⟩)
    · exact ⟨[], rest, rfl, by simp⟩
    · exact ⟨first :: before, after, rfl, List.forall_mem_cons.mpr ⟨hfirst, hothers⟩⟩

theorem exists_firstOfRange_of_mem {reports : List Hit} {hit : Hit} (h : hit ∈ reports) :
    ∃ first, FirstOfRange reports first ∧ first.location.range = hit.location.range := by
  induction reports with
  | nil => cases h
  | cons head rest ih =>
    by_cases hrange : head.location.range = hit.location.range
    · exact ⟨head, firstOfRange_cons_iff.mpr (.inl rfl), hrange⟩
    · have hin : hit ∈ rest := by
        rcases List.mem_cons.mp h with rfl | hin
        · exact absurd rfl hrange
        · exact hin
      obtain ⟨first, hfirst, heq⟩ := ih hin
      exact ⟨first, firstOfRange_cons_iff.mpr (.inr ⟨heq ▸ hrange, hfirst⟩), heq⟩

theorem mem_keepFirst_iff {hits more : List Hit} {hit : Hit} :
    hit ∈ keepFirst hits more ↔ hit ∈ hits ∨
      (∀ other ∈ hits, other.location.range ≠ hit.location.range) ∧ FirstOfRange more hit := by
  induction more generalizing hits with
  | nil => simp [keepFirst, not_firstOfRange_nil]
  | cons first rest ih =>
    rw [keepFirst_cons, ih, firstOfRange_cons_iff]
    by_cases hknown : isKnown hits first.location.range = true
    · -- a repetition is passed over, and it hides nothing that its original does not hide
      obtain ⟨known, hmem, hrange⟩ := isKnown_iff.mp hknown
      have hfirst : (∀ other ∈ hits, other.location.range ≠ hit.location.range) →
          first.location.range ≠ hit.location.range := by
        intro hnone
        exact hrange ▸ hnone known hmem
      rw [addHit, if_pos hknown]
      constructor
      · rintro (hin | ⟨hnone, hlater⟩)
        · exact .inl hin
        · exact .inr ⟨hnone, .inr ⟨hfirst hnone, hlater⟩⟩
      · rintro (hin | ⟨hnone, rfl | ⟨-, hlater⟩⟩)
        · exact .inl hin
        · exact absurd rfl (hfirst hnone)
        · exact .inr ⟨hnone, hlater⟩
    · have hnew : ∀ other ∈ hits, other.location.range ≠ first.location.range := by
        intro other hin hrange
        exact hknown (isKnown_iff.mpr ⟨other, hin, hrange⟩)
      have hadd : addHit first.identifier hits first.location = hits ++ [first] := if_neg hknown
      rw [hadd]
      simp only [List.mem_append, List.mem_singleton]
      constructor
      · rintro ((hin | rfl) | ⟨hnone, hlater⟩)
        · exact .inl hin
        · exact .inr ⟨hnew, .inl rfl⟩
        · exact .inr ⟨fun other hin => hnone other (.inl hin), .inr ⟨hnone first (.inr rfl), hlater⟩⟩
      · rintro (hin | ⟨hnone, rfl | ⟨hfirst, hlater⟩⟩)
        · exact .inl (.inl hin)
        · exact .inl (.inr rfl)
        · refine .inr ⟨?_, hlater⟩
          rintro other (hin | rfl)
          · exact hnone other hin
          · exact hfirst

def sameRange (a b : Hit) : Bool := decide (a.location.range = b.location.range)

theorem isKnown_append_singleton (hits : List Hit) (first : Hit) (range : Range) :
    isKnown (hits ++ [first]) range =
      (isKnown hits range || decide (first.location.range = range)) := by
  simp [isKnown]

/-- What is added behind the hits are the reports of new ranges, the first of each. -/
theorem keepFirst_eq_append (hits more : List Hit) :
    keepFirst hits more =
      hits ++ (more.filter fun hit => !isKnown hits hit.location.range).eraseDupsBy sameRange := by
  induction more generalizing hits with
  | nil => simp [keepFirst]
  | cons first rest ih =>
    rw [keepFirst_cons, ih]
    by_cases hknown : isKnown hits first.location.range = true
    · rw [addHit, if_pos hknown, List.filter_cons_of_neg (by simp [hknown])]
    · have hadd : addHit first.identifier hits first.location = hits ++ [first] := if_neg hknown
      have hfilter : (rest.filter fun hit => !isKnown (hits ++ [first]) hit.location.range) =
          (rest.filter fun hit => !isKnown hits hit.location.range).filter
            fun hit => decide (sameRange hit first = false) := by
        rw [List.filter_filter]
        refine List.filter_congr fun hit _ => ?_
        simp [isKnown_append_singleton, sameRange, eq_comm, Bool.and_comm]
      rw [hadd, List.filter_cons_of_pos (by simp [hknown]), List.eraseDupsBy_cons, hfilter,
        List.append_assoc, List.singleton_append]

theorem prefix_keepFirst (hits more : List Hit) : hits <+: keepFirst hits more :=
  ⟨_, (keepFirst_eq_append hits more).symm⟩

theorem mem_keepFirst_nil_iff {reports : List Hit} {hit : Hit} :
    hit ∈ keepFirst [] reports ↔ FirstOfRange reports hit := by
  simp [mem_keepFirst_iff]

end CaseFill.Sweep
