import CaseFill.Proofs.Sweep

/-! The course of a sweep. Main statement: whatever the editor answers, a sweep asks for
definitions at the positions of its range, in order and each once, up to the cap. It ends
early only with a failure, right behind the question that failed. Otherwise its hits are
the reports of all positions, the first of each range. -/
namespace CaseFill

def Event.definition (uri : Uri) (p : Position) (answer : Except HostError (List Location)) :
    Event := ⟨.definition uri p, answer⟩

def Position.Before (p q : Position) : Prop :=
  p.line < q.line ∨ p.line = q.line ∧ p.column < q.column

namespace Sweep
variable {content : Text} {range : Range}

/-- The position lies in the range, on a line that the document has. The first line counts
from the start of the range and the last one up to its end, whatever their lengths are. -/
def Covers (content : Text) (range : Range) (p : Position) : Prop :=
  ∃ text, Text.line? content p.line = some text ∧
    range.start.line ≤ p.line ∧ p.line ≤ range.stop.line ∧
    (p.line = range.start.line → range.start.column ≤ p.column) ∧
    p.column ≤ if p.line = range.stop.line then range.stop.column else Text.width text

theorem mem_positions_row {r : Row} {p : Position} :
    p ∈ r.positions ↔ p.line = r.line ∧ r.first ≤ p.column ∧ p.column < r.first + r.count := by
  rw [Row.positions, List.mem_map]
  constructor
  · rintro ⟨column, hcolumn, rfl⟩
    exact ⟨rfl, List.mem_range'_1.mp hcolumn⟩
  · rintro ⟨hline, hcolumn⟩
    exact ⟨p.column, List.mem_range'_1.mpr hcolumn, by rw [← hline]⟩

theorem mem_rows_iff {r : Row} :
    r ∈ rows content range ↔ ∃ line text, Text.line? content line = some text ∧
      range.start.line ≤ line ∧ line ≤ range.stop.line ∧ r = rowOf range line text := by
  have hget : ∀ i, (((Text.lines content).drop range.start.line).take
      (range.stop.line + 1 - range.start.line))[i]? =
        if i < range.stop.line + 1 - range.start.line then
          Text.line? content (range.start.line + i) else none := by
    intro i
    rw [List.getElem?_take, List.getElem?_drop, Text.line?]
  simp only [rows, List.mem_map, Prod.exists, List.mk_mem_zipIdx_iff_getElem?, hget,
    Option.ite_none_right_eq_some]
  constructor
  · rintro ⟨text, i, ⟨hlt, htext⟩, rfl⟩
    exact ⟨range.start.line + i, text, htext, by omega, by omega, rfl⟩
  · rintro ⟨line, text, htext, hstart, hstop, rfl⟩
    have hline : range.start.line + (line - range.start.line) = line := by omega
    exact ⟨text, line - range.start.line, ⟨by omega, by rw [hline, htext]⟩, by rw [hline]⟩

theorem mem_positions_rowOf {line : Nat} {text : Text} {p : Position} :
    p ∈ (rowOf range line text).positions ↔
      p.line = line ∧ (line = range.start.line → range.start.column ≤ p.column) ∧
        p.column ≤ if line = range.stop.line then range.stop.column else Text.width text := by
  rw [mem_positions_row]
  simp only [rowOf]
  generalize (if line = range.stop.line then range.stop.column else Text.width text) = last
  split <;> omega

theorem mem_positions_iff {p : Position} :
    p ∈ positions content range ↔ Covers content range p := by
  simp only [positions, List.mem_flatMap, mem_rows_iff, Covers]
  constructor
  · rintro ⟨r, ⟨line, text, htext, hstart, hstop, rfl⟩, hp⟩
    obtain ⟨rfl, hcolumns⟩ := mem_positions_rowOf.mp hp
    exact ⟨text, htext, hstart, hstop, hcolumns⟩
  · rintro ⟨text, htext, hstart, hstop, hcolumns⟩
    exact ⟨_, ⟨p.line, text, htext, hstart, hstop, rfl⟩,
      mem_positions_rowOf.mpr ⟨rfl, hcolumns⟩⟩

theorem pairwise_rows (content : Text) (range : Range) :
    (rows content range).Pairwise fun a b => a.line < b.line := by
  rw [rows, List.pairwise_map]
  generalize ((Text.lines content).drop range.start.line).take
    (range.stop.line + 1 - range.start.line) = covered
  have hnumbers : (covered.zipIdx.map Prod.snd).Pairwise (· < ·) := by
    rw [List.zipIdx_map_snd]
    exact List.pairwise_lt_range' 1
  refine (List.pairwise_map.mp hnumbers).imp ?_
  intro a b hab
  exact Nat.add_lt_add_left hab _

theorem pairwise_positions_row (r : Row) : r.positions.Pairwise Position.Before := by
  rw [Row.positions, List.pairwise_map]
  refine (List.pairwise_lt_range' 1).imp ?_
  intro a b hab
  exact .inr ⟨rfl, hab⟩

theorem pairwise_positions (content : Text) (range : Range) :
    (positions content range).Pairwise Position.Before := by
  rw [positions, List.pairwise_flatMap]
  refine ⟨fun r _ => pairwise_positions_row r, (pairwise_rows content range).imp ?_⟩
  intro a b hab p hp q hq
  have hpline := (mem_positions_row.mp hp).1
  have hqline := (mem_positions_row.mp hq).1
  exact .inl (by omega)

def reported (content : Text) (q : Position × List Location) : List Hit :=
  q.2.map fun location => ⟨location, (Text.wordAt content q.1).getD []⟩

def answered (uri : Uri) (q : Position × List Location) : Event :=
  .definition uri q.1 (.ok q.2)

inductive Pass (uri : Uri) (content : Text) (hits : List Hit) (swept : List Position) :
    List Event → Except HostError (List Hit) → Prop where
  | ended (found : List (Position × List Location)) (hswept : found.map Prod.fst = swept) :
    Pass uri content hits swept (found.map (answered uri))
      (.ok (keepFirst hits (found.flatMap (reported content))))
  | failed (found : List (Position × List Location)) (p : Position) (rest : List Position)
      (hswept : swept = found.map Prod.fst ++ p :: rest) (e : HostError) :
    Pass uri content hits swept
      (found.map (answered uri) ++ [.definition uri p (.error e)]) (.error e)

variable {uri : Uri} {hits : List Hit} {p : Position} {swept : List Position}
  {events : List Event} {r : Except HostError (List Hit)}

theorem Pass.cons {found : List Location}
    (h : Pass uri content (record content p hits found) swept events r) :
    Pass uri content hits (p :: swept) (.definition uri p (.ok found) :: events) r := by
  cases h with
  | ended others hswept =>
    have hkept : keepFirst (record content p hits found) (others.flatMap (reported content)) =
        keepFirst hits (((p, found) :: others).flatMap (reported content)) := by
      rw [List.flatMap_cons, keepFirst_append, record_eq_keepFirst_map, reported]
    rw [hkept]
    exact .ended ((p, found) :: others) (by rw [List.map_cons, hswept])
  | failed others q rest hswept e =>
    exact .failed ((p, found) :: others) q rest (by rw [hswept, List.map_cons, List.cons_append]) e

theorem pass_of_course {cap : Nat} {rows : List Row}
    (h : Dialogue.Course (sweepRows uri content cap rows hits).run events r) :
    Pass uri content hits ((rows.flatMap Row.positions).take cap) events r := by
  -- on the cap, of which every question uses one
  induction cap generalizing rows hits events with
  | zero =>
    obtain ⟨rfl, rfl⟩ := h
    exact .ended [] rfl
  | succ cap ih =>
    rw [sweepRows] at h
    cases hnext : next? rows with
    | none =>
      rw [hnext] at h
      obtain ⟨rfl, rfl⟩ := h
      rw [(next?_eq_none_iff rows).mp hnext]
      exact .ended [] rfl
    | some next =>
      obtain ⟨p, rest⟩ := next
      rw [hnext] at h
      rw [positions_of_next? hnext, List.take_succ_cons]
      rcases Inquiry.course_bind_iff.mp h with ⟨e, he, rfl⟩ | ⟨found, first, second, rfl, hq, hr⟩
      · obtain rfl := Inquiry.course_query.mp he
        exact .failed [] p _ rfl e
      · obtain rfl := Inquiry.course_query.mp hq
        exact (ih hr).cons

theorem nodup_keepFirst {hits : List Hit} (h : (hits.map fun hit => hit.location.range).Nodup)
    (more : List Hit) : ((keepFirst hits more).map fun hit => hit.location.range).Nodup := by
  induction more generalizing hits with
  | nil => exact h
  | cons first rest ih =>
    rw [keepFirst_cons]
    refine ih ?_
    by_cases hknown : isKnown hits first.location.range = true
    · rwa [addHit, if_pos hknown]
    · have hnew : first.location.range ∉ hits.map fun hit => hit.location.range := by
        intro hin
        obtain ⟨other, hother, hrange⟩ := List.mem_map.mp hin
        exact hknown (isKnown_iff.mpr ⟨other, hother, hrange⟩)
      rw [addHit, if_neg hknown, List.map_append, List.map_singleton]
      exact List.nodup_append.mpr ⟨h, List.pairwise_singleton _ _, fun a ha b hb hab =>
        hnew (List.mem_singleton.mp hb ▸ hab ▸ ha)⟩

/-- A sweep asks at the positions of its range in the order of the document, each once and
no more than the cap allows. It ends early only behind the first question that failed, and
with that failure. If none fails, the hits are all that the positions reported, each with
the identifier there, and of one range only the first. -/
theorem converse_definitions (editor : Editor) (uri : Uri) (content : Text) (range : Range)
    (cap : Nat) :
    let swept := (positions content range).take cap
    let run := editor.converse (definitions uri content range cap).run
    (∀ p, p ∈ positions content range ↔ Covers content range p) ∧
    (positions content range).Pairwise Position.Before ∧
    ((∃ found : List (Position × List Location), found.map Prod.fst = swept ∧
        run.2 = found.map (answered uri) ∧
        ∃ hits, run.1 = .ok hits ∧
          hits = (found.flatMap (reported content)).eraseDupsBy sameRange ∧
          (hits.map fun hit => hit.location.range).Nodup) ∨
      ∃ (found : List (Position × List Location)) (p : Position) (rest : List Position)
        (e : HostError), swept = found.map Prod.fst ++ p :: rest ∧
        run.2 = found.map (answered uri) ++ [.definition uri p (.error e)] ∧
        run.1 = .error e) := by
  intro swept run
  refine ⟨fun p => mem_positions_iff, pairwise_positions content range, ?_⟩
  have hpass : Pass uri content [] swept run.2 run.1 :=
    pass_of_course (editor.course_converse (definitions uri content range cap).run)
  generalize run.2 = events, run.1 = result at hpass
  cases hpass with
  | ended found hswept =>
    refine .inl ⟨found, hswept, rfl, _, rfl, ?_, nodup_keepFirst (by simp) _⟩
    have hnew : ∀ hit : Hit, (!isKnown [] hit.location.range) = true := fun _ => rfl
    rw [keepFirst_eq_append, List.nil_append, List.filter_eq_self.mpr fun hit _ => hnew hit]
  | failed found p rest hswept e => exact .inr ⟨found, p, rest, e, hswept, rfl, rfl⟩

end Sweep
end CaseFill
