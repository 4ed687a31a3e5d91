import CaseFill.Proofs.Header
import CaseFill.Proofs.Hover.Block
import CaseFill.Proofs.Text.Slice

/-! Headers and hovers read by byte offsets. The offsets are sums of match offsets, lengths of
words and of trimmed texts, and widths of punctuation. Main statement: each of them is a
boundary of the text that is cut there, so no reading fails, and the readings have the results
of the readings by places. -/
namespace CaseFill

namespace Text
variable {t : Text}

def findByte (needle t : Text) : Option Nat := (find? needle t).map (offset t)

def lastPlace? (p : Text → Bool) : Text → Option Nat
  | [] => none
  | c :: cs =>
    match lastPlace? p cs with
    | some i => some (i + 1)
    | none => if p (c :: cs) then some 0 else none

def lastScopeByte (t : Text) : Option Nat :=
  (lastPlace? ([':', ':'].isPrefixOf ·) t).map (offset t)

def lastBlankByte (t : Text) : Option Nat :=
  (lastPlace? (·.head?.any isBlank) t).map (offset t)

theorem lastPlace?_holds {p : Text → Bool} {i : Nat} (h : lastPlace? p t = some i) :
    p (t.drop i) = true := by
  induction t generalizing i with
  | nil => cases h
  | cons c cs ih =>
    rw [lastPlace?] at h
    cases hrest : lastPlace? p cs with
    | some j =>
      rw [hrest] at h
      cases h
      exact ih hrest
    | none =>
      simp only [hrest, Option.ite_none_right_eq_some] at h
      obtain ⟨hp, hi⟩ := h
      cases hi
      exact hp

theorem afterLastScope?_eq_map (t : Text) :
    afterLastScope? t = (lastPlace? ([':', ':'].isPrefixOf ·) t).map fun i => t.drop (i + 2) := by
  induction t with
  | nil => rfl
  | cons c cs ih =>
    have hscope : [':', ':'].isPrefixOf (c :: cs) = true ↔ c = ':' ∧ cs.head? = some ':' := by
      rw [List.isPrefixOf_iff_prefix, scope_prefix_cons_iff]
    rw [afterLastScope?, lastPlace?, ih]
    cases lastPlace? ([':', ':'].isPrefixOf ·) cs with
    | some i => rfl
    | none =>
      simp only [Option.map_none, hscope]
      split <;> simp

end Text

open Text (Sliced byteSize offset findByte sliceTo sliceFrom columnSliced)

namespace Header

def openParenSliced (line : Text) (afterKeyword : Nat) : Sliced (Option Nat) := do
  let rest ← sliceFrom line afterKeyword
  if rest.contains '(' then return none
  else
    -- the width of the blanks is known only as a difference of two lengths
    let spaces := byteSize rest - byteSize (Text.trimStart rest)
    some <$> columnSliced line (afterKeyword + spaces)

def closeParenSliced (line : Text) (brace : Option Nat) (isMissing : Bool)
    (openParenAt : Option Nat) : Sliced (Option Nat) :=
  match brace with
  | some b =>
    if isMissing then do
      let condition := Text.trimEnd (← sliceTo line b)
      return some (atLeast openParenAt (← columnSliced line (byteSize condition)))
    else return none
  | none => return none

def endCurlySliced (line : Text) (brace : Option Nat) : Sliced (Option Nat) :=
  match brace with
  | some b => do
    -- the body begins behind the brace, which is one byte wide
    match findByte ['\x7d'] (← sliceFrom line (b + 1)) with
    | some close => some <$> columnSliced line (b + 1 + close)
    | none => return none
  | none => return none

def inspectSliced (line : Text) : Sliced (Option Header) := do
  match ← Text.findWordSliced switchKeyword line with
  | none => return none
  | some keyword =>
    let tail ← sliceFrom line keyword
    let openParenAt ← openParenSliced line (keyword + byteSize switchKeyword)
    let needsCloseParen := !tail.contains ')'
    let brace := (findByte ['\x7b'] tail).map (keyword + ·)
    let closeParenAt ← closeParenSliced line brace needsCloseParen openParenAt
    let endCurlyAt ← endCurlySliced line brace
    return some {
      openParenAt := openParenAt
      needsCloseParen := needsCloseParen
      closeParenAt := closeParenAt
      needsOpenBrace := brace.isNone
      endCurlyAt := endCurlyAt
      insertAt := endCurlyAt.getD (Text.width line) }

theorem openParenSliced_offset (line : Text) (i : Nat) :
    openParenSliced line (offset line i) =
      .ok (if (line.drop i).contains '(' then none
        else some (columnOf line (i + ((line.drop i).takeWhile Text.isBlank).length))) := by
  have hblanks : byteSize (line.drop i) - byteSize (Text.trimStart (line.drop i)) =
      byteSize ((line.drop i).takeWhile Text.isBlank) := by
    have hsize := congrArg byteSize
      (List.takeWhile_append_dropWhile (p := Text.isBlank) (l := line.drop i))
    rw [Text.byteSize_append] at hsize
    rw [Text.trimStart]
    omega
  rw [openParenSliced, Text.sliceFrom_offset, Text.ok_bind]
  split
  · rfl
  · dsimp only
    rw [hblanks, Text.offset_add_byteSize (List.takeWhile_prefix _), Text.columnSliced_offset]
    rfl

theorem closeParenSliced_map (line : Text) (brace : Option Nat) (isMissing : Bool)
    (openParenAt : Option Nat) :
    closeParenSliced line (brace.map (offset line)) isMissing openParenAt =
      .ok (brace.bind fun b =>
        if isMissing then some (atLeast openParenAt (Text.width (Text.trimEnd (line.take b))))
        else none) := by
  cases brace with
  | none => rfl
  | some b =>
    have hprefix : Text.trimEnd (line.take b) <+: line :=
      (Text.trimEnd_prefix _).trans (List.take_prefix b line)
    cases isMissing with
    | false => rfl
    | true => simp [closeParenSliced, Text.columnSliced_of_prefix hprefix]

theorem map_findByte_drop (c : Char) (line : Text) (i : Nat) :
    (findByte [c] (line.drop i)).map (offset line i + ·) = (findFrom c line i).map (offset line) := by
  rw [findByte, findFrom, Option.map_map, Option.map_map]
  congr 1
  funext j
  exact (Text.offset_add line i j).symm

theorem endCurlySliced_map {t : Text} {brace : Option Nat} (h : ∀ b ∈ brace, t[b]? = some '\x7b') :
    endCurlySliced t (brace.map (offset t)) =
      .ok (brace.bind fun b => (findFrom '\x7d' t (b + 1)).map (columnOf t)) := by
  cases brace with
  | none => rfl
  | some b =>
    have hnext := Text.offset_succ (by decide) (h b rfl)
    have hclose := map_findByte_drop '\x7d' t (b + 1)
    rw [Option.map_some, endCurlySliced, hnext, Text.sliceFrom_offset, Text.ok_bind,
      Option.bind_some]
    cases hfind : findByte ['\x7d'] (t.drop (b + 1)) with
    | none =>
      rw [hfind, Option.map_none, eq_comm, Option.map_eq_none_iff] at hclose
      rw [hclose]
      rfl
    | some close =>
      rw [hfind, Option.map_some, eq_comm, Option.map_eq_some_iff] at hclose
      obtain ⟨j, hj, hoffset⟩ := hclose
      simp only [← hoffset, hj, Text.columnSliced_offset, Text.map_ok, Option.map_some, columnOf]

theorem inspectSliced_eq (line : Text) : inspectSliced line = .ok (inspect line) := by
  rw [inspectSliced, Text.findWordSliced_eq, Text.ok_bind, Text.findWordByte_eq_map]
  cases hk : Text.findWord switchKeyword line with
  | none => simp [inspect, hk]
  | some keyword =>
    have hrest := Text.offset_add_byteSize (Text.prefix_of_findWord hk)
    have hbrace := map_findByte_drop '\x7b' line keyword
    have hend : endCurlySliced line ((findFrom '\x7b' line keyword).map (offset line)) = _ :=
      endCurlySliced_map fun b hb => (le_of_findFrom hb).2
    simp only [Option.map_some, Text.sliceFrom_offset, Text.ok_bind, hrest,
      openParenSliced_offset, hbrace, closeParenSliced_map, hend, Text.pure_eq_ok]
    cases hb : findFrom '\x7b' line keyword with
    | none => simp [inspect, hk, hb]
    | some b =>
      have hclose : ((findFrom '\x7d' line (b + 1)).bind fun close => some (columnOf line close)) =
          (findFrom '\x7d' line (b + 1)).map (columnOf line) := Option.map_eq_bind.symm
      simp [inspect, hk, hb, hclose]

end Header

namespace Hover

def afterFirstLineSliced (t : Text) : Sliced Text :=
  match findByte ['\n'] t with
  | some feed => sliceFrom t (feed + 1)
  | none => return []

def beforeFenceSliced (t : Text) : Sliced Text :=
  match findByte fence t with
  | some stop => sliceTo t stop
  | none => return t

def signatureSliced (hover : Text) : Sliced Text :=
  match findByte fence hover with
  | some start => do
    -- three backticks are three bytes
    let code ← afterFirstLineSliced (← sliceFrom hover (start + 3))
    return codeLine (← beforeFenceSliced code)
  | none => return codeLine (hover.filter (· ≠ '\x60'))

def lastSegmentSliced (name : Text) : Sliced Text :=
  match Text.lastScopeByte name with
  | some scope => sliceFrom name (scope + 2)
  | none => return name

def specifierSliced (t : Text) : Sliced Specifier :=
  match (typeTokens t).getLast? with
  | none => return .absent
  | some token => do
    let name := Text.trim (← lastSegmentSliced token)
    return if Text.isIdentifier name then .named name else .unreadable

def typePartSliced (before : Text) (isClean : Bool) : Sliced (Option Text) :=
  if isClean then return some before
  else
    match Text.lastBlankByte before with
    | some blank => some <$> sliceTo before blank
    | none => return none

def typeBeforeSliced (before identifier : Text) : Sliced (Option Text) := do
  let isClean := before.getLast?.any Text.isBlank
  match ← typePartSliced before isClean with
  | none => return none
  | some typePart =>
    match ← specifierSliced typePart with
    | .absent => return if isClean && Text.isIdentifier identifier then some identifier else none
    | .named name => return some name
    | .unreadable => return none

def typeNameSliced (hover identifier : Text) : Sliced (Option Text) :=
  if identifier = [] then return none
  else do
    let shown ← signatureSliced hover
    match ← Text.findWordSliced identifier shown with
    | none => return none
    | some place =>
      if place = 0 then return none
      else typeBeforeSliced (← sliceTo shown place) identifier

theorem afterFirstLineSliced_eq (t : Text) : afterFirstLineSliced t = .ok (afterFirstLine t) := by
  rw [afterFirstLineSliced, findByte]
  cases hfeed : Text.find? ['\n'] t with
  | none =>
    have hnot := Text.find?_singleton_eq_none_iff.mp hfeed
    have hrest : t.dropWhile (fun c => decide (c ≠ '\n')) = [] := by
      rw [List.dropWhile_eq_nil_iff]
      intro c hc
      exact decide_eq_true fun he => hnot (he ▸ hc)
    rw [afterFirstLine, hrest]
    rfl
  | some i =>
    have hnext := Text.offset_succ (by decide) (Text.getElem?_of_find?_singleton hfeed)
    obtain ⟨line, rest, rfl, hline, rfl⟩ := Text.find?_singleton_eq_some_iff.mp hfeed
    rw [Option.map_some]
    dsimp only
    rw [hnext, Text.sliceFrom_offset, afterFirstLine_of_cut hline]
    simp

theorem beforeFenceSliced_eq (t : Text) : beforeFenceSliced t = .ok (beforeFence t) := by
  rw [beforeFenceSliced, beforeFence, findByte]
  cases Text.find? fence t with
  | none => rfl
  | some i => exact Text.sliceTo_offset t i

theorem signatureSliced_eq (hover : Text) : signatureSliced hover = .ok (signature hover) := by
  rw [signatureSliced, signature, declaration, findByte]
  cases hfence : Text.find? fence hover with
  | none => rfl
  | some i =>
    have hnext : offset hover i + 3 = offset hover (i + 3) :=
      Text.offset_add_byteSize (Text.prefix_of_find? hfence)
    simp only [Option.map_some, hnext, Text.sliceFrom_offset, Text.ok_bind,
      afterFirstLineSliced_eq, beforeFenceSliced_eq, Text.pure_eq_ok]

theorem isBlank_of_mem_typeToken {t token : Text} {c : Char} (h : token ∈ typeTokens t)
    (hc : c ∈ token) : Text.isBlank c = false := by
  obtain ⟨whole, hwhole, rfl⟩ := List.mem_map.mp (List.mem_of_mem_filter h)
  obtain ⟨left, right, hsplit, -, -⟩ := Text.exists_stripBoth (p := isSigil) whole
  refine Text.not_of_mem_piece (List.mem_of_mem_filter hwhole) ?_
  rw [hsplit]
  simp [hc]

theorem lastSegmentSliced_eq (name : Text) :
    lastSegmentSliced name = .ok (Text.lastSegment name) := by
  rw [lastSegmentSliced, Text.lastScopeByte, Text.lastSegment, Text.afterLastScope?_eq_map]
  cases hscope : Text.lastPlace? ([':', ':'].isPrefixOf ·) name with
  | none => rfl
  | some i =>
    have hprefix := List.isPrefixOf_iff_prefix.mp (Text.lastPlace?_holds hscope)
    have hnext : offset name i + 2 = offset name (i + 2) := Text.offset_add_byteSize hprefix
    simp only [Option.map_some, hnext, Text.sliceFrom_offset, Option.getD_some]

theorem specifierSliced_eq (t : Text) : specifierSliced t = .ok (specifier t) := by
  rw [specifierSliced, specifier]
  cases hlast : (typeTokens t).getLast? with
  | none => rfl
  | some token =>
    -- the segment is trimmed here, but a token has no blanks
    have htrim : Text.trim (Text.lastSegment token) = Text.lastSegment token := by
      refine Text.trim_eq_self ?_
      intro c hc
      exact isBlank_of_mem_typeToken (List.mem_of_getLast? hlast)
        ((Text.lastSegment_suffix token).subset hc)
    simp only [lastSegmentSliced_eq, Text.ok_bind, htrim, Text.pure_eq_ok]

theorem beforeLastBlank?_cons (c : Char) (cs : Text) :
    beforeLastBlank? (c :: cs) =
      match beforeLastBlank? cs with
      | some front => some (c :: front)
      | none => if Text.isBlank c then some [] else none := by
  rw [beforeLastBlank?, beforeLastBlank?, List.reverse_cons, List.dropWhile_append]
  cases hrest : cs.reverse.dropWhile (!Text.isBlank ·) with
  | nil => cases hc : Text.isBlank c <;> simp [hc]
  | cons b front => simp

theorem beforeLastBlank?_eq_map (t : Text) :
    beforeLastBlank? t = (Text.lastPlace? (·.head?.any Text.isBlank) t).map (t.take ·) := by
  induction t with
  | nil => rfl
  | cons c cs ih =>
    rw [beforeLastBlank?_cons, Text.lastPlace?, ih]
    cases Text.lastPlace? (·.head?.any Text.isBlank) cs with
    | some i => rfl
    | none => cases hc : Text.isBlank c <;> simp [hc]

theorem typePartSliced_eq (before : Text) (isClean : Bool) :
    typePartSliced before isClean =
      .ok (if isClean then some before else beforeLastBlank? before) := by
  rw [typePartSliced, beforeLastBlank?_eq_map, Text.lastBlankByte]
  cases isClean with
  | true => rfl
  | false =>
    cases Text.lastPlace? (·.head?.any Text.isBlank) before with
    | none => rfl
    | some i => simp

theorem typeBeforeSliced_eq (before identifier : Text) :
    typeBeforeSliced before identifier = .ok (typeBefore? before identifier) := by
  rw [typeBeforeSliced, typeBefore?, typePartSliced_eq, Text.ok_bind]
  cases hlast : before.getLast? with
  | none =>
    obtain rfl := List.getLast?_eq_none_iff.mp hlast
    rfl
  | some last =>
    cases hb : Text.isBlank last with
    | true =>
      simp only [Option.any_some, hb, if_true, specifierSliced_eq, Text.ok_bind, Bool.true_and]
      cases specifier before <;> simp [hb]
    | false =>
      simp only [Option.any_some, hb, Bool.false_eq_true, if_false]
      cases hfront : beforeLastBlank? before with
      | none => simp [hb]
      | some front =>
        simp only [specifierSliced_eq, Text.ok_bind]
        cases hspecifier : specifier front <;> simp [hb, hspecifier]

theorem typeNameSliced_eq (hover identifier : Text) :
    typeNameSliced hover identifier = .ok (typeName? hover identifier) := by
  rw [typeNameSliced, typeName?_eq]
  by_cases hnil : identifier = []
  · simp [hnil, Text.findWord]
  · rw [if_neg hnil, signatureSliced_eq, Text.ok_bind, Text.findWordSliced_eq, Text.ok_bind,
      Text.findWordByte_eq_map]
    cases Text.findWord identifier (signature hover) with
    | none => rfl
    | some place =>
      rw [Option.map_some, Option.bind_some]
      dsimp only
      split
      · next hzero =>
        -- nothing stands in front of the identifier, so nothing declares it
        rw [Text.byteSize_eq_zero_iff.mp hzero]
        rfl
      · rw [Text.sliceTo_offset, Text.ok_bind, typeBeforeSliced_eq]

end Hover

/-- A text can be cut at the boundaries of its UTF-8 encoding and nowhere else. The readings
by byte offsets never cut it anywhere else, for none of them fails, and each has the result of
the reading by places. -/
theorem slices_at_boundaries (line text word content hover identifier : Text) (p : Position) :
    (∀ t b, Text.CutsAtBoundary t b) ∧
      Header.inspectSliced line = .ok (Header.inspect line) ∧
      Text.findWordSliced word text = .ok (Text.findWordByte word text) ∧
      Text.wordAtSliced content p = .ok (Text.wordAt content p) ∧
      Hover.signatureSliced hover = .ok (Hover.signature hover) ∧
      Hover.typeNameSliced hover identifier = .ok (Hover.typeName? hover identifier) :=
  ⟨Text.cutsAtBoundary, Header.inspectSliced_eq line, Text.findWordSliced_eq word text,
    Text.wordAtSliced_eq content p, Hover.signatureSliced_eq hover,
    Hover.typeNameSliced_eq hover identifier⟩

end CaseFill
