import WasmLens.Proofs.Code.Tiling

/-!
# Which function an offset belongs to

A layout is searched by halving, which finds an offset only because ranges that follow each other also stop one
after another, the empty ones among them (`Follow.ascending`, `getElem?_endedBefore`). And the cursor that the text
is cut with stands behind all that earlier spans have claimed, so an offset that several spans claim is left to
**the first of them** (`find?_cut`). `functionAt_ofSpans` says so of the spans as they were told: a layout knows of
an offset what a search through all of these would find.
-/
namespace WasmLens.Code

instance (s : Span) (offset : Nat) : Decidable (s.Claims offset) := inferInstanceAs (Decidable (_ ∧ _))

/-! ## Ranges that follow each other -/

namespace Follow

variable {first last : Nat} {ranges : List Range} (h : Follow first ranges last)

include h

theorem le_stop : ∀ r ∈ ranges, first ≤ r.stop := by
  induction h with
  | nil => nofun
  | cons _ ordered _ ih =>
    exact List.forall_mem_cons.2 ⟨ordered, fun r mem => Nat.le_trans ordered (ih r mem)⟩

theorem ascending : ranges.Pairwise fun r r' => r.stop ≤ r'.stop := by
  induction h with
  | nil => exact .nil
  | cons _ _ rest ih => exact List.pairwise_cons.2 ⟨rest.le_stop, ih⟩

/-- The first range that stops behind an offset has started by then. -/
theorem first_le {offset : Nat} (reached : first ≤ offset) {r : Range}
    (found : ranges.find? (offset < ·.stop) = some r) : r.first ≤ offset := by
  induction h with
  | nil => cases found
  | @cons r' ranges last _ _ _ ih =>
    rw [List.find?_cons] at found
    split at found
    · obtain rfl := Option.some.inj found
      exact reached
    · rename_i ended
      exact ih (Nat.le_of_not_lt (of_decide_eq_false ended)) found

end Follow

namespace Layout

/-! ## Searching by halving -/

/-- **Halving separates** the ranges that stop at an offset or in front of it from those that stop behind it. -/
theorem endedBefore_spec {ranges : List Range} (ascending : ranges.Pairwise fun r r' => r.stop ≤ r'.stop)
    (offset : Nat) {low high : Nat} (ordered : low ≤ high) (inside : high ≤ ranges.length)
    (below : ∀ (i : Nat) r, ranges[i]? = some r → i < low → r.stop ≤ offset)
    (above : ∀ (i : Nat) r, ranges[i]? = some r → high ≤ i → offset < r.stop) :
    ∀ (i : Nat) r, ranges[i]? = some r →
      (offset < r.stop ↔ endedBefore ranges.toArray offset low high ≤ i) := by
  have stops {i j : Nat} {r r' : Range} (here : ranges[i]? = some r) (there : ranges[j]? = some r') (le : i ≤ j) :
      r.stop ≤ r'.stop := by
    obtain ⟨lt, rfl⟩ := List.getElem?_eq_some_iff.1 here
    obtain ⟨lt', rfl⟩ := List.getElem?_eq_some_iff.1 there
    rcases Nat.eq_or_lt_of_le le with rfl | less
    · exact Nat.le_refl _
    · exact List.pairwise_iff_getElem.1 ascending i j lt lt' less
  fun_induction endedBefore ranges.toArray offset low high with
  | case1 low high some mid r here ended ih =>
    -- what stands in front of the middle ends no later than it
    rw [List.getElem?_toArray] at here
    refine ih (by omega) inside (fun i r' there less => ?_) above
    exact Nat.le_trans (stops there here (by omega)) ended
  | case2 low high some mid r here later ih =>
    rw [List.getElem?_toArray] at here
    refine ih (by omega) (by omega) below fun i r' there reached => ?_
    exact Nat.lt_of_lt_of_le (Nat.lt_of_not_le later) (stops here there reached)
  | case3 low high some mid none =>
    rw [List.getElem?_toArray, List.getElem?_eq_none_iff] at none
    omega
  | case4 low high none =>
    intro i r here
    refine ⟨fun later => ?_, fun reached => above i r here (by omega)⟩
    have := mt (below i r here) (Nat.not_le.2 later)
    omega

/-- **What halving finds** is the first range that stops behind the offset. -/
theorem getElem?_endedBefore {ranges : List Range} (ascending : ranges.Pairwise fun r r' => r.stop ≤ r'.stop)
    (offset : Nat) :
    ranges[endedBefore ranges.toArray offset 0 ranges.length]? = ranges.find? (offset < ·.stop) := by
  have spec := endedBefore_spec ascending offset (Nat.zero_le _) (Nat.le_refl _)
    (fun _ _ _ => nofun) fun i r here reached => absurd (List.getElem?_eq_some_iff.1 here).1 (Nat.not_lt.2 reached)
  generalize endedBefore ranges.toArray offset 0 ranges.length = place at spec
  cases here : ranges[place]? with
  | none =>
    refine (List.find?_eq_none.2 fun r mem => ?_).symm
    obtain ⟨i, there⟩ := List.getElem?_of_mem mem
    have inside := (List.getElem?_eq_some_iff.1 there).1
    rw [List.getElem?_eq_none_iff] at here
    rw [decide_eq_true_eq, spec i r there]
    omega
  | some r =>
    obtain ⟨inside, rfl⟩ := List.getElem?_eq_some_iff.1 here
    refine (List.find?_eq_some_iff_getElem.2 ⟨?_, place, inside, rfl, fun i less => ?_⟩).symm
    · exact decide_eq_true ((spec place _ here).2 (Nat.le_refl _))
    · have before := spec i ranges[i] (List.getElem?_eq_getElem _)
      rw [Bool.not_eq_true', decide_eq_false_iff_not, before]
      omega

/-- **The function at an offset** is that of the first range that stops behind it. -/
theorem functionAt_of_follow {l : Layout} {last : Nat} (follow : Follow 0 l.ranges last) (offset : Nat) :
    l.functionAt offset = (l.ranges.find? (offset < ·.stop)).bind (·.func) := by
  rw [← getElem?_endedBefore follow.ascending]
  unfold functionAt
  simp only [List.size_toArray, List.getElem?_toArray]
  cases found : l.ranges[endedBefore l.ranges.toArray offset 0 l.ranges.length]? with
  | none => rfl
  | some r =>
    rw [getElem?_endedBefore follow.ascending] at found
    have stops : offset < r.stop := by simpa using List.find?_some found
    exact if_pos ⟨follow.first_le (Nat.zero_le _) found, stops⟩

/-! ## Who keeps an offset -/

/-- **The cursor leaves an offset to the first span that claims it**: as long as it has not passed the offset, no
span in front claims that. -/
theorem find?_cut (size : Nat) {offset : Nat} : ∀ {spans : List Span} {cursor : Nat}, cursor ≤ offset →
    spans.Pairwise (fun s s' => s.start ≤ s'.start) →
      ((cut size cursor spans).find? (offset < ·.stop)).bind (·.func) =
        (spans.find? (·.Claims offset)).map (·.func)
  | [], cursor, _, _ => by
    rw [cut, List.find?_nil, Option.map_none, Option.bind_eq_none_iff]
    exact fun r found => func_of_mem_gap (List.mem_of_find?_eq_some found)
  | s :: spans, cursor, reached, sorted => by
    obtain ⟨later, sorted⟩ := List.pairwise_cons.1 sorted
    rw [cut, List.find?_append]
    rcases Nat.lt_or_ge offset (max s.start cursor) with inGap | started
    · -- the offset lies in front of this span, and so in front of all
      have gapped : (gap cursor (max s.start cursor)).find? (offset < ·.stop) =
          some ⟨none, cursor, cursor, max s.start cursor⟩ := by
        rw [gap, if_pos (by omega)]
        exact List.find?_cons_of_pos (by simpa using inGap)
      have unclaimed : (s :: spans).find? (·.Claims offset) = none := by
        refine List.find?_eq_none.2 (List.forall_mem_cons.2 ⟨?_, fun s' mem => ?_⟩)
        · rw [decide_eq_true_eq, Span.Claims]
          omega
        · have := later s' mem
          rw [decide_eq_true_eq, Span.Claims]
          omega
      rw [gapped, unclaimed]
      rfl
    · have passed : (gap cursor (max s.start cursor)).find? (offset < ·.stop) = none := by
        refine List.find?_eq_none.2 fun r mem => ?_
        unfold gap at mem
        split at mem
        · rw [List.mem_singleton.1 mem, decide_eq_true_eq]
          exact Nat.not_lt.2 started
        · cases mem
      rw [passed, Option.none_or, List.find?_cons, List.find?_cons]
      by_cases claims : s.Claims offset
      · have stops : offset < max s.stop (max s.start cursor) := Nat.lt_of_lt_of_le claims.2 (Nat.le_max_left _ _)
        rw [decide_eq_true stops, decide_eq_true claims]
        rfl
      · have behind : max s.stop (max s.start cursor) ≤ offset := by
          rw [Span.Claims] at claims
          omega
        rw [decide_eq_false (Nat.not_lt.2 behind), decide_eq_false claims]
        exact find?_cut size behind sorted

/-- **The first span that claims an offset** of a text of some size: of all that do, it starts first, and of those
that start where it does it was told first. -/
structure FirstToClaim (size : Nat) (spans : List Span) (offset i : Nat) (s : Span) : Prop where
  told : spans[i]? = some s
  claims : (clamp size s).Claims offset
  first : ∀ (j : Nat) s', spans[j]? = some s' → (clamp size s').Claims offset →
    (clamp size s).start < (clamp size s').start ∨ (clamp size s).start = (clamp size s').start ∧ i ≤ j

section Order

variable {size : Nat} {spans : List Span} {offset : Nat}

/-- Only one span is the first. -/
theorem FirstToClaim.unique {i i' : Nat} {s s' : Span} (h : FirstToClaim size spans offset i s)
    (h' : FirstToClaim size spans offset i' s') : s = s' := by
  have before := h.first i' s' h'.told h'.claims
  have behind := h'.first i s h.told h.claims
  obtain rfl : i = i' := by omega
  exact Option.some.inj (h.told.symm.trans h'.told)

/-- What is found in the order of spans is the first one that claims the offset. -/
theorem InOrder.firstToClaim {placed : List (Span × Nat)} (h : InOrder size spans placed) {p : Span × Nat}
    (found : placed.find? (·.1.Claims offset) = some p) :
    ∃ s, FirstToClaim size spans offset p.2 s ∧ s.func = p.1.func := by
  obtain ⟨c, i⟩ := p
  obtain ⟨claims, front, back, split, unclaimed⟩ := List.find?_eq_some_iff_append.1 found
  obtain ⟨s, told, rfl⟩ := h.mem_iff.1 (List.mem_of_find?_eq_some found)
  refine ⟨s, ⟨told, of_decide_eq_true claims, fun j s' told' claims' => ?_⟩, rfl⟩
  have among : (clamp size s', j) ∈ placed := h.mem_iff.2 ⟨s', told', rfl⟩
  have ascending := h.ascending
  rw [split] at among ascending
  rcases List.mem_append.1 among with before | here
  · have free := unclaimed _ before
    rw [Bool.not_eq_true', decide_eq_false_iff_not] at free
    exact absurd claims' free
  · rcases List.mem_cons.1 here with same | behind
    · obtain ⟨start, rfl⟩ := Prod.mk.inj same
      exact .inr ⟨by rw [start], Nat.le_refl _⟩
    · have later := (List.pairwise_cons.1 (List.pairwise_append.1 ascending).2.1).1 _ behind
      exact later.imp_right (.imp_right Nat.le_of_lt)

end Order

theorem ofSpans_follow (text : List UInt8) (spans : List Span) :
    Follow 0 (ofSpans text spans).ranges text.length := by
  refine cut_follow (Nat.zero_le _) fun s mem => ?_
  obtain ⟨s', _, rfl⟩ := mem_order mem
  simp only [clamp]
  omega

/-- **Searching a layout** is searching the spans in their order. -/
theorem functionAt_eq_find? {text : List UInt8} {spans : List Span} {placed : List (Span × Nat)}
    (inOrder : InOrder text.length spans placed) (sorted : order text.length spans = placed.map (·.1))
    (offset : Nat) :
    (ofSpans text spans).functionAt offset = (placed.find? (·.1.Claims offset)).map (·.1.func) := by
  have ascending : (order text.length spans).Pairwise fun s s' => s.start ≤ s'.start := by
    rw [sorted, List.pairwise_map]
    exact inOrder.ascending.imp fun before => by omega
  rw [functionAt_of_follow (ofSpans_follow text spans), ofSpans, find?_cut _ (Nat.zero_le _) ascending, sorted,
    List.find?_map, Option.map_map]
  rfl

/-- **The function at an offset** is the one whose span claims it first, and there is none only if no span claims
it: whether spans are empty, overlap, repeat or reach out of the text. -/
theorem functionAt_ofSpans (text : List UInt8) (spans : List Span) (offset : Nat) :
    (∀ func, (ofSpans text spans).functionAt offset = some func ↔
        ∃ i s, FirstToClaim text.length spans offset i s ∧ s.func = func) ∧
      ((ofSpans text spans).functionAt offset = none ↔ ∀ s ∈ spans, ¬(clamp text.length s).Claims offset) := by
  obtain ⟨placed, inOrder, sorted⟩ := exists_inOrder text.length spans
  rw [functionAt_eq_find? inOrder sorted]
  constructor
  · intro func
    rw [Option.map_eq_some_iff]
    constructor
    · rintro ⟨p, found, rfl⟩
      obtain ⟨s, first, func⟩ := inOrder.firstToClaim found
      exact ⟨p.2, s, first, func⟩
    · rintro ⟨i, s, first, rfl⟩
      have mem : (clamp text.length s, i) ∈ placed := inOrder.mem_iff.2 ⟨s, first.told, rfl⟩
      obtain ⟨p, found⟩ : ∃ p, placed.find? (·.1.Claims offset) = some p :=
        Option.isSome_iff_exists.1 (List.find?_isSome.2 ⟨_, mem, decide_eq_true first.claims⟩)
      obtain ⟨s', first', func⟩ := inOrder.firstToClaim found
      exact ⟨p, found, by rw [first.unique first', func]⟩
  · rw [Option.map_eq_none_iff, List.find?_eq_none]
    constructor
    · intro unclaimed s mem
      obtain ⟨i, told⟩ := List.getElem?_of_mem mem
      simpa using unclaimed _ (inOrder.mem_iff.2 ⟨s, told, rfl⟩)
    · rintro unclaimed ⟨c, i⟩ mem
      obtain ⟨s, told, rfl⟩ := inOrder.mem_iff.1 mem
      simpa using unclaimed s (List.mem_of_getElem? told)

/-- The span that starts first keeps what another one claims of it, and an empty one keeps nothing. -/
example : [3, 5, 9].map (ofSpans (List.replicate 8 0) [⟨1, 2, 6⟩, ⟨2, 3, 3⟩, ⟨0, 0, 4⟩]).functionAt =
    [some 0, some 1, none] := by cbv

end Layout

end WasmLens.Code
