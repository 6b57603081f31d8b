import WasmLens.Proofs.Code.Layout

/-!
# Layouts that are told again

Spans are sorted before a text is cut, and of those that start at one offset the first that was told claims it. So a
layout depends on **the spans of each start, in their order** (`filter_order`), and not on how these are mixed
(`order_eq_of_rearranged`). What spans have claimed is in order, lies in the text and does not overlap: **cut again, it
gives the same ranges** (`cut_claimed`), empty ones in their places among them.
-/
namespace WasmLens.Code

/-! ## Sorting by a key -/

section

variable {α : Type}

/-- Elements with one key keep their order. -/
theorem filter_mergeSort (key : α → Nat) (xs : List α) (k : Nat) :
    (xs.mergeSort fun x y => key x ≤ key y).filter (key · = k) = xs.filter (key · = k) := by
  have alike : (xs.filter (key · = k)).Pairwise fun x y => decide (key x ≤ key y) := by
    refine List.pairwise_of_forall_mem_list fun x mem y mem' => ?_
    simp only [List.mem_filter, decide_eq_true_eq] at mem mem' ⊢
    omega
  have sub : (xs.filter (key · = k)).Sublist (xs.mergeSort fun x y => key x ≤ key y) :=
    List.sublist_mergeSort (by simp; omega) (by simp; omega) alike List.filter_sublist
  have among := sub.filter (key · = k)
  rw [List.filter_filter] at among
  simp only [Bool.and_self] at among
  exact (among.eq_of_length ((List.mergeSort_perm xs _).filter _).length_eq.symm).symm

theorem mem_of_filter_eq {key : α → Nat} {xs ys : List α}
    (same : ∀ k, xs.filter (key · = k) = ys.filter (key · = k)) {x : α} (mem : x ∈ xs) : x ∈ ys := by
  have among : x ∈ xs.filter (key · = key x) := List.mem_filter.2 ⟨mem, decide_eq_true rfl⟩
  rw [same] at among
  exact (List.mem_filter.1 among).1

/-- **Lists that are sorted by a key** are the same if they have the same elements with each key. -/
theorem eq_of_filter_eq (key : α → Nat) : ∀ {xs ys : List α}, xs.Pairwise (key · ≤ key ·) →
    ys.Pairwise (key · ≤ key ·) → (∀ k, xs.filter (key · = k) = ys.filter (key · = k)) → xs = ys
  | [], [], _, _, _ => rfl
  | [], y :: ys, _, _, same => nomatch mem_of_filter_eq (fun k => (same k).symm) (List.mem_cons_self (a := y))
  | x :: xs, [], _, _, same => nomatch mem_of_filter_eq same (List.mem_cons_self (a := x))
  | x :: xs, y :: ys, sorted, sorted', same => by
    obtain ⟨first, others⟩ := List.pairwise_cons.1 sorted
    obtain ⟨first', others'⟩ := List.pairwise_cons.1 sorted'
    -- both lists start with the first element that has the least key
    have least : key x = key y := by
      have below : key y ≤ key x :=
        (List.forall_mem_cons (p := (key y ≤ key ·))).2 ⟨Nat.le_refl _, first'⟩ x
          (mem_of_filter_eq same List.mem_cons_self)
      have above : key x ≤ key y :=
        (List.forall_mem_cons (p := (key x ≤ key ·))).2 ⟨Nat.le_refl _, first⟩ y
          (mem_of_filter_eq (fun k => (same k).symm) List.mem_cons_self)
      exact Nat.le_antisymm above below
    have heads := same (key x)
    rw [List.filter_cons_of_pos (by simp), List.filter_cons_of_pos (by simp [least])] at heads
    obtain rfl : x = y := (List.cons.inj heads).1
    refine congrArg (x :: ·) (eq_of_filter_eq key others others' fun k => ?_)
    have here := same k
    rw [List.filter_cons, List.filter_cons] at here
    split at here
    · exact (List.cons.inj here).2
    · exact here

end

namespace Layout

variable {size cursor : Nat} {spans spans' : List Span}

/-! ## The order that spans are told in -/

/-- The spans that start at one offset of a text, in the order that they are told in. -/
def startingAt (size : Nat) (spans : List Span) (start : Nat) : List Span :=
  spans.filter fun s => (clamp size s).start = start

/-- **The same spans in another order**, in which those that start where some span does come as before. -/
structure Rearranged (size : Nat) (spans spans' : List Span) : Prop where
  perm : spans'.Perm spans
  ties : ∀ s ∈ spans, startingAt size spans' (clamp size s).start = startingAt size spans (clamp size s).start

/-- So do those that start where no span does: there are none. -/
theorem Rearranged.startingAt_eq (h : Rearranged size spans spans') (start : Nat) :
    startingAt size spans' start = startingAt size spans start := by
  by_cases some : ∃ s ∈ spans, (clamp size s).start = start
  · obtain ⟨s, mem, rfl⟩ := some
    exact h.ties s mem
  · have none : startingAt size spans start = [] := by
      refine List.filter_eq_nil_iff.2 fun s mem => ?_
      rw [decide_eq_true_eq]
      exact fun here => some ⟨s, mem, here⟩
    have perm := h.perm.filter fun s => (clamp size s).start = start
    rw [none]
    exact List.Perm.eq_nil (none ▸ perm)

/-- The spans of each start are cut in the order that they are told in. -/
theorem filter_order (start : Nat) : (order size spans).filter (fun s => s.start = start) =
    (startingAt size spans start).map (clamp size) := by
  rw [order, filter_mergeSort Span.start, List.filter_map]
  rfl

theorem order_eq_of_rearranged (h : Rearranged size spans spans') : order size spans' = order size spans := by
  refine eq_of_filter_eq Span.start (order_ascending ..) (order_ascending ..) fun start => ?_
  rw [filter_order, filter_order, h.startingAt_eq]

/-! ## What spans have claimed -/

/-- What each span claims of a text from a cursor on, as far as no span before it has done so. -/
def claimed : (cursor : Nat) → List Span → List Span
  | _, [] => []
  | cursor, s :: spans =>
    let first := max s.start cursor
    let stop := max s.stop first
    ⟨s.func, first, stop⟩ :: claimed stop spans

end Layout

/-- The span that a range takes up, if it holds a function. -/
def Range.toSpan? (r : Range) : Option Span := r.func.map fun func => ⟨func, r.first, r.stop⟩

namespace Layout

variable {size cursor : Nat} {spans : List Span}

/-- The spans of all functions of a layout, in offset order. -/
def toSpans (l : Layout) : List Span := l.functions.filterMap Range.toSpan?

/-- The ranges of functions are what their spans have claimed. -/
theorem filterMap_toSpan?_cut (size : Nat) : ∀ (cursor : Nat) (spans : List Span),
    ((cut size cursor spans).filter Range.isFunction).filterMap Range.toSpan? = claimed cursor spans
  | cursor, [] => by
    rw [cut, filter_gap]
    rfl
  | cursor, s :: spans => by
    rw [filter_cut_cons, List.filterMap_cons_some (f := Range.toSpan?) rfl, filterMap_toSpan?_cut]
    rfl

/-- **Cutting a text where it has been cut** gives the same ranges. -/
theorem cut_claimed (size : Nat) : ∀ (cursor : Nat) (spans : List Span),
    cut size cursor (claimed cursor spans) = cut size cursor spans
  | _, [] => rfl
  | cursor, s :: spans => by
    have first : max (max s.start cursor) cursor = max s.start cursor := by omega
    have stop : max (max s.stop (max s.start cursor)) (max s.start cursor) = max s.stop (max s.start cursor) := by
      omega
    simp only [claimed, cut, first, stop]
    rw [cut_claimed]

/-- What is claimed lies behind the cursor and in the text. -/
theorem claimed_inside : ∀ {cursor : Nat} {spans : List Span}, cursor ≤ size →
    (∀ s ∈ spans, s.start ≤ size ∧ s.stop ≤ size) →
      ∀ s ∈ claimed cursor spans, cursor ≤ s.start ∧ s.start ≤ s.stop ∧ s.stop ≤ size
  | _, [], _, _ => nofun
  | cursor, s :: spans, reached, inside => by
    obtain ⟨here, later⟩ := List.forall_mem_cons.1 inside
    refine List.forall_mem_cons.2 ⟨?_, fun s' mem => ?_⟩
    · dsimp only
      omega
    · have behind := claimed_inside (by omega) later s' mem
      omega

theorem claimed_ascending : ∀ {cursor : Nat} {spans : List Span}, cursor ≤ size →
    (∀ s ∈ spans, s.start ≤ size ∧ s.stop ≤ size) → (claimed cursor spans).Pairwise fun s s' => s.start ≤ s'.start
  | _, [], _, _ => .nil
  | cursor, s :: spans, reached, inside => by
    obtain ⟨here, later⟩ := List.forall_mem_cons.1 inside
    have stop : max s.stop (max s.start cursor) ≤ size := by omega
    refine .cons (fun s' mem => ?_) (claimed_ascending stop later)
    have behind := claimed_inside stop later s' mem
    dsimp only
    omega

/-- Spans that are in order and in the text are left as they are. -/
theorem order_eq_self (ascending : spans.Pairwise fun s s' => s.start ≤ s'.start)
    (inside : ∀ s ∈ spans, s.start ≤ s.stop ∧ s.stop ≤ size) : order size spans = spans := by
  have clamped : spans.map (clamp size) = spans := by
    refine (List.map_congr_left fun s mem => ?_).trans spans.map_id
    obtain ⟨ordered, stop⟩ := inside s mem
    simp only [clamp, Nat.min_eq_left stop, Nat.min_eq_left ordered, id]
  rw [order, clamped]
  exact List.mergeSort_of_pairwise (ascending.imp decide_eq_true)

/-! ## Layouts -/

/-- A layout of the spans that another one has given to its functions is that layout. -/
theorem ofSpans_toSpans (text : List UInt8) (spans : List Span) :
    ofSpans text (ofSpans text spans).toSpans = ofSpans text spans := by
  have inside : ∀ s ∈ order text.length spans, s.start ≤ text.length ∧ s.stop ≤ text.length := by
    intro s mem
    obtain ⟨s', _, rfl⟩ := mem_order mem
    simp only [clamp]
    omega
  have told : (ofSpans text spans).toSpans = claimed 0 (order text.length spans) := filterMap_toSpan?_cut ..
  have ordered : order text.length (claimed 0 (order text.length spans)) = claimed 0 (order text.length spans) :=
    order_eq_self (claimed_ascending (Nat.zero_le _) inside)
      fun s mem => (claimed_inside (Nat.zero_le _) inside s mem).2
  rw [told, ofSpans, ordered, cut_claimed]
  rfl

/-- **A layout does not depend on the order that its spans are told in**, unless they start at one offset of the text.
And it says of its functions all that it takes to make it again. -/
theorem ofSpans_rearranged (text : List UInt8) (spans : List Span) :
    (∀ spans', Rearranged text.length spans spans' → ofSpans text spans' = ofSpans text spans) ∧
      ofSpans text (ofSpans text spans).toSpans = ofSpans text spans :=
  ⟨fun spans' h => by rw [ofSpans, ofSpans, order_eq_of_rearranged h], ofSpans_toSpans text spans⟩

/-- Two spans start at the first byte, and two are moved to the end of the text. -/
theorem ofSpans_rearranged_ties :
    Rearranged 6 [⟨1, 4, 9⟩, ⟨0, 0, 2⟩, ⟨2, 0, 5⟩, ⟨3, 8, 9⟩, ⟨4, 7, 3⟩]
        [⟨0, 0, 2⟩, ⟨3, 8, 9⟩, ⟨4, 7, 3⟩, ⟨2, 0, 5⟩, ⟨1, 4, 9⟩] ∧
      ofSpans [0, 1, 2, 3, 4, 5] [⟨0, 0, 2⟩, ⟨3, 8, 9⟩, ⟨4, 7, 3⟩, ⟨2, 0, 5⟩, ⟨1, 4, 9⟩] =
        ofSpans [0, 1, 2, 3, 4, 5] [⟨1, 4, 9⟩, ⟨0, 0, 2⟩, ⟨2, 0, 5⟩, ⟨3, 8, 9⟩, ⟨4, 7, 3⟩] := by
  have rearranged : Rearranged 6 [⟨1, 4, 9⟩, ⟨0, 0, 2⟩, ⟨2, 0, 5⟩, ⟨3, 8, 9⟩, ⟨4, 7, 3⟩]
      [⟨0, 0, 2⟩, ⟨3, 8, 9⟩, ⟨4, 7, 3⟩, ⟨2, 0, 5⟩, ⟨1, 4, 9⟩] := ⟨by decide, by decide⟩
  exact ⟨rearranged, (ofSpans_rearranged [0, 1, 2, 3, 4, 5] _).1 _ rearranged⟩

/-- Of two spans that start together the first one that is told is given all of its code. -/
example : (ofSpans [0, 1, 2, 3] [⟨0, 0, 2⟩, ⟨1, 0, 4⟩]).toSpans = [⟨0, 0, 2⟩, ⟨1, 2, 4⟩] ∧
    (ofSpans [0, 1, 2, 3] [⟨1, 0, 4⟩, ⟨0, 0, 2⟩]).toSpans = [⟨1, 0, 4⟩, ⟨0, 4, 4⟩] := by cbv

end Layout

end WasmLens.Code
