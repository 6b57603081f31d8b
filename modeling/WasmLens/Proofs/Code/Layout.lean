import WasmLens.Code.Layout

/-!
# Where code lies

A layout has a range for every span that it is told, whatever these are, and all of its ranges lie in the text
(`inside_of_mem`). If every function has one place (`Located`), the ranges that hold functions are in the order
of these, and a range is exactly the place that was told if no two of them overlap (`functions_apart`). Overlapping
places are clipped.
-/
namespace WasmLens.Code

/-- A range of a text of some size that is entered where it starts. -/
structure Range.Inside (size : Nat) (r : Range) : Prop where
  entry : r.entry = r.first
  ordered : r.first ≤ r.stop
  stop : r.stop ≤ size

namespace Layout

/-! ## Any spans -/

theorem func_of_mem_gap {r : Range} {cursor stop : Nat} (h : r ∈ gap cursor stop) : r.func = none := by
  unfold gap at h
  split at h
  · rw [List.mem_singleton.1 h]
  · cases h

theorem filterMap_func_gap (cursor stop : Nat) : (gap cursor stop).filterMap (·.func) = [] :=
  List.filterMap_eq_nil_iff.2 fun _ => func_of_mem_gap

theorem filter_gap (cursor stop : Nat) : (gap cursor stop).filter Range.isFunction = [] := by
  refine List.filter_eq_nil_iff.2 fun r mem => ?_
  simp [Range.isFunction, func_of_mem_gap mem]

/-- The first function that is cut is the first span, as far as it lies behind the cursor. -/
theorem filter_cut_cons (size cursor : Nat) (s : Span) (spans : List Span) :
    (cut size cursor (s :: spans)).filter Range.isFunction =
      ⟨some s.func, max s.start cursor, max s.start cursor, max s.stop (max s.start cursor)⟩ ::
        (cut size (max s.stop (max s.start cursor)) spans).filter Range.isFunction := by
  simp only [cut, List.filter_append, filter_gap, List.nil_append]
  rw [List.filter_cons_of_pos rfl]

/-- Every span has its range. -/
theorem filterMap_func_cut (size : Nat) (spans : List Span) :
    ∀ cursor, (cut size cursor spans).filterMap (·.func) = spans.map (·.func) := by
  induction spans with
  | nil =>
    intro cursor
    rw [cut, filterMap_func_gap, List.map_nil]
  | cons s spans ih =>
    intro cursor
    simp only [cut, List.filterMap_append, filterMap_func_gap, List.nil_append, List.filterMap_cons, ih, List.map_cons]

theorem inside_of_mem_gap {size cursor stop : Nat} (h : stop ≤ size) {r : Range} (mem : r ∈ gap cursor stop) :
    r.Inside size := by
  unfold gap at mem
  split at mem
  · rename_i below
    rw [List.mem_singleton.1 mem]
    exact ⟨rfl, Nat.le_of_lt below, h⟩
  · cases mem

theorem inside_of_mem_cut {size : Nat} {spans : List Span} :
    ∀ {cursor : Nat}, cursor ≤ size → (∀ s ∈ spans, s.start ≤ size ∧ s.stop ≤ size) →
      ∀ r ∈ cut size cursor spans, r.Inside size := by
  induction spans with
  | nil =>
    intro cursor _ _ r mem
    exact inside_of_mem_gap (Nat.le_refl size) mem
  | cons s spans ih =>
    intro cursor reached inside r mem
    obtain ⟨here, later⟩ := List.forall_mem_cons.1 inside
    have first : max s.start cursor ≤ size := by omega
    have stop : max s.stop (max s.start cursor) ≤ size := by omega
    rw [cut, List.mem_append, List.mem_cons] at mem
    rcases mem with before | rfl | behind
    · exact inside_of_mem_gap first before
    · exact ⟨rfl, Nat.le_max_right _ _, stop⟩
    · exact ih stop later r behind

theorem mem_order {size : Nat} {spans : List Span} {s : Span} (h : s ∈ order size spans) :
    ∃ s' ∈ spans, s = clamp size s' := by
  obtain ⟨s', mem, eq⟩ := List.mem_map.1 (List.mem_mergeSort.1 h)
  exact ⟨s', mem, eq.symm⟩

/-- **Spans are cut in the order of their starts.** -/
theorem order_ascending (size : Nat) (spans : List Span) :
    (order size spans).Pairwise fun s s' => s.start ≤ s'.start := by
  have sorted : (order size spans).Pairwise fun s s' => decide (s.start ≤ s'.start) :=
    List.pairwise_mergeSort (by simp; omega) (by simp; omega) _
  simpa only [decide_eq_true_eq] using sorted

/-- **All ranges lie in the text**, whatever the spans. -/
theorem inside_of_mem {text : List UInt8} {spans : List Span} {r : Range} (h : r ∈ (ofSpans text spans).ranges) :
    r.Inside text.length := by
  refine inside_of_mem_cut (Nat.zero_le _) (fun s mem => ?_) r h
  obtain ⟨s', _, rfl⟩ := mem_order mem
  simp only [clamp]
  omega

/-- **The code of a range** is all of its bytes. -/
theorem code_of_mem {text : List UInt8} {spans : List Span} {r : Range} (h : r ∈ (ofSpans text spans).ranges) :
    (ofSpans text spans).code r = some ((text.drop r.entry).take (r.stop - r.entry)) ∧
      r.length = .ok ((text.drop r.entry).take (r.stop - r.entry)).length := by
  obtain ⟨entry, ordered, stop⟩ := inside_of_mem h
  have inText : r.entry ≤ r.stop ∧ r.stop ≤ text.length := by omega
  have count : ((text.drop r.entry).take (r.stop - r.entry)).length = r.stop - r.entry := by
    rw [List.length_take, List.length_drop]
    omega
  refine ⟨if_pos inText, ?_⟩
  rw [Range.length, if_neg (Nat.not_lt.2 inText.1), count]

/-- The functions of a layout are those of the spans, in their order. -/
theorem filterMap_func_functions (text : List UInt8) (spans : List Span) :
    (ofSpans text spans).functions.filterMap (·.func) = (order text.length spans).map (·.func) := by
  have same : (fun r : Range => if r.isFunction then r.func else none) = (·.func) := by
    funext r
    cases here : r.func <;> simp [Range.isFunction, here]
  rw [functions, List.filterMap_filter, same]
  exact filterMap_func_cut text.length _ 0

theorem mem_map_func_order {size func : Nat} {spans : List Span} :
    func ∈ (order size spans).map (·.func) ↔ ∃ s ∈ spans, s.func = func := by
  have same : (spans.map (clamp size)).map (·.func) = spans.map (·.func) := List.map_map ..
  rw [order, ((List.mergeSort_perm ..).map _).mem_iff, same, List.mem_map]

/-! ## One place for every function -/

/-- **A report of where functions lie** in a text: each of `count` functions, from `first` on, has one place, and
these are laid out in the order of the functions. -/
structure Located (text : List UInt8) (spans : List Span) (first count : Nat) : Prop where
  once : (spans.map (·.func)).Perm (List.range' first count)
  inside : ∀ s ∈ spans, s.start ≤ s.stop ∧ s.stop ≤ text.length
  ascending : ∀ s ∈ spans, ∀ s' ∈ spans, s.func < s'.func → s.start < s'.start

namespace Located

variable {text : List UInt8} {spans : List Span} {first count : Nat} (h : Located text spans first count)

include h

/-- There is nothing to clamp. -/
theorem map_clamp : spans.map (clamp text.length) = spans := by
  refine (List.map_congr_left fun s mem => ?_).trans spans.map_id
  obtain ⟨ordered, stop⟩ := h.inside s mem
  simp only [clamp, Nat.min_eq_left stop, Nat.min_eq_left ordered, id]

theorem order_perm : (order text.length spans).Perm spans := by
  rw [order, h.map_clamp]
  exact List.mergeSort_perm ..

/-- Spans that are ordered by where they start are ordered by their functions. -/
theorem funcs_order : (order text.length spans).map (·.func) = List.range' first count := by
  have funcs : ((order text.length spans).map (·.func)).Pairwise (· ≤ ·) := by
    rw [List.pairwise_map]
    refine (order_ascending ..).imp_of_mem fun {s s'} mem mem' starts => ?_
    rcases Nat.lt_or_ge s'.func s.func with after | before
    · have := h.ascending s' (h.order_perm.mem_iff.1 mem') s (h.order_perm.mem_iff.1 mem) after
      omega
    · exact before
  refine List.Perm.eq_of_pairwise (fun _ _ _ _ => Nat.le_antisymm) funcs (List.pairwise_le_range' 1) ?_
  exact (h.order_perm.map _).trans h.once

/-- **The functions of a layout** are in the order of their indices. -/
theorem filterMap_func : (ofSpans text spans).functions.filterMap (·.func) = List.range' first count := by
  rw [filterMap_func_functions, h.funcs_order]

end Located

/-! ## Places that do not overlap -/

/-- Spans that do not overlap are ranges as they are. -/
theorem filter_cut_apart {size : Nat} {spans : List Span} :
    ∀ {cursor : Nat}, (∀ s ∈ spans, cursor ≤ s.start ∧ s.start ≤ s.stop) →
      spans.Pairwise (fun s s' => s.stop ≤ s'.start) →
        (cut size cursor spans).filter Range.isFunction =
          spans.map fun s => ⟨some s.func, s.start, s.start, s.stop⟩ := by
  induction spans with
  | nil =>
    intro cursor _ _
    rw [cut, filter_gap, List.map_nil]
  | cons s spans ih =>
    intro cursor ordered apart
    obtain ⟨⟨start, stop⟩, later⟩ := List.forall_mem_cons.1 ordered
    obtain ⟨front, apart⟩ := List.pairwise_cons.1 apart
    have first : max s.start cursor = s.start := by omega
    have last : max s.stop s.start = s.stop := by omega
    have rest := @ih s.stop (fun s' mem => ⟨front s' mem, (later s' mem).2⟩) apart
    rw [filter_cut_cons, first, last, rest, List.map_cons]

/-- **If places do not overlap**, the ranges of functions are these places. -/
theorem Located.functions_apart {text : List UInt8} {spans : List Span} {first count : Nat}
    (h : Located text spans first count)
    (apart : ∀ s ∈ spans, ∀ s' ∈ spans, s.func < s'.func → s.stop ≤ s'.start) :
    ∀ r ∈ (ofSpans text spans).functions, ∃ s ∈ spans, r = ⟨some s.func, s.start, s.start, s.stop⟩ := by
  intro r mem
  have ordered : (order text.length spans).Pairwise fun s s' => s.stop ≤ s'.start := by
    have ascending : ((order text.length spans).map (·.func)).Pairwise (· < ·) := by
      rw [h.funcs_order]
      exact List.pairwise_lt_range'
    rw [List.pairwise_map] at ascending
    refine ascending.imp_of_mem fun {s s'} here there below => ?_
    exact apart s (h.order_perm.mem_iff.1 here) s' (h.order_perm.mem_iff.1 there) below
  rw [functions, ofSpans, filter_cut_apart _ ordered] at mem
  · obtain ⟨s, here, rfl⟩ := List.mem_map.1 mem
    exact ⟨s, h.order_perm.mem_iff.1 here, rfl⟩
  · intro s mem
    exact ⟨Nat.zero_le _, (h.inside s (h.order_perm.mem_iff.1 mem)).1⟩

end Layout

end WasmLens.Code
