import Mathlib.Data.List.Chain
import WasmLens.Proofs.Code.Layout

/-!
# How ranges tile a text

A layout follows one cursor through the spans, in the order of their clamped starts. What it leaves behind the
cursor is a tiling of the text up to there (`cut_follow`), whatever the spans are: nested, empty, repeated, out
of the text. And **the cursor never runs ahead of a span that no other one overlaps**
(`getElem?_filter_cut`), so such a span keeps all of its code. `ofSpans_tiles` has all that a layout is.
-/
namespace WasmLens.Code

/-! ## What a tiling is -/

/-- The offsets that a span claims. None if it starts at its stop or behind it. -/
def Span.Claims (s : Span) (offset : Nat) : Prop := s.start ≤ offset ∧ offset < s.stop

/-- No offset is claimed by both of two spans. -/
def Span.Apart (s s' : Span) : Prop := ∀ offset, s.Claims offset → ¬s'.Claims offset

/-- **Ranges that follow each other** from one offset up to another one. All are entered where they start. -/
inductive Follow : Nat → List Range → Nat → Prop
  | nil (offset : Nat) : Follow offset [] offset
  | cons {r : Range} {ranges : List Range} {last : Nat} (entry : r.entry = r.first) (ordered : r.first ≤ r.stop)
      (rest : Follow r.stop ranges last) : Follow r.first (r :: ranges) last

namespace Layout

/-- **Spans in order**: each one is clamped and has its place among the spans that were told. They are ordered by
where they start, and by their places where they start at the same offset. -/
structure InOrder (size : Nat) (spans : List Span) (placed : List (Span × Nat)) : Prop where
  perm : placed.Perm (spans.map (clamp size)).zipIdx
  ascending : placed.Pairwise fun p p' => p.1.start < p'.1.start ∨ p.1.start = p'.1.start ∧ p.2 < p'.2

/-- **What a layout of a text is**, whatever the spans that were told. -/
structure Tiles (text : List UInt8) (spans : List Span) (l : Layout) : Prop where
  follow : Follow 0 l.ranges text.length
  length : ∀ r ∈ l.ranges, r.length = .ok (r.stop - r.first)
  /-- Gaps are not empty, and no gap follows another one. -/
  gaps : ∀ r ∈ l.ranges, r.func = none → r.first < r.stop
  between : l.ranges.IsChain fun r r' => r.isFunction ∨ r'.isFunction
  /-- Every span has one range, in their order. One that lies in the text and that nobody else claims any of is
  its range. -/
  functions : ∃ placed, InOrder text.length spans placed ∧
    l.functions.map (·.func) = placed.map (fun p => some p.1.func) ∧
      ∀ (i : Nat) s, spans[i]? = some s → s.start < s.stop → s.stop ≤ text.length →
        (∀ (j : Nat) s', spans[j]? = some s' → j ≠ i → s.Apart s') →
          ∃ k : Nat, placed[k]? = some (s, i) ∧ l.functions[k]? = some ⟨some s.func, s.start, s.start, s.stop⟩
  /-- The code of a range is all of its bytes, and together these are the text. -/
  code : ∀ r ∈ l.ranges, l.code r = some ((text.drop r.first).take (r.stop - r.first))
  whole : l.ranges.flatMap (fun r => (l.code r).getD []) = text

/-! ## Following the cursor -/

theorem gap_follow {cursor stop last : Nat} {ranges : List Range} (reached : cursor ≤ stop)
    (rest : Follow stop ranges last) : Follow cursor (gap cursor stop ++ ranges) last := by
  unfold gap
  split
  · exact .cons (r := ⟨none, cursor, cursor, stop⟩) rfl reached rest
  · rename_i none
    obtain rfl : cursor = stop := by omega
    exact rest

/-- **What is cut** from a cursor on follows it, up to the end. -/
theorem cut_follow {size : Nat} {spans : List Span} : ∀ {cursor : Nat}, cursor ≤ size →
    (∀ s ∈ spans, s.start ≤ size ∧ s.stop ≤ size) → Follow cursor (cut size cursor spans) size := by
  induction spans with
  | nil =>
    intro cursor reached _
    have rest := gap_follow reached (.nil size)
    rwa [List.append_nil] at rest
  | cons s spans ih =>
    intro cursor reached inside
    obtain ⟨here, later⟩ := List.forall_mem_cons.1 inside
    have stop : max s.stop (max s.start cursor) ≤ size := by omega
    let r : Range := ⟨some s.func, max s.start cursor, max s.start cursor, max s.stop (max s.start cursor)⟩
    have function : Follow r.first (r :: cut size r.stop spans) size :=
      .cons rfl (Nat.le_max_right _ _) (ih stop later)
    exact gap_follow (Nat.le_max_right _ _) function

theorem lt_of_mem_gap {cursor stop : Nat} {r : Range} (mem : r ∈ gap cursor stop) : r.first < r.stop := by
  unfold gap at mem
  split at mem
  · rename_i some
    rw [List.mem_singleton.1 mem]
    exact some
  · cases mem

/-- Gaps have bytes. -/
theorem lt_of_mem_cut {size : Nat} {spans : List Span} {r : Range} : ∀ {cursor : Nat},
    r ∈ cut size cursor spans → r.func = none → r.first < r.stop := by
  induction spans with
  | nil => exact fun mem _ => lt_of_mem_gap mem
  | cons s spans ih =>
    intro cursor mem other
    rw [cut, List.mem_append, List.mem_cons] at mem
    rcases mem with before | rfl | behind
    · exact lt_of_mem_gap before
    · cases other
    · exact ih behind other

/-- Behind every gap there is a function, unless the text ends. -/
theorem cut_isChain {size : Nat} {spans : List Span} : ∀ cursor : Nat,
    (cut size cursor spans).IsChain fun r r' => r.isFunction ∨ r'.isFunction := by
  induction spans with
  | nil =>
    intro cursor
    rw [cut]
    unfold gap
    split
    · exact .singleton _
    · exact .nil
  | cons s spans ih =>
    intro cursor
    rw [cut]
    unfold gap
    split
    · refine List.isChain_cons_cons.2 ⟨.inr rfl, List.isChain_cons.2 ⟨fun _ _ => .inl rfl, ih _⟩⟩
    · exact List.isChain_cons.2 ⟨fun _ _ => .inl rfl, ih _⟩

/-! ## The bytes of ranges -/

/-- Bytes of consecutive pieces are consecutive. -/
theorem take_drop_append {α : Type} (xs : List α) {a b c : Nat} (first : a ≤ b) (second : b ≤ c) :
    (xs.drop a).take (b - a) ++ (xs.drop b).take (c - b) = (xs.drop a).take (c - a) := by
  have behind : xs.drop b = (xs.drop a).drop (b - a) := by rw [List.drop_drop, Nat.add_sub_cancel' first]
  rw [behind, ← List.take_add, ← Nat.sub_add_sub_cancel second first, Nat.add_comm]

/-- **Ranges that follow each other** have all bytes between their ends. -/
theorem flatMap_of_follow {α : Type} (xs : List α) {first last : Nat} {ranges : List Range}
    (h : Follow first ranges last) :
    first ≤ last ∧ ranges.flatMap (fun r => (xs.drop r.first).take (r.stop - r.first)) =
      (xs.drop first).take (last - first) := by
  induction h with
  | nil offset => exact ⟨Nat.le_refl _, by rw [Nat.sub_self, List.take_zero, List.flatMap_nil]⟩
  | cons _ ordered _ ih =>
    obtain ⟨ends, bytes⟩ := ih
    rw [List.flatMap_cons, bytes]
    exact ⟨Nat.le_trans ordered ends, take_drop_append xs ordered ends⟩

/-! ## The order of spans -/

/-- **There is such an order**, and it is the one that the text is cut in. -/
theorem exists_inOrder (size : Nat) (spans : List Span) :
    ∃ placed, InOrder size spans placed ∧ order size spans = placed.map (·.1) := by
  let le (s s' : Span) : Bool := s.start ≤ s'.start
  let placed := (spans.map (clamp size)).zipIdx.mergeSort (List.zipIdxLE le)
  have perm : placed.Perm (spans.map (clamp size)).zipIdx := List.mergeSort_perm ..
  have sorted : placed.Pairwise fun p p' => List.zipIdxLE le p p' :=
    List.pairwise_mergeSort (List.zipIdxLE_trans (by simp [le]; omega))
      (List.zipIdxLE_total (by simp [le]; omega)) _
  -- no two spans have the same place
  have distinct : placed.Pairwise fun p p' => p.2 ≠ p'.2 := by
    refine List.pairwise_map.1 ((perm.map Prod.snd).nodup_iff.2 ?_)
    rw [List.zipIdx_map_snd]
    exact List.nodup_range'
  refine ⟨placed, ⟨perm, (sorted.and distinct).imp fun {p p'} both => ?_⟩, List.mergeSort_zipIdx.symm⟩
  obtain ⟨before, different⟩ := both
  simp only [List.zipIdxLE, le, decide_eq_true_eq] at before
  split at before
  · split at before
    · simp only [decide_eq_true_eq] at before
      omega
    · omega
  · cases before

namespace InOrder

variable {size : Nat} {spans : List Span} {placed : List (Span × Nat)} (h : InOrder size spans placed)

include h

/-- What is in order are the spans that were told. -/
theorem mem_iff {s : Span} {i : Nat} :
    (s, i) ∈ placed ↔ ∃ told, spans[i]? = some told ∧ s = clamp size told := by
  rw [h.perm.mem_iff, List.mk_mem_zipIdx_iff_getElem?, List.getElem?_map, Option.map_eq_some_iff]
  simp only [eq_comm]

/-- Spans in front of another one start no later and are other spans. -/
theorem front {front back : List (Span × Nat)} {p : Span × Nat} (split : placed = front ++ p :: back) :
    ∀ p' ∈ front, p'.1.start ≤ p.1.start ∧ p'.2 ≠ p.2 := by
  intro p' mem
  have ascending := h.ascending
  rw [split, List.pairwise_append] at ascending
  have distinct : (placed.map (·.2)).Nodup := by
    rw [(h.perm.map _).nodup_iff, List.zipIdx_map_snd]
    exact List.nodup_range'
  rw [split, List.map_append, List.nodup_append] at distinct
  refine ⟨?_, distinct.2.2 _ (List.mem_map_of_mem mem) _ (List.mem_map_of_mem List.mem_cons_self)⟩
  have := ascending.2.2 p' mem p List.mem_cons_self
  omega

end InOrder

/-- Every span has one range. -/
theorem map_func_filter_cut (size : Nat) (spans : List Span) :
    ∀ cursor, ((cut size cursor spans).filter Range.isFunction).map (·.func) = spans.map fun s => some s.func := by
  induction spans with
  | nil =>
    intro cursor
    rw [cut, filter_gap, List.map_nil, List.map_nil]
  | cons s spans ih =>
    intro cursor
    rw [filter_cut_cons, List.map_cons, List.map_cons, ih]

/-! ## Spans that are kept -/

/-- **The range of a span** is the span, if all spans in front of it stop before it starts. -/
theorem getElem?_filter_cut (size : Nat) {s : Span} (ordered : s.start ≤ s.stop) (back : List Span) :
    ∀ {front : List Span} {cursor : Nat}, cursor ≤ s.start →
      (∀ s' ∈ front, s'.start ≤ s.start ∧ s'.stop ≤ s.start) →
        ((cut size cursor (front ++ s :: back)).filter Range.isFunction)[front.length]? =
          some ⟨some s.func, s.start, s.start, s.stop⟩
  | [], cursor, reached, _ => by
    have first : max s.start cursor = s.start := by omega
    have stop : max s.stop s.start = s.stop := by omega
    rw [List.nil_append, filter_cut_cons, first, stop]
    rfl
  | s' :: front, cursor, reached, before => by
    obtain ⟨here, later⟩ := List.forall_mem_cons.1 before
    have stop : max s'.stop (max s'.start cursor) ≤ s.start := by omega
    rw [List.cons_append, filter_cut_cons, List.length_cons, List.getElem?_cons_succ]
    exact getElem?_filter_cut size ordered back stop later

/-- A span that starts no later than another one, and is apart from it, stops before that one starts. -/
theorem stop_clamp_le {size : Nat} {s s' : Span} (some : s.start < s.stop) (apart : s.Apart s')
    (before : (clamp size s').start ≤ s.start) : (clamp size s').stop ≤ s.start := by
  have free := apart s.start ⟨Nat.le_refl _, some⟩
  simp only [Span.Claims, not_and, Nat.not_lt] at free
  simp only [clamp] at before ⊢
  omega

/-- **A span that nobody else claims any of** keeps all of its code. -/
theorem InOrder.keeps {size : Nat} {spans : List Span} {placed : List (Span × Nat)} (h : InOrder size spans placed)
    {i : Nat} {s : Span} (told : spans[i]? = some s) (some : s.start < s.stop) (inside : s.stop ≤ size)
    (apart : ∀ (j : Nat) s', spans[j]? = Option.some s' → j ≠ i → s.Apart s') :
    ∃ k : Nat, placed[k]? = Option.some (s, i) ∧
      ((cut size 0 (placed.map (·.1))).filter Range.isFunction)[k]? =
        Option.some ⟨Option.some s.func, s.start, s.start, s.stop⟩ := by
  have clamped : clamp size s = s := by
    simp only [clamp, Nat.min_eq_left inside, Nat.min_eq_left (Nat.le_of_lt some)]
  have mem : (s, i) ∈ placed := h.mem_iff.2 ⟨s, told, clamped.symm⟩
  obtain ⟨front, back, split⟩ := List.append_of_mem mem
  refine ⟨front.length, ?_, ?_⟩
  · rw [split, List.getElem?_append_right (Nat.le_refl _), Nat.sub_self]
    rfl
  · have before : ∀ s' ∈ front.map (·.1), s'.start ≤ s.start ∧ s'.stop ≤ s.start := by
      intro s' mem'
      obtain ⟨⟨_, j⟩, there, rfl⟩ := List.mem_map.1 mem'
      obtain ⟨starts, other⟩ := h.front split _ there
      have among : (_, j) ∈ placed := split ▸ List.mem_append_left _ there
      obtain ⟨told', found, rfl⟩ := h.mem_iff.1 among
      exact ⟨starts, stop_clamp_le some (apart j told' found other) starts⟩
    have kept := getElem?_filter_cut size (Nat.le_of_lt some) (back.map (·.1)) (Nat.zero_le _) before
    rwa [List.length_map, ← List.map_cons (f := Prod.fst) (a := (s, i)), ← List.map_append, ← split] at kept

/-! ## Layouts -/

/-- **A layout tiles its text**, whatever the spans that were told: its ranges follow each other from the first
byte to the last one, gaps have bytes and functions between them, and every span has its range, which is all of
it unless another one overlaps. -/
theorem ofSpans_tiles (text : List UInt8) (spans : List Span) : Tiles text spans (ofSpans text spans) := by
  have follow : Follow 0 (ofSpans text spans).ranges text.length := by
    refine cut_follow (Nat.zero_le _) fun s mem => ?_
    obtain ⟨s', _, rfl⟩ := mem_order mem
    simp only [clamp]
    omega
  have code (r) (mem : r ∈ (ofSpans text spans).ranges) :
      (ofSpans text spans).code r = some ((text.drop r.first).take (r.stop - r.first)) := by
    rw [(code_of_mem mem).1, (inside_of_mem mem).entry]
  refine ⟨follow, fun r mem => ?_, fun r => lt_of_mem_cut, cut_isChain 0, ?_, code, ?_⟩
  · obtain ⟨entry, ordered, _⟩ := inside_of_mem mem
    rw [Range.length, entry, if_neg (Nat.not_lt.2 ordered)]
  · obtain ⟨placed, inOrder, sorted⟩ := exists_inOrder text.length spans
    refine ⟨placed, inOrder, ?_, fun i s told some inside apart => ?_⟩
    · rw [functions, ofSpans, map_func_filter_cut, sorted, List.map_map]
      rfl
    · rw [functions, ofSpans, sorted]
      exact inOrder.keeps told some inside apart
  · have bytes := (flatMap_of_follow text follow).2
    rw [Nat.sub_zero, List.drop_zero, List.take_length] at bytes
    refine Eq.trans (List.flatMap_congr fun r mem => ?_) bytes
    rw [code r mem, Option.getD_some]

end Layout

end WasmLens.Code
