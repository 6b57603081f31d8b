import WasmLens.Signature

/-!
# Signatures told apart by their text

The name of a type starts no other name (`name_append_inj`), so types between parentheses can be told from whatever
stands behind them (`tuple_append_inj`), and only two or more results have parentheses. **The text of a signature
says all of it but one thing**: a function without results reads like one whose only result is `void`
(`text_eq_iff`). Both return `void`.
-/
namespace WasmLens

namespace ValueType

/-- **No name of a type starts another one.** -/
theorem name_append_inj {t u : ValueType} {rest rest' : List Char}
    (h : t.name.toList ++ rest = u.name.toList ++ rest') : t = u ∧ rest = rest' := by
  by_cases same : t = u
  · subst same
    exact ⟨rfl, List.append_cancel_left h⟩
  · -- names differ in their first two characters
    cases t <;> cases u <;> first | exact absurd rfl same | simp [name] at h

theorem name_inj {t u : ValueType} (h : t.name = u.name) : t = u :=
  (name_append_inj (congrArg (·.toList ++ []) h)).1

theorem cons_ne_name_append {c : Char} (bracket : c = '(' ∨ c = ')') (rest : List Char) (t : ValueType)
    (rest' : List Char) : c :: rest ≠ t.name.toList ++ rest' := by
  rcases bracket with rfl | rfl <;> cases t <;> simp [name]

end ValueType

namespace Signature

open ValueType

/-! ## Types between parentheses -/

/-- What is written of types that stand behind another one. -/
def further (types : List ValueType) : List Char := types.flatMap fun t => ',' :: ' ' :: t.name.toList

/-- What is written of types between their parentheses. -/
def listed : List ValueType → List Char
  | [] => []
  | t :: types => t.name.toList ++ further types

theorem toList_intercalate_names (types : List ValueType) :
    (String.intercalate ", " (types.map name)).toList = listed types := by
  match types with
  | [] => rfl
  | [t] => simp [listed, further]
  | t :: u :: types =>
    rw [List.map_cons, List.map_cons, String.intercalate_cons_cons, ← List.map_cons, String.toList_append,
      String.toList_append, toList_intercalate_names (u :: types), List.append_assoc]
    rfl

theorem toList_tuple_append (types : List ValueType) (rest : List Char) :
    (tuple types).toList ++ rest = '(' :: (listed types ++ ')' :: rest) := by
  rw [tuple, String.toList_append, String.toList_append, toList_intercalate_names, List.append_assoc,
    List.append_assoc]
  rfl

/-- The types end where no comma follows. -/
theorem further_append_inj : ∀ {ts us : List ValueType} {rest rest' : List Char},
    further ts ++ ')' :: rest = further us ++ ')' :: rest' → ts = us ∧ rest = rest'
  | [], [], _, _, h => ⟨rfl, (List.cons.inj h).2⟩
  | [], u :: us, _, _, h => nomatch (List.cons.inj h).1
  | t :: ts, [], _, _, h => nomatch (List.cons.inj h).1
  | t :: ts, u :: us, rest, rest', h => by
    simp only [further, List.flatMap_cons, List.cons_append, List.append_assoc, List.cons.injEq, true_and] at h
    obtain ⟨rfl, others⟩ := name_append_inj h
    obtain ⟨rfl, same⟩ := further_append_inj others
    exact ⟨rfl, same⟩

theorem listed_append_inj {ts us : List ValueType} {rest rest' : List Char}
    (h : listed ts ++ ')' :: rest = listed us ++ ')' :: rest') : ts = us ∧ rest = rest' := by
  match ts, us with
  | [], [] => exact ⟨rfl, (List.cons.inj h).2⟩
  | [], u :: us =>
    rw [listed, listed, List.append_assoc] at h
    exact absurd h (cons_ne_name_append (.inr rfl) _ _ _)
  | t :: ts, [] =>
    rw [listed, listed, List.append_assoc] at h
    exact absurd h.symm (cons_ne_name_append (.inr rfl) _ _ _)
  | t :: ts, u :: us =>
    rw [listed, listed, List.append_assoc, List.append_assoc] at h
    obtain ⟨rfl, others⟩ := name_append_inj h
    obtain ⟨rfl, same⟩ := further_append_inj others
    exact ⟨rfl, same⟩

/-- **Types between parentheses** are told from what stands behind them. -/
theorem tuple_append_inj {ts us : List ValueType} {rest rest' : List Char}
    (h : (tuple ts).toList ++ rest = (tuple us).toList ++ rest') : ts = us ∧ rest = rest' := by
  rw [toList_tuple_append, toList_tuple_append] at h
  exact listed_append_inj (List.cons.inj h).2

/-! ## Results -/

/-- The results that are written: `void` if there are none. -/
def shown (results : List ValueType) : List ValueType := if results = [] then [.void] else results

/-- What stands behind the arrow. -/
def outcome : List ValueType → String
  | [] => ValueType.void.name
  | [single] => single.name
  | several => tuple several

theorem text_eq (s : Signature) : s.text = tuple s.params ++ (" -> " ++ outcome s.results) := by
  rw [← String.append_assoc]
  rfl

theorem outcome_shown (results : List ValueType) : outcome (shown results) = outcome results := by
  cases results <;> rfl

theorem tuple_ne_name (types : List ValueType) (t : ValueType) : tuple types ≠ t.name := by
  intro h
  have chars : (tuple types).toList ++ [] = t.name.toList ++ [] := congrArg (·.toList ++ []) h
  rw [toList_tuple_append] at chars
  exact cons_ne_name_append (.inl rfl) _ t [] chars

/-- **Results that are written** can be told from each other: a parenthesis says that there are several. -/
theorem outcome_inj {ts us : List ValueType} (some : ts ≠ []) (some' : us ≠ []) (h : outcome ts = outcome us) :
    ts = us := by
  match ts, us with
  | [t], [u] => rw [name_inj h]
  | [t], u :: u' :: us => exact absurd h.symm (tuple_ne_name _ _)
  | t :: t' :: ts, [u] => exact absurd h (tuple_ne_name _ _)
  | t :: t' :: ts, u :: u' :: us => exact (tuple_append_inj (congrArg (·.toList ++ []) h)).1

theorem shown_ne_nil (results : List ValueType) : shown results ≠ [] := by
  cases results <;> nofun

/-- **Results that are written alike** are the same, or there is nothing to see of either. -/
theorem shown_eq_iff {ts us : List ValueType} :
    shown ts = shown us ↔ ts = us ∨ (ts = [] ∨ ts = [.void]) ∧ (us = [] ∨ us = [.void]) := by
  unfold shown
  grind

theorem head_shown (results : List ValueType) : (shown results).headD .void = results.headD .void := by
  cases results <;> rfl

/-! ## Signatures -/

/-- A text is made of the parameters and of the results that are written. -/
theorem text_eq_iff_shown {s t : Signature} :
    s.text = t.text ↔ s.params = t.params ∧ shown s.results = shown t.results := by
  constructor
  · intro same
    rw [text_eq, text_eq, ← String.toList_inj, String.toList_append, String.toList_append (s := tuple t.params)] at same
    obtain ⟨params, behind⟩ := tuple_append_inj same
    rw [String.toList_inj, String.append_right_inj, ← outcome_shown s.results, ← outcome_shown t.results] at behind
    exact ⟨params, outcome_inj (shown_ne_nil _) (shown_ne_nil _) behind⟩
  · rintro ⟨params, results⟩
    rw [text_eq, text_eq, params, ← outcome_shown s.results, results, outcome_shown]

/-- **What the text of a signature says**: all parameters, and all results unless these are none or `void` alone. So it
is the only signature with this text that has no `void` among its results, and all that have it return the same type. -/
theorem text_eq_iff (s t : Signature) :
    (s.text = t.text ↔ s.params = t.params ∧ (s.results = t.results ∨
        (s.results = [] ∨ s.results = [.void]) ∧ (t.results = [] ∨ t.results = [.void]))) ∧
      (.void ∉ s.results → .void ∉ t.results → s.text = t.text → s = t) ∧
        (s.text = t.text → s.returnType = t.returnType) := by
  refine ⟨by rw [text_eq_iff_shown, shown_eq_iff], fun seen seen' same => ?_, fun same => ?_⟩
  · obtain ⟨params, results⟩ := text_eq_iff_shown.1 same
    have results : s.results = t.results := by
      rcases shown_eq_iff.1 results with same | ⟨none | void, none' | void'⟩
      · exact same
      · rw [none, none']
      · exact absurd (void' ▸ List.mem_singleton_self _) seen'
      · exact absurd (void ▸ List.mem_singleton_self _) seen
      · exact absurd (void ▸ List.mem_singleton_self _) seen
    cases s
    cases t
    cases params
    cases results
    rfl
  · have results := (text_eq_iff_shown.1 same).2
    rw [returnType, returnType, ← head_shown s.results, results, head_shown]

/-- Two signatures share a text, and both return nothing; without `void` among results, no two do. -/
theorem text_eq_iff_void :
    ((⟨[.i32], []⟩ : Signature).text = (⟨[.i32], [.void]⟩ : Signature).text ∧
      (⟨[.i32], []⟩ : Signature).returnType = (⟨[.i32], [.void]⟩ : Signature).returnType) ∧
    (.void ∉ [ValueType.i32, .i64] ∧ .void ∉ [ValueType.i64] ∧
      (⟨[.f64], [.i32, .i64]⟩ : Signature).text ≠ (⟨[.f64, .i32], [.i64]⟩ : Signature).text) := by
  have nothing : (⟨[.i32], []⟩ : Signature).text = (⟨[.i32], [.void]⟩ : Signature).text := by decide
  have several : .void ∉ [ValueType.i32, .i64] := by decide
  have single : .void ∉ [ValueType.i64] := by decide
  have different : (⟨[.f64], [.i32, .i64]⟩ : Signature) ≠ ⟨[.f64, .i32], [.i64]⟩ := by decide
  exact ⟨⟨nothing, (text_eq_iff ⟨[.i32], []⟩ ⟨[.i32], [.void]⟩).2.2 nothing⟩,
    several, single, mt ((text_eq_iff _ _).2.1 several single) different⟩

end Signature

end WasmLens
