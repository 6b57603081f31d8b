import Mathlib.Order.Bounds.Basic
import WasmLens.Module.MemoryExport

/-!
# The reserved name

The name of the added export is searched among **candidates**: the base name with more and more underscores
behind it. `Searches` is the search turn by turn, with nothing that bounds it. Where it ends, it ends at the
first candidate that is free, after one turn for each underscore (`Searches.eq_candidate`, `Searches.least`).
That it ends rests on the rivals of a name, the exports that it can still clash with: every turn leaves one of
them behind, so there are **no more turns than exports** (`searches_freeName`).
-/
namespace WasmLens.MemoryExport

variable {o : Outline} {name found : String} {turns : Nat}

/-! ## Candidates -/

/-- A name with some underscores behind it. -/
def candidate (name : String) (underscores : Nat) : String := name.pushn '_' underscores

theorem candidate_zero (name : String) : candidate name 0 = name := rfl

theorem candidate_succ (name : String) (n : Nat) :
    candidate name (n + 1) = (candidate name n).push '_' := by
  simp only [candidate, String.pushn_eq_repeat_push, Nat.repeat]

theorem candidate_push (name : String) (n : Nat) : candidate (name.push '_') n = candidate name (n + 1) := by
  induction n with
  | zero => rw [candidate_succ, candidate_zero, candidate_zero]
  | succ n ih => rw [candidate_succ, ih, ← candidate_succ]

theorem exportsName_iff : o.exportsName name ↔ name ∈ o.exports.map (·.name) := by
  simp [Outline.exportsName]

/-! ## The search -/

/-- **The search turn by turn**: from a name, after some turns, to the name that it finds. A name that is
exported takes another turn, from the name with one more underscore. -/
inductive Searches (o : Outline) : (turns : Nat) → (name found : String) → Prop
  | free {name : String} (free : ¬o.exportsName name) : Searches o 0 name name
  | taken {turns : Nat} {name found : String} (taken : o.exportsName name)
      (further : Searches o turns (name.push '_') found) : Searches o (turns + 1) name found

/-- A search finds the name with one underscore for each turn. -/
theorem Searches.eq_candidate (search : Searches o turns name found) : found = candidate name turns := by
  induction search with
  | free => rfl
  | taken _ _ ih => rw [ih, candidate_push]

/-- **A search stops at the first candidate that is free.** -/
theorem Searches.least (search : Searches o turns name found) :
    IsLeast {n | candidate name n ∉ o.exports.map (·.name)} turns := by
  induction search with
  | free free => exact ⟨fun mem => free (exportsName_iff.2 mem), fun n _ => Nat.zero_le n⟩
  | taken taken _ ih =>
    simp only [candidate_push] at ih
    refine ⟨ih.1, fun n free => ?_⟩
    cases n with
    | zero => exact absurd (exportsName_iff.1 taken) free
    | succ n => exact Nat.succ_le_succ (ih.2 free)

/-- A search can go only one way. -/
theorem Searches.unique {turns' : Nat} {found' : String} (search : Searches o turns name found)
    (other : Searches o turns' name found') : turns' = turns ∧ found' = found := by
  obtain rfl := search.least.unique other.least
  exact ⟨rfl, other.eq_candidate.trans search.eq_candidate.symm⟩

/-- **Every search ends**, in no more turns than the name has rivals. -/
theorem searches_freeName (o : Outline) (name : String) :
    ∃ turns ≤ (rivals o name).length, Searches o turns name (freeName o name) := by
  fun_induction freeName o name with
  | case1 name taken ih =>
    obtain ⟨turns, le, further⟩ := ih
    -- this turn is paid for by the export that has the name: it is no rival of the longer one
    have fewer := length_rivals_push_lt taken '_'
    exact ⟨turns + 1, by omega, .taken taken further⟩
  | case2 name free => exact ⟨0, Nat.zero_le _, .free free⟩

/-! ## The name that is found -/

theorem reservedName_free (o : Outline) : reservedName o ∉ o.exports.map (·.name) := by
  obtain ⟨turns, _, search⟩ := searches_freeName o baseName
  rw [reservedName, search.eq_candidate]
  exact search.least.1

/-- **The search for the reserved name ends**, after at most as many turns as there are exports, and the
reserved name is what it finds: the base name with the fewest underscores with which nothing is exported. -/
theorem reservedName_least (o : Outline) :
    ∃ turns ≤ o.exports.length,
      (∀ n found, Searches o n baseName found ↔ n = turns ∧ found = reservedName o) ∧
      reservedName o = candidate baseName turns ∧
      IsLeast {n | candidate baseName n ∉ o.exports.map (·.name)} turns ∧
      reservedName o ∉ o.exports.map (·.name) := by
  obtain ⟨turns, le, search⟩ := searches_freeName o baseName
  have few : (rivals o baseName).length ≤ o.exports.length := List.length_filter_le ..
  refine ⟨turns, Nat.le_trans le few, fun n found => ?_, search.eq_candidate, search.least,
    reservedName_free o⟩
  constructor
  · exact search.unique
  · rintro ⟨rfl, rfl⟩
    exact search

/-- Exports of any kind count, and the search passes over no free name for a later one. -/
example : reservedName
    { exports := [⟨baseName ++ "__", .global, 0⟩, ⟨"f", .function, 0⟩, ⟨baseName, .table, 0⟩] } =
      baseName ++ "_" := by
  decide +kernel

end WasmLens.MemoryExport
