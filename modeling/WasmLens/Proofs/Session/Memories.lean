import WasmLens.Proofs.Machine.Memories
import WasmLens.Proofs.Outcome
import WasmLens.Session.Basic

/-!
# Declaring a memory

`Imports.DeclaresMemory` lists all that declaring the first memory of a module can come to. The maximum of a
memory that the host creates is lowered to the cap, which changes nothing of how far it grows up to the cap
(`lowered_follows`).
-/
namespace WasmLens.Session

open Machine LinearMemory

namespace MemoryPlan

variable {memory : MemoryInfo} {isImported : Bool} {cap : Option Nat} {plan : MemoryPlan}

/-- A plan is made of a memory that fits under the cap. -/
theorem ofMemory_ok_iff : ofMemory memory isImported cap = .ok plan ↔
    (∀ n, lowered memory.maximum cap = some n → memory.minimum ≤ n) ∧
      plan = ⟨memory.minimum, lowered memory.maximum cap, memory.is64, isImported⟩ := by
  unfold ofMemory
  cases lowered memory.maximum cap with
  | none => simp [eq_comm]
  | some n =>
    rcases Nat.lt_or_ge n memory.minimum with below | room
    · simp only [Option.filter_some, below, decide_true, if_true, reduceCtorEq, Option.some.injEq,
        forall_eq', false_iff, not_and]
      exact fun room => absurd below (Nat.not_lt.2 room)
    · simp only [Option.filter_some, Nat.not_lt.2 room, decide_false, Bool.false_eq_true, if_false,
        Except.ok.injEq, Option.some.injEq, forall_eq', room, true_and, eq_comm]

/-- A memory is created if its limits can be expressed and the store has room for it. -/
theorem create_ok_iff {limit : Option Nat} {m : LinearMemory} : plan.create limit = .ok m ↔
    plan.isInexpressible = false ∧ plan.isUnaddressable = false ∧
      canStart limit plan.is64 plan.minimum ∧ m = ofLimits plan.minimum plan.maximum plan.is64 := by
  unfold create
  cases plan.isInexpressible <;> cases plan.isUnaddressable <;>
    cases canStart limit plan.is64 plan.minimum <;> simp [eq_comm]

/-- A memory may have so many pages under a cap if they are below the cap, too. -/
theorem le_effectiveMaximum_lowered_iff {maximum : Option Nat} {is64 : Bool} {n : Nat} :
    n ≤ effectiveMaximum (lowered maximum cap) is64 ↔ n ≤ effectiveMaximum maximum is64 ∧ ∀ c ∈ cap, n ≤ c := by
  simp only [le_effectiveMaximum_iff, and_assoc]
  refine and_congr_right fun _ => ?_
  cases maximum with
  | none => cases cap <;> simp [lowered]
  | some most =>
    cases cap with
    | none => simp [lowered]
    | some c => simp only [lowered, Option.mem_def, Option.some.injEq, forall_eq', Nat.le_min]

/-- **The cap lowers a maximum** only to where the memory could not have grown anyway. -/
theorem lowered_follows {created : LinearMemory}
    (is : created = ofLimits memory.minimum (lowered memory.maximum cap) memory.is64)
    (reached : memory.minimum ≤ addressable memory.is64)
    (room : ∀ n, lowered memory.maximum cap = some n → memory.minimum ≤ n) :
    created.Follows cap memory := by
  subst is
  refine ⟨rfl, Nat.le_of_eq (pages_ofLimits _ _ _).symm, ?_, fun n under => ?_⟩
  · rw [pages_ofLimits, maximum_ofLimits, le_effectiveMaximum_iff]
    exact ⟨reached, room⟩
  · rw [maximum_ofLimits, le_effectiveMaximum_lowered_iff]
    exact and_iff_left under

end MemoryPlan

namespace Imports

variable {i i' : Imports} {s s' : Store} {m : CompiledModule}

/-- All that declaring the first memory can come to. -/
inductive DeclaresMemory (i : Imports) (s : Store) (m : CompiledModule) : Imports → Store → Prop
  | again (already : i.memory.isSome) : DeclaresMemory i s m i s
  | absent (first : i.memory = none) (none : m.outline.primaryMemory? = none) :
      DeclaresMemory i s m { i with memory := some .absent } s
  | defined {memory : MemoryInfo} {plan : MemoryPlan} (first : i.memory = none)
      (primary : m.outline.primaryMemory? = some memory) (own : m.outline.isImportedMemory 0 = false)
      (planned : MemoryPlan.ofMemory memory false m.config.pageCap = .ok plan) :
      DeclaresMemory i s m { i with memory := some (.defined plan) } s
  | imported {memory : MemoryInfo} {plan : MemoryPlan} {created : LinearMemory} (first : i.memory = none)
      (primary : m.outline.primaryMemory? = some memory) (foreign : m.outline.isImportedMemory 0)
      (planned : MemoryPlan.ofMemory memory true m.config.pageCap = .ok plan) (unshared : memory.isShared = false)
      (made : plan.create s.memoryLimit = .ok created) :
      DeclaresMemory i s m { i with memory := some (.imported plan) } { s with memories := #[created] }

theorem declareMemory_declares (h : i.declareMemory s m = .ok (i', s')) : DeclaresMemory i s m i' s' := by
  unfold declareMemory at h
  split at h
  · rename_i already
    cases h
    exact .again already
  · rename_i first
    rw [Option.not_isSome_iff_eq_none] at first
    split at h
    · rename_i none
      cases h
      exact .absent first none
    · rename_i memory primary
      obtain ⟨plan, planned, h⟩ := bind_eq_ok_iff.1 h
      have planned := mapError_eq_ok planned
      have isImported : plan.isImported = m.outline.isImportedMemory 0 := by
        rw [(MemoryPlan.ofMemory_ok_iff.1 planned).2]
      cases foreign : m.outline.isImportedMemory 0 with
      | false =>
        rw [foreign] at planned isImported
        simp only [isImported, Bool.not_false, if_true] at h
        cases h
        exact .defined first primary foreign planned
      | true =>
        rw [foreign] at planned isImported
        simp only [isImported, Bool.not_true, Bool.false_eq_true, if_false] at h
        rcases ite_eq_ok_iff.1 h with ⟨_, refused⟩ | ⟨unshared, h⟩
        · cases refused
        · obtain ⟨created, made, eq⟩ := bind_eq_ok_iff.1 h
          cases eq
          exact .imported first primary foreign planned (Bool.not_eq_true _ ▸ unshared) made

/-- **Whatever is in the list happens.** -/
theorem DeclaresMemory.declareMemory (h : DeclaresMemory i s m i' s') : i.declareMemory s m = .ok (i', s') := by
  unfold Imports.declareMemory
  cases h with
  | again already => rw [if_pos already]
  | absent first none => simp only [first, none, Option.isSome_none, Bool.false_eq_true, if_false]
  | defined first primary own planned =>
    have isImported := congrArg MemoryPlan.isImported (MemoryPlan.ofMemory_ok_iff.1 planned).2
    simp only [first, primary, own, planned, Option.isSome_none, Bool.false_eq_true, if_false]
    exact if_pos (Bool.not_eq_true' _ ▸ isImported)
  | imported first primary foreign planned unshared made =>
    have isImported := congrArg MemoryPlan.isImported (MemoryPlan.ofMemory_ok_iff.1 planned).2
    simp only [first, primary, foreign, planned, unshared, Option.isSome_none, Bool.false_eq_true, if_false]
    refine bind_eq_ok_iff.2 ⟨_, rfl, ?_⟩
    simp only [isImported, Bool.not_true, Bool.false_eq_true, if_false, made]
    rfl

end Imports

end WasmLens.Session
