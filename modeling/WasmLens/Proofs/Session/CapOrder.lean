import WasmLens.Proofs.Session.MemoryCap

/-!
# Caps of different heights

Declaring the memory of a module goes on to work when the cap is raised, and the plan stays as it is but for
how far the memory may grow (`declareMemory_raised`). Only a cap that overreaches, which becomes the maximum
of a memory whose addresses do not reach it, breaks this: such a memory can be declared under a lower cap
and under none, and some of these caps make the host give up (`raised_beyond`).
-/
namespace WasmLens.Session

open Wasm Machine LinearMemory CompiledModule

/-! ## The order of caps -/

/-- A cap is not above another one; none is above all. -/
def CapLe (cap cap' : Option Nat) : Prop := ∀ c' ∈ cap', ∃ c ∈ cap, c ≤ c'

/-- The host would create the first memory of a module with a cap for its maximum that its addresses do not
reach. -/
def Overreaches (cap : Option Nat) (o : Outline) : Prop :=
  ∃ memory, o.primaryMemory? = some memory ∧ o.isImportedMemory 0 ∧ ∃ c ∈ cap, Overreached memory c

/-- How many pages a planned memory may come to have. -/
def MemoryPlan.reach (p : MemoryPlan) : Nat := effectiveMaximum p.maximum p.is64

/-- The first plan is the second one with its memory kept below a cap. -/
structure Lowers (cap : Option Nat) (p p' : MemoryPlan) : Prop where
  minimum : p.minimum = p'.minimum
  is64 : p.is64 = p'.is64
  isImported : p.isImported = p'.isImported
  maximum : CapLe p.maximum p'.maximum
  reach : ∀ n, n ≤ p.reach ↔ n ≤ p'.reach ∧ ∀ c ∈ cap, n ≤ c

variable {cap cap' : Option Nat} {o : Outline}

/-- **Raising a cap** keeps a memory declarable, unless the raised cap overreaches. -/
theorem CanDeclare.raised_iff (can : CanDeclare cap o) (le : CapLe cap cap') :
    CanDeclare cap' o ↔ ¬Overreaches cap' o := by
  constructor
  · rintro can' ⟨memory, primary, foreign, c, here, past⟩
    exact ((can' memory primary).2 foreign).2.2 c here past
  · intro never memory primary
    obtain ⟨under, foreign⟩ := can memory primary
    refine ⟨fun c' here => ?_, fun imported => ?_⟩
    · obtain ⟨c, lower, below⟩ := le c' here
      exact Nat.le_trans (under c lower) below
    · obtain ⟨unshared, fits, _⟩ := foreign imported
      exact ⟨unshared, fits, fun c here past => never ⟨memory, primary, imported, c, here, past⟩⟩

/-- A lower cap lowers the maximum. -/
theorem capLe_lowered (le : CapLe cap cap') (maximum : Option Nat) :
    CapLe (MemoryPlan.lowered maximum cap) (MemoryPlan.lowered maximum cap') := by
  intro n' here
  cases cap' with
  | none =>
    cases maximum with
    | none => cases here
    | some n =>
      obtain rfl : n = n' := Option.some.inj here
      cases cap with
      | none => exact ⟨n, rfl, Nat.le_refl n⟩
      | some c => exact ⟨min n c, rfl, Nat.min_le_left n c⟩
  | some c' =>
    obtain ⟨c, rfl, below⟩ := le c' rfl
    cases maximum with
    | none =>
      obtain rfl : c' = n' := Option.some.inj here
      exact ⟨c, rfl, below⟩
    | some n =>
      obtain rfl : min n c' = n' := Option.some.inj here
      exact ⟨min n c, rfl, by omega⟩

/-- A lower cap lowers what the memory may come to have down to the cap. -/
theorem le_reach_lowered_iff (le : CapLe cap cap') (maximum : Option Nat) (is64 : Bool) (n : Nat) :
    n ≤ effectiveMaximum (MemoryPlan.lowered maximum cap) is64 ↔
      n ≤ effectiveMaximum (MemoryPlan.lowered maximum cap') is64 ∧ ∀ c ∈ cap, n ≤ c := by
  simp only [MemoryPlan.le_effectiveMaximum_lowered_iff, and_assoc]
  refine and_congr_right fun _ => (and_iff_right_of_imp fun below c' here => ?_).symm
  obtain ⟨c, lower, under⟩ := le c' here
  exact Nat.le_trans (below c lower) under

theorem planUnder_lowers (le : CapLe cap cap') (o : Outline) :
    Option.Rel (Lowers cap) (planUnder cap o) (planUnder cap' o) := by
  unfold planUnder
  cases o.primaryMemory? with
  | none => exact .none
  | some memory =>
    exact .some ⟨rfl, rfl, rfl, capLe_lowered le memory.maximum,
      le_reach_lowered_iff le memory.maximum memory.is64⟩

/-! ## Compiling under another cap -/

section

variable {c : Config} {bytes : List UInt8} {m : CompiledModule} {s : Session}

/-- What a module compiles to has the cap in its configuration only. -/
theorem ofBytes_recapped (h : ofBytes c bytes = .ok m) (cap' : Option UInt64) :
    ofBytes { c with maxMemoryPages := cap' } bytes =
      .ok { m with config := { c with maxMemoryPages := cap' } } := by
  simp only [ofBytes, bind_eq_ok_iff] at h ⊢
  obtain ⟨r, read, exposed, exposes, contents, loads, h⟩ := h
  refine ⟨r, read, exposed, exposes, contents, loads, ?_⟩
  split at h
  · cases h
    rfl
  · cases h

/-- A module that compiles does so under any other cap that allows pages. -/
theorem compile_recapped (h : compile c bytes = .ok s) {cap' : Option UInt64} (allows : cap' ≠ some 0) :
    compile { c with maxMemoryPages := cap' } bytes =
      .ok (ofModule { s.module with config := { c with maxMemoryPages := cap' } }) := by
  obtain ⟨⟨⟩, checked, h⟩ := bind_eq_ok_iff.1 h
  obtain ⟨m, compiled, ⟨⟩⟩ := bind_eq_ok_iff.1 h
  have checked : checkConfig { c with maxMemoryPages := cap' } = .ok () := by
    unfold checkConfig Config.validate at checked ⊢
    split at checked
    · rename_i consistent
      rcases ite_eq_ok_iff.1 consistent with ⟨_, wrong⟩ | ⟨together, _⟩
      · cases wrong
      · simp only [together, Bool.false_eq_true, if_false, allows]
    · cases checked
  unfold compile
  rw [checked, ofBytes_recapped compiled]
  rfl

end

/-! ## Giving up -/

section

variable {contents : List Content} {m : CompiledModule} {i : Imports} {store : Store}

/-- Only a maximum that can be expressed and not be reached makes the host give up on a plan. -/
theorem create_unaddressable_iff {plan : MemoryPlan} {limit : Option Nat} :
    plan.create limit = .error .unaddressable ↔ plan.isInexpressible = false ∧ plan.isUnaddressable := by
  unfold MemoryPlan.create
  cases plan.isInexpressible <;> cases plan.isUnaddressable <;> cases canStart limit plan.is64 plan.minimum <;> simp

/-- Only the creation of a memory makes the host give up on declaring it. -/
theorem declareMemory_gives_up_iff (first : i.memory = none) {memory : MemoryInfo}
    (primary : m.outline.primaryMemory? = some memory) :
    i.declareMemory store m = .error .unaddressable ↔
      m.outline.isImportedMemory 0 ∧ memory.isShared = false ∧
        ∃ plan, MemoryPlan.ofMemory memory true m.config.pageCap = .ok plan ∧
          plan.create store.memoryLimit = .error .unaddressable := by
  simp only [Imports.declareMemory, first, primary, Option.isSome_none, Bool.false_eq_true, if_false]
  cases planned : MemoryPlan.ofMemory memory (m.outline.isImportedMemory 0) m.config.pageCap with
  | error cause =>
    refine iff_of_false (by rintro ⟨⟩) ?_
    rintro ⟨foreign, _, plan, planned', _⟩
    rw [foreign, planned'] at planned
    cases planned
  | ok plan =>
    have isImported : plan.isImported = m.outline.isImportedMemory 0 := by
      rw [(MemoryPlan.ofMemory_ok_iff.1 planned).2]
    change (if !plan.isImported then _ else if memory.isShared then _ else plan.create store.memoryLimit >>= _) = _ ↔ _
    rw [isImported]
    cases foreign : m.outline.isImportedMemory 0 with
    | false => exact iff_of_false (by rintro ⟨⟩) fun ⟨imported, _⟩ => Bool.false_ne_true imported
    | true =>
      rw [foreign] at planned
      simp only [Bool.not_true, Bool.false_eq_true, if_false]
      cases shared : memory.isShared with
      | true => exact iff_of_false (by rintro ⟨⟩) fun ⟨_, unshared, _⟩ => Bool.false_ne_true unshared.symm
      | false =>
        simp only [Bool.false_eq_true, if_false, true_and, planned, Except.ok.injEq, exists_eq_left']
        constructor
        · intro h
          rcases bind_eq_error_iff.1 h with made | ⟨_, _, h⟩
          · exact made
          · cases h
        · exact fun made => bind_eq_error_iff.2 (.inl made)

/-- **When the host gives up** on a memory: a 32-bit memory type can express the cap, and its addresses do not
reach it. -/
theorem declareMemory_unaddressable_iff (coherent : Coherent contents m) (first : i.memory = none) :
    i.declareMemory store m = .error .unaddressable ↔
      Overreaches m.config.pageCap m.outline ∧ ∀ c ∈ m.config.pageCap, c < twoTo 32 := by
  cases primary : m.outline.primaryMemory? with
  | none =>
    simp [Imports.declareMemory, first, primary, Overreaches]
  | some memory =>
    obtain ⟨t, sound, rfl⟩ := primaryMemory_sound coherent primary
    simp only [declareMemory_gives_up_iff first primary, create_unaddressable_iff]
    constructor
    · rintro ⟨foreign, _, plan, planned, expressible, far⟩
      obtain ⟨inexpressible, unaddressable⟩ := overreached_iff sound planned
      obtain ⟨c, here, past⟩ := unaddressable.1 far
      refine ⟨⟨_, primary, foreign, c, here, past⟩, fun c' same => Nat.lt_of_not_le fun wide => ?_⟩
      obtain rfl := Option.mem_unique here same
      exact Bool.not_eq_true _ ▸ expressible <| inexpressible.2 ⟨c, here, past, wide⟩
    · rintro ⟨⟨_, same, foreign, c, here, past⟩, narrow⟩
      cases primary.symm.trans same
      -- whoever asks for so many pages has room for the least number
      have under : ∀ c ∈ m.config.pageCap, t.limits.minimum ≤ c := fun c' same => by
        obtain rfl := Option.mem_unique here same
        have minimum := sound.minimum
        rw [show t.is64 = false from past.1] at minimum
        exact Nat.le_trans minimum (Nat.le_of_lt past.2.2)
      obtain ⟨plan, planned⟩ := (ofMemory_capped_iff sound true).2 under
      obtain ⟨inexpressible, unaddressable⟩ := overreached_iff sound planned
      refine ⟨foreign, sound.shared past.2.1, plan, planned, Bool.not_eq_true _ ▸ fun wide => ?_,
        unaddressable.2 ⟨c, here, past⟩⟩
      obtain ⟨c', same, _, far⟩ := inexpressible.1 wide
      exact Nat.not_lt.2 far (narrow c' same)

end

/-! ## Fresh sessions -/

section

variable {contents : List Content} {c : Config} {bytes : List UInt8} {m : CompiledModule} {s : Session}

theorem ofModule_declares_iff (coherent : Coherent contents m) :
    (∃ plan, ((ofModule m).perform .declareMemory).2 = .ok (.plan plan)) ↔ CanDeclare m.config.pageCap m.outline :=
  (perform_declareMemory_iff rfl).trans (declaresMemory_capped_iff coherent rfl rfl)

theorem ofModule_gives_up_iff (coherent : Coherent contents m) :
    ((ofModule m).perform .declareMemory).2 = .error .unaddressable ↔
      Overreaches m.config.pageCap m.outline ∧ ∀ c ∈ m.config.pageCap, c < twoTo 32 :=
  (perform_declareMemory_unaddressable_iff rfl).trans (declareMemory_unaddressable_iff coherent rfl)

theorem ofModule_plan {plan : Option MemoryPlan}
    (answered : ((ofModule m).perform .declareMemory).2 = .ok (.plan plan)) :
    plan = planUnder m.config.pageCap m.outline := by
  obtain ⟨i', s', declares, rfl⟩ := (perform_declareMemory_eq_iff rfl).1 answered
  exact declares.plan rfl

/-- **Raising the cap.** A module that compiles can have its memory declared at first if there is room for it
below the cap and the cap does not overreach; one that does makes the host give up if a 32-bit memory type can
express it. What can be declared under a cap can be under any higher cap that does not overreach, so always
under none, and what the memory may come to have is then only lowered by the cap. -/
theorem declareMemory_raised (h : compile c bytes = .ok s) :
    ((∃ plan, (s.perform .declareMemory).2 = .ok (.plan plan)) ↔ CanDeclare c.pageCap s.module.outline) ∧
    ((s.perform .declareMemory).2 = .error .unaddressable ↔
      Overreaches c.pageCap s.module.outline ∧ ∀ n ∈ c.pageCap, n < twoTo 32) ∧
    ∀ plan, (s.perform .declareMemory).2 = .ok (.plan plan) → ∀ cap' : Option UInt64, cap' ≠ some 0 →
      CapLe c.pageCap (cap'.map UInt64.toNat) → ∃ s', compile { c with maxMemoryPages := cap' } bytes = .ok s' ∧
        ((∃ plan', (s'.perform .declareMemory).2 = .ok (.plan plan')) ↔
          ¬Overreaches (cap'.map UInt64.toNat) s.module.outline) ∧
        ∀ plan', (s'.perform .declareMemory).2 = .ok (.plan plan') → Option.Rel (Lowers c.pageCap) plan plan' := by
  obtain ⟨r, m, compiles, rfl⟩ := compile_ok h
  have can := ofModule_declares_iff compiles.coherent
  have gives := ofModule_gives_up_iff compiles.coherent
  rw [compiles.config] at can gives
  refine ⟨can, gives, fun plan answered cap' allows le => ?_⟩
  have compiled := compile_recapped h allows
  refine ⟨_, compiled, ?_, fun plan' answered' => ?_⟩
  · obtain ⟨r', m', compiles', same⟩ := compile_ok compiled
    obtain rfl : _ = m' := congrArg Session.module same
    exact (ofModule_declares_iff compiles'.coherent).trans ((can.1 ⟨plan, answered⟩).raised_iff le)
  · rw [ofModule_plan answered, ofModule_plan answered', compiles.config]
    exact planUnder_lowers le m.outline

/-- The highest cap that 32-bit addresses reach. -/
theorem declareMemory_raised_onePage :
    ∃ s', compile { maxMemoryPages := some 65536 } onePageModule = .ok s' ∧
      (∃ plan', (s'.perform .declareMemory).2 = .ok (.plan plan')) ∧
      ∀ plan', (s'.perform .declareMemory).2 = .ok (.plan plan') →
        Option.Rel (Lowers (some 100)) (some ⟨1, some 100, false, true⟩) plan' := by
  obtain ⟨s, compiled, memories, answered⟩ : ∃ s, compile { maxMemoryPages := some 100 } onePageModule = .ok s ∧
      s.module.outline.memories = [⟨1, none, false, false⟩] ∧
      (s.perform .declareMemory).2 = .ok (.plan (some ⟨1, some 100, false, true⟩)) := by decide +kernel
  have le : CapLe (some 100) (some 65536) := fun c' here => ⟨100, rfl, Option.some.inj here ▸ by decide⟩
  obtain ⟨s', compiled', can, lowers⟩ := (declareMemory_raised compiled).2.2 _ answered (some 65536) (by decide) le
  refine ⟨s', compiled', can.2 ?_, lowers⟩
  rintro ⟨memory, primary, _, c, here, past⟩
  obtain rfl : 65536 = c := Option.some.inj here
  exact Nat.lt_irrefl _ past.2.2

/-- **One page more** than 32-bit addresses reach makes the host give up on a memory of one page. -/
theorem raised_beyond :
    (∃ s, compile { maxMemoryPages := some 65536 } onePageModule = .ok s ∧
      (s.perform .declareMemory).2 = .ok (.plan (some ⟨1, some 65536, false, true⟩))) ∧
    ∃ s, compile { maxMemoryPages := some 65537 } onePageModule = .ok s ∧
      (s.perform .declareMemory).2 = .error .unaddressable := by
  constructor <;> decide +kernel

end

end WasmLens.Session
