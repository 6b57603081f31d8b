import WasmLens.Module.Outline
import WasmLens.Proofs.Machine.Instantiate
import WasmLens.Proofs.Machine.Run

/-!
# Sizes of memories

A memory never shrinks, and it keeps its maximum and the width of its addresses; it gets more pages only
where the limit of the store and the maximum allow it. `Store.Houses` says so of all memories that a module
declares, and **every operator keeps it** (`Changes.houses`).
-/
namespace WasmLens.Machine

open Wasm Memory

namespace LinearMemory

variable (m : LinearMemory)

@[simp] theorem pages_ofLimits (minimum : Nat) (maximum : Option Nat) (is64 : Bool) :
    (ofLimits minimum maximum is64).pages = minimum := by
  unfold pages ofLimits
  exact Buffer.pages_zeros minimum

@[simp] theorem maximum_ofLimits (minimum : Nat) (maximum : Option Nat) (is64 : Bool) :
    (ofLimits minimum maximum is64).maximum = effectiveMaximum maximum is64 := rfl

@[simp] theorem pages_grow (delta : Nat) : (m.grow delta).pages = m.pages + delta := by
  rw [pages, pages, grow, Buffer.pages_grow]

@[simp] theorem maximum_grow (delta : Nat) : (m.grow delta).maximum = m.maximum := by
  rw [maximum, maximum, grow]

@[simp] theorem is64_grow (delta : Nat) : (m.grow delta).is64 = m.is64 := by
  rw [grow]

/-- A memory may have so many pages if its addresses reach them and its maximum allows them. -/
theorem le_effectiveMaximum_iff {maximum : Option Nat} {is64 : Bool} {n : Nat} :
    n ≤ effectiveMaximum maximum is64 ↔ n ≤ addressable is64 ∧ ∀ most ∈ maximum, n ≤ most := by
  cases maximum with
  | none => simp [effectiveMaximum]
  | some most =>
    simp only [effectiveMaximum, Option.map_some, Option.getD_some, Nat.le_min, Option.mem_def, Option.some.injEq,
      forall_eq']

theorem reached_of_canStart {limit : Option Nat} {is64 : Bool} {n : Nat} (fits : canStart limit is64 n) :
    n ≤ addressable is64 := by
  simp only [canStart, Bool.and_eq_true, decide_eq_true_eq] at fits
  exact fits.2

/-- **A memory that grows** is as large as a memory may be from the start. -/
theorem canStart_of_canGrow {limit : Option Nat} {delta : Nat} (fits : canStart limit m.is64 m.pages)
    (can : m.canGrow limit delta) : canStart limit m.is64 (m.pages + delta) := by
  simp only [canGrow, Bool.or_eq_true, decide_eq_true_eq, Bool.and_eq_true] at can
  rcases can with rfl | ⟨within, room⟩
  · exact fits
  · simp only [canStart, within, Bool.true_and, decide_eq_true_eq]
    exact Nat.le_trans room m.reached

/-- What becomes of a memory in a store with a limit. -/
structure Becomes (limit : Option Nat) (m m' : LinearMemory) : Prop where
  is64 : m'.is64 = m.is64
  maximum : m'.maximum = m.maximum
  pages : m.pages ≤ m'.pages
  fits : canStart limit m.is64 m.pages → canStart limit m'.is64 m'.pages
  room : m.pages ≤ m.maximum → m'.pages ≤ m'.maximum

theorem Becomes.refl (limit : Option Nat) (m : LinearMemory) : Becomes limit m m :=
  ⟨rfl, rfl, Nat.le_refl _, id, id⟩

theorem Becomes.trans {limit : Option Nat} {m m' m'' : LinearMemory} (h : Becomes limit m m')
    (h' : Becomes limit m' m'') : Becomes limit m m'' where
  is64 := h'.is64.trans h.is64
  maximum := h'.maximum.trans h.maximum
  pages := Nat.le_trans h.pages h'.pages
  fits := h'.fits ∘ h.fits
  room := h'.room ∘ h.room

/-- A memory of the same extent is no other. -/
theorem Becomes.of_extent {limit : Option Nat} {m m' : LinearMemory} (h : m'.extent = m.extent) :
    Becomes limit m m' := by
  simp only [extent, Prod.mk.injEq] at h
  obtain ⟨pages, maximum, is64⟩ := h
  refine ⟨is64, maximum, Nat.le_of_eq pages.symm, ?_, ?_⟩
  · rw [is64, pages]
    exact id
  · rw [maximum, pages]
    exact id

theorem Becomes.grow {limit : Option Nat} {m : LinearMemory} {delta : Nat} (can : m.canGrow limit delta) :
    Becomes limit m (m.grow delta) where
  is64 := m.is64_grow delta
  maximum := m.maximum_grow delta
  pages := by
    rw [pages_grow]
    exact Nat.le_add_right _ _
  fits fits := by
    rw [is64_grow, pages_grow]
    exact m.canStart_of_canGrow fits can
  room inside := by
    simp only [canGrow, Bool.or_eq_true, decide_eq_true_eq, Bool.and_eq_true] at can
    rw [maximum_grow, pages_grow]
    rcases can with rfl | ⟨_, room⟩
    · exact inside
    · exact room

/-- How a memory belongs to what a module declares, under a cap on pages: it keeps to its own maximum, and up to
the cap it grows as far as the module lets it. -/
structure Follows (cap : Option Nat) (info : MemoryInfo) (m : LinearMemory) : Prop where
  is64 : m.is64 = info.is64
  minimum : info.minimum ≤ m.pages
  room : m.pages ≤ m.maximum
  maximum : ∀ n, (∀ c ∈ cap, n ≤ c) → (n ≤ m.maximum ↔ n ≤ effectiveMaximum info.maximum info.is64)

theorem Follows.becomes {cap limit : Option Nat} {info : MemoryInfo} {m m' : LinearMemory}
    (follows : Follows cap info m) (h : Becomes limit m m') : Follows cap info m' :=
  ⟨h.is64.trans follows.is64, Nat.le_trans follows.minimum h.pages, h.room follows.room, h.maximum ▸ follows.maximum⟩

end LinearMemory

namespace Store

open LinearMemory

/-- **How the memories of a store belong to declared ones**: each is no larger than the limit allows. -/
structure Houses (limit cap : Option Nat) (infos : List MemoryInfo) (s : Store) : Prop where
  memoryLimit : s.memoryLimit = limit
  each : ∀ (k : Nat) m, s.memories[k]? = some m →
    ∃ info, infos[k]? = some info ∧ canStart limit m.is64 m.pages ∧ m.Follows cap info

variable {limit cap : Option Nat} {infos : List MemoryInfo} {s s' : Store}

/-- Memories that have become others in their places. -/
theorem Houses.becomes (houses : Houses limit cap infos s) (same : s'.memoryLimit = s.memoryLimit)
    (become : ∀ (k : Nat) m', s'.memories[k]? = some m' →
      ∃ m, s.memories[k]? = some m ∧ Becomes limit m m') : Houses limit cap infos s' := by
  refine ⟨same.trans houses.memoryLimit, fun k m' found => ?_⟩
  obtain ⟨m, before, h⟩ := become k m' found
  obtain ⟨info, declared, fits, follows⟩ := houses.each k m before
  exact ⟨info, declared, h.fits fits, follows.becomes h⟩

theorem Alike.memory (h : s.Alike s') {k : Nat} {m' : LinearMemory} (found : s'.memories[k]? = some m') :
    ∃ m, s.memories[k]? = some m ∧ Becomes limit m m' := by
  have same := congrArg (·[k]?) h.extents
  simp only [Array.getElem?_map, found, Option.map_some] at same
  obtain ⟨m, before, extent⟩ := Option.map_eq_some_iff.1 same.symm
  exact ⟨m, before, .of_extent extent.symm⟩

theorem Alike.houses (h : s.Alike s') (houses : Houses limit cap infos s) : Houses limit cap infos s' :=
  houses.becomes h.memoryLimit fun _ _ => h.memory

theorem Alike.memories_size (h : s.Alike s') : s'.memories.size = s.memories.size := by
  simpa only [Array.size_map] using congrArg Array.size h.extents

/-- **What an operator makes of a memory.** -/
theorem Changes.memory {op : Operator} (h : s.Changes op s') {k : Nat} {m' : LinearMemory}
    (found : s'.memories[k]? = some m') : ∃ m, s.memories[k]? = some m ∧ Becomes s.memoryLimit m m' := by
  cases h with
  | nothing | sets | tables | elements | data => exact ⟨m', found, .refl _ m'⟩
  | writes there fits =>
    have written : s.Changes .nop _ := .writes there fits
    exact (written.alike nofun nofun).memory found
  | @grows memory delta grown there can =>
    simp only [Array.getElem?_modify] at found
    split at found
    · rename_i here
      subst here
      rw [there] at found
      cases found
      exact ⟨grown, there, .grow can⟩
    · exact ⟨m', found, .refl _ m'⟩

/-- **No operator** lets a memory outgrow the limit, or changes what it may grow to. -/
theorem Changes.houses {op : Operator} (h : s.Changes op s') (houses : Houses limit cap infos s) :
    Houses limit cap infos s' :=
  houses.becomes h.memoryLimit fun _ _ found => houses.memoryLimit ▸ h.memory found

theorem Changes.memories_size {op : Operator} (h : s.Changes op s') : s'.memories.size = s.memories.size := by
  cases h with
  | nothing | sets | tables | elements | data => rfl
  | writes | grows => exact Array.size_modify

/-- **Every memory of a store is still there** in another one, in its place. It may have grown. -/
structure Ages (s s' : Store) : Prop where
  memoryLimit : s'.memoryLimit = s.memoryLimit
  memory : ∀ (k : Nat) m, s.memories[k]? = some m →
    ∃ m', s'.memories[k]? = some m' ∧ Becomes s.memoryLimit m m'

theorem Ages.of_eq (limit : s'.memoryLimit = s.memoryLimit) (memories : s'.memories = s.memories) : s.Ages s' :=
  ⟨limit, fun _ m found => ⟨m, memories ▸ found, .refl _ m⟩⟩

theorem Ages.refl (s : Store) : s.Ages s := .of_eq rfl rfl

theorem Ages.trans {s'' : Store} (h : s.Ages s') (h' : s'.Ages s'') : s.Ages s'' := by
  refine ⟨h'.memoryLimit.trans h.memoryLimit, fun k m found => ?_⟩
  obtain ⟨m', there, becomes⟩ := h.memory k m found
  obtain ⟨m'', last, onward⟩ := h'.memory k m' there
  rw [h.memoryLimit] at onward
  exact ⟨m'', last, becomes.trans onward⟩

/-- Where no memory is lost, it is enough to know where those come from that are there in the end. -/
theorem Ages.of_memory (limit : s'.memoryLimit = s.memoryLimit) (size : s'.memories.size = s.memories.size)
    (memory : ∀ (k : Nat) m', s'.memories[k]? = some m' →
      ∃ m, s.memories[k]? = some m ∧ Becomes s.memoryLimit m m') : s.Ages s' := by
  refine ⟨limit, fun k m found => ?_⟩
  have inside : k < s'.memories.size := by
    rw [size]
    exact (Array.getElem?_eq_some_iff.1 found).1
  obtain ⟨m₀, before, becomes⟩ := memory k _ (Array.getElem?_eq_getElem inside)
  cases found.symm.trans before
  exact ⟨_, Array.getElem?_eq_getElem inside, becomes⟩

theorem Alike.ages (h : s.Alike s') : s.Ages s' := .of_memory h.memoryLimit h.memories_size fun _ _ => h.memory

theorem Changes.ages {op : Operator} (h : s.Changes op s') : s.Ages s' :=
  .of_memory h.memoryLimit h.memories_size fun _ _ => h.memory

end Store

/-! ## The memories that a module defines -/

/-- A module is not refused for its memories if each of them may start out as it is declared. -/
theorem oversized?_eq_none_iff {limit : Option Nat} {memories : List MemoryType} :
    oversized? limit memories = none ↔
      ∀ t ∈ memories, LinearMemory.canStart limit t.is64 t.limits.minimum := by
  simp only [oversized?, Option.map_eq_none_iff, List.find?_eq_none, Bool.not_eq_true', Bool.not_eq_false]

variable {s : Store} {externs : List Extern} {i : Image}

theorem allocate_memories :
    (allocate (bind s externs) i).memories = s.memories ++ (i.memories.map memoryOf) := by
  rw [allocate, addGlobals_eq]
  rfl

theorem allocate_memories_size :
    (allocate (bind s externs) i).memories.size = s.memories.size + i.memories.length := by
  rw [allocate_memories, ← Array.length_toList, Array.toList_appendList, List.length_append, List.length_map,
    Array.length_toList]

theorem allocate_memoryLimit : (allocate (bind s externs) i).memoryLimit = s.memoryLimit := by
  rw [allocate, addGlobals_eq]
  rfl

/-- What a module defines comes behind the memories that are there. -/
theorem allocate_ages : s.Ages (allocate (bind s externs) i) := by
  refine ⟨allocate_memoryLimit, fun k m found => ⟨m, ?_, .refl _ m⟩⟩
  have inside : k < s.memories.toList.length := (Array.getElem?_eq_some_iff.1 found).1
  rw [allocate_memories, ← Array.getElem?_toList, Array.toList_appendList, List.getElem?_append_left inside,
    Array.getElem?_toList, found]

/-- **Once a module is allocated**, its own memories stand behind those that are imported. -/
theorem allocate_houses {limit cap : Option Nat} {imported : List MemoryType}
    (houses : s.Houses limit cap ((imported ++ i.memories).map Outline.memoryInfo))
    (size : s.memories.size = imported.length) (sound : ∀ t ∈ i.memories, ∀ n ∈ t.limits.maximum, t.limits.minimum ≤ n)
    (small : oversized? s.memoryLimit i.memories = none) :
    (allocate (bind s externs) i).Houses limit cap ((imported ++ i.memories).map Outline.memoryInfo) := by
  refine ⟨?_, fun k m found => ?_⟩
  · rw [allocate_memoryLimit]
    exact houses.memoryLimit
  · rw [allocate_memories, ← Array.getElem?_toList, Array.toList_appendList] at found
    rcases Nat.lt_or_ge k s.memories.size with front | behind
    · rw [List.getElem?_append_left (by simpa using front), Array.getElem?_toList] at found
      exact houses.each k m found
    · rw [List.getElem?_append_right (by simpa using behind), List.getElem?_map] at found
      obtain ⟨t, own, rfl⟩ := Option.map_eq_some_iff.1 found
      have own : i.memories[k - imported.length]? = some t := by
        rw [← size]
        exact own
      have may := oversized?_eq_none_iff.1 small t (List.mem_of_getElem? own)
      have reached := LinearMemory.reached_of_canStart may
      rw [houses.memoryLimit] at may
      refine ⟨Outline.memoryInfo t, ?_, ?_, rfl, ?_, ?_, fun n _ => ?_⟩
      · rw [List.getElem?_map, List.getElem?_append_right (size ▸ behind), own, Option.map_some]
      · rw [memoryOf, LinearMemory.pages_ofLimits]
        exact may
      · rw [memoryOf, LinearMemory.pages_ofLimits]
        exact Nat.le_refl _
      · rw [memoryOf, LinearMemory.pages_ofLimits, LinearMemory.maximum_ofLimits, LinearMemory.le_effectiveMaximum_iff]
        exact ⟨reached, sound t (List.mem_of_getElem? own)⟩
      · rw [memoryOf, LinearMemory.maximum_ofLimits]
        exact Iff.rfl

end WasmLens.Machine
