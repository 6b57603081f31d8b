import WasmLens.Machine.Instantiate
import WasmLens.Proofs.Machine.Store

/-!
# What instantiation leaves behind

Instantiation binds the imported globals, adds to a store what the module defines, copies segments and runs
the start function. What the store held before stays in front of what is added (`Store.Extends`), and
copying segments changes nothing but contents (`placeSegments_alike`). So an instantiation that goes wrong
**before the start function runs has changed no global that was there** (`instantiate_trapped`), and one
that is refused has changed no memory either (`instantiate_unlinkable`).
-/
namespace WasmLens.Machine

open Wasm

/-! ## Stores that grow -/

namespace Store

/-- The memories and the globals of a store come first in another, with what they hold. -/
structure Extends (s s' : Store) : Prop where
  memories : s.memories.toList <+: s'.memories.toList
  globals : s.globals.toList <+: s'.globals.toList

theorem Extends.refl (s : Store) : s.Extends s := ⟨List.prefix_rfl, List.prefix_rfl⟩

end Store

theorem addGlobals_extends : ∀ (s : Store) (defined : List Global),
    s.globals.toList <+: (addGlobals s defined).globals.toList
  | _, [] => List.prefix_rfl
  | s, g :: defined => by
    refine List.IsPrefix.trans ?_ (addGlobals_extends _ defined)
    rw [define, Array.toList_push]
    exact List.prefix_append ..

/-- Defining globals touches nothing else. -/
theorem addGlobals_eq : ∀ (s : Store) (defined : List Global),
    addGlobals s defined = { s with
      globals := (addGlobals s defined).globals, bound := (addGlobals s defined).bound }
  | _, [] => rfl
  | s, g :: defined => addGlobals_eq (define s (cellOf s g)) defined

theorem allocate_extends (s : Store) (externs : List Extern) (i : Image) :
    s.Extends (allocate (bind s externs) i) := by
  refine ⟨?_, addGlobals_extends (bind s externs) i.globals⟩
  rw [allocate, addGlobals_eq, Array.toList_appendList]
  exact List.prefix_append ..

/-! ## Segments -/

theorem placeElements_alike (s : Store) (segment : Nat) (mode : SegmentMode) :
    s.Alike (placeElements s segment mode).store := by
  unfold placeElements
  split
  · exact .refl s
  · exact ⟨rfl, rfl, rfl, rfl, rfl⟩
  · split
    · rename_i table _ _ _ at_ items _ _
      have copied := (s.tableInit_changes [] (.tableInit segment table) segment table at_ 0
        items.length).alike nofun nofun
      split <;> rename_i done <;> rw [done] at copied
      · exact copied.trans ⟨rfl, rfl, rfl, rfl, rfl⟩
      · exact copied
    · exact .refl s

theorem placeData_alike (s : Store) (segment : Nat) (mode : SegmentMode) :
    s.Alike (placeData s segment mode).store := by
  unfold placeData
  split
  · split
    · rename_i memory _ _ _ at_ bytes _ _
      have copied := (s.memoryInit_changes [] (.memoryInit segment memory) segment memory at_ 0
        bytes.length).alike nofun nofun
      split <;> rename_i done <;> rw [done] at copied
      · exact copied.trans ⟨rfl, rfl, rfl, rfl, rfl⟩
      · exact copied
    · exact .refl s
  · exact .refl s

/-- Placing several segments changes contents only if placing each of them does. -/
theorem placeAll_alike {place : Store → Nat → SegmentMode → Effect}
    (keeps : ∀ (s : Store) segment mode, s.Alike (place s segment mode).store) :
    ∀ (modes : List SegmentMode) (s : Store) (segment : Nat), s.Alike (placeAll place s segment modes).store
  | [], s, _ => .refl s
  | mode :: modes, s, segment => by
    have kept := keeps s segment mode
    rw [placeAll]
    split <;> rename_i placed <;> rw [placed] at kept
    · exact kept.trans (placeAll_alike keeps modes _ _)
    · exact kept

theorem placeSegments_alike (s : Store) (i : Image) : s.Alike (placeSegments s i).store := by
  have kept := placeAll_alike placeElements_alike (i.elements.map (·.mode)) s 0
  unfold placeSegments
  split <;> rename_i placed <;> rw [placed] at kept
  · exact kept.trans (placeAll_alike placeData_alike _ _ _)
  · exact kept

/-! ## Instantiations that go wrong -/

variable {s s' : Store} {externs : List Extern} {i : Image} {p : Program} {bulkMemory : Bool}

/-- The store behind an instantiation, whatever has come of it. -/
def Instantiation.store : Instantiation → Store
  | .ready s | .unlinkable s _ | .trapped s _ => s

/-- **All ways of setting up an instance.** -/
inductive Prepares (s : Store) (externs : List Extern) (i : Image) (bulkMemory : Bool) : Instantiation → Prop where
  | oversized {minimum : Nat} (limit : oversized? s.memoryLimit i.memories = some minimum) :
      Prepares s externs i bulkMemory (.unlinkable s (.memoryLimit minimum))
  | elements (small : oversized? s.memoryLimit i.memories = none)
      (unfit : elementsFit (allocate (bind s externs) i) i = false) (old : bulkMemory = false) :
      Prepares s externs i bulkMemory (.unlinkable (allocate (bind s externs) i) .elementsDoNotFit)
  | data (small : oversized? s.memoryLimit i.memories = none)
      (unfit : dataFits (allocate (bind s externs) i) i = false) (old : bulkMemory = false) :
      Prepares s externs i bulkMemory (.unlinkable (allocate (bind s externs) i) .dataDoesNotFit)
  | segments {s' : Store} {cause : Trap} (small : oversized? s.memoryLimit i.memories = none)
      (kept : (allocate (bind s externs) i).Alike s')
      (placed : placeSegments (allocate (bind s externs) i) i = .trap s' cause) :
      Prepares s externs i bulkMemory (.trapped s' cause)
  | ready {s' : Store} (small : oversized? s.memoryLimit i.memories = none)
      (kept : (allocate (bind s externs) i).Alike s') : Prepares s externs i bulkMemory (.ready s')

theorem prepares (s : Store) (externs : List Extern) (i : Image) (bulkMemory : Bool) :
    Prepares s externs i bulkMemory (prepare s externs i bulkMemory) := by
  unfold prepare
  cases limit : oversized? s.memoryLimit i.memories with
  | some minimum => exact .oversized limit
  | none =>
    have kept := placeSegments_alike (allocate (bind s externs) i) i
    simp only
    split
    · rename_i unfit
      simp only [Bool.and_eq_true, Bool.not_eq_eq_eq_not, Bool.not_true] at unfit
      exact .elements limit unfit.2 unfit.1
    · split
      · rename_i unfit
        simp only [Bool.and_eq_true, Bool.not_eq_eq_eq_not, Bool.not_true] at unfit
        exact .data limit unfit.2 unfit.1
      · split <;> rename_i placed <;> rw [placed] at kept
        · exact .segments limit kept placed
        · exact .ready limit kept

/-- The start function is not linked, it is run. -/
theorem runStart_eq_unlinkable {start : Option Nat} {cause : LinkFault} :
    runStart p s start ≠ some (.unlinkable s' cause) := by
  unfold runStart
  split
  · nofun
  · split <;> nofun

theorem runStart_eq_trapped_iff {start : Option Nat} {cause : Trap} :
    runStart p s start = some (.trapped s' cause) ↔
      ∃ func, start = some func ∧ call p s func [] = some (.trapped s' cause) := by
  cases start with
  | none => simp [runStart]
  | some func =>
    simp only [runStart, Option.some.injEq, exists_eq_left']
    rcases call p s func [] with _ | ⟨⟩ | ⟨⟩ <;> simp

/-- **Nothing comes of a start function** exactly if there is one whose call never ends. -/
theorem runStart_eq_none_iff {start : Option Nat} :
    runStart p s start = none ↔ ∃ func, start = some func ∧ call p s func [] = none := by
  cases start with
  | none => simp [runStart]
  | some func =>
    simp only [runStart, Option.some.injEq, exists_eq_left']
    rcases call p s func [] with _ | ⟨⟩ | ⟨⟩ <;> simp

/-- **All ways of instantiating**: the imports do not fit, or the instance cannot be set up, or else its start
function is run. -/
inductive Instantiates (s : Store) (externs : List Extern) (i : Image) (p : Program) (bulkMemory : Bool) :
    Option Instantiation → Prop where
  | mismatched {fault : LinkFault} (wrong : mismatch? s externs i.imports = some fault) :
      Instantiates s externs i p bulkMemory (some (.unlinkable s fault))
  | unprepared (fit : mismatch? s externs i.imports = none)
      (unready : ∀ ready, prepare s externs i bulkMemory ≠ .ready ready) :
      Instantiates s externs i p bulkMemory (some (prepare s externs i bulkMemory))
  | prepared {ready : Store} (fit : mismatch? s externs i.imports = none)
      (prepared : prepare s externs i bulkMemory = .ready ready) :
      Instantiates s externs i p bulkMemory (runStart p ready i.start)

theorem instantiates (s : Store) (externs : List Extern) (i : Image) (p : Program) (bulkMemory : Bool) :
    Instantiates s externs i p bulkMemory (instantiate s externs i p bulkMemory) := by
  unfold instantiate
  cases fit : mismatch? s externs i.imports with
  | some fault => exact .mismatched fit
  | none =>
    have unready (outcome : Instantiation) (prepared : prepare s externs i bulkMemory = outcome)
        (other : ∀ ready, outcome ≠ .ready ready) : Instantiates s externs i p bulkMemory (some outcome) := by
      subst prepared
      exact .unprepared fit other
    cases prepared : prepare s externs i bulkMemory with
    | ready s => exact .prepared fit prepared
    | unlinkable s cause => exact unready _ prepared nofun
    | trapped s cause => exact unready _ prepared nofun

/-- **A refused instantiation** leaves memories and globals as they were. -/
theorem instantiate_unlinkable {cause : LinkFault}
    (h : instantiate s externs i p bulkMemory = some (.unlinkable s' cause)) : s.Extends s' := by
  have way := instantiates s externs i p bulkMemory
  generalize instantiate s externs i p bulkMemory = outcome at h way
  cases way with
  | mismatched =>
    cases h
    exact .refl s
  | unprepared =>
    have way := prepares s externs i bulkMemory
    rw [Option.some.inj h] at way
    cases way with
    | oversized => exact .refl s
    | elements | data => exact allocate_extends s externs i
  | prepared => exact absurd h runStart_eq_unlinkable

/-- **An instantiation that traps** leaves the globals as they were, unless it was the start function that
trapped; the globals were still the same when that was called. -/
theorem instantiate_trapped {cause : Trap}
    (h : instantiate s externs i p bulkMemory = some (.trapped s' cause)) :
    s.globals.toList <+: s'.globals.toList ∨
      ∃ func placed, i.start = some func ∧ s.globals.toList <+: placed.globals.toList ∧
        call p placed func [] = some (.trapped s' cause) := by
  have prepares := prepares s externs i bulkMemory
  have extended := (allocate_extends s externs i).globals
  have way := instantiates s externs i p bulkMemory
  generalize instantiate s externs i p bulkMemory = outcome at h way
  cases way with
  | mismatched => cases h
  | unprepared =>
    rw [Option.some.inj h] at prepares
    cases prepares with
    | segments _ kept => exact .inl (kept.globals ▸ extended)
  | @prepared ready _ prepared =>
    rw [prepared] at prepares
    cases prepares with
    | ready _ kept =>
      obtain ⟨func, start, called⟩ := runStart_eq_trapped_iff.1 h
      exact .inr ⟨func, ready, start, kept.globals ▸ extended, called⟩

/-- **An instantiation that never ends** has set up the instance and called its start function. -/
theorem instantiate_eq_none_iff : instantiate s externs i p bulkMemory = none ↔
    mismatch? s externs i.imports = none ∧ ∃ ready func, prepare s externs i bulkMemory = .ready ready ∧
      i.start = some func ∧ call p ready func [] = none := by
  unfold instantiate
  cases fit : mismatch? s externs i.imports with
  | some fault => simp
  | none => cases prepared : prepare s externs i bulkMemory <;> simp [runStart_eq_none_iff]

end WasmLens.Machine
