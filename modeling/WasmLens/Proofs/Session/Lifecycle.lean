import WasmLens.Proofs.Machine.Instantiate
import WasmLens.Proofs.Outcome
import WasmLens.Proofs.Session.Run

/-!
# The life of a session

The phase of a session is one field, and what it stands for is spread over four others: the instance, the
catalog, what is declared, and whether an instance uses it. `WellPhased` says how they belong together.
Every operation keeps that, whatever it answers, and moves the phase forward if at all
(`Performs.wellPhased`, `Performs.leads`), so **both hold of every run** (`run_orderly`).

An operation that is refused leaves the whole session as it was. The one exception is an instantiation: it
ends the session, and `Remains` says what is then left of the store. An operation whose code never ends is not
refused: it has no answer (`Performs.endless`).
-/
namespace WasmLens.Session

open Machine

/-! ## Phases -/

namespace Phase

/-- Where operations can take a phase, one or several of them. -/
inductive Leads : Phase → Phase → Prop where
  | stays (p : Phase) : Leads p p
  | declares : Leads .compiled .importsDeclared
  | instantiates {p : Phase} (isOpen : p.isOpen) : Leads p .instantiated
  | fails {p : Phase} (isOpen : p.isOpen) : Leads p .failed

variable {p q r : Phase}

theorem leads_importsDeclared (isOpen : p.isOpen) : p.Leads .importsDeclared := by
  cases p with
  | compiled => exact .declares
  | importsDeclared => exact .stays _
  | instantiated | failed => cases isOpen

/-- **A closed phase is the last one.** -/
theorem Leads.eq_of_closed (h : p.Leads q) (closed : p.isOpen = false) : q = p := by
  cases h with
  | stays => rfl
  | declares => cases closed
  | instantiates isOpen | fails isOpen =>
    rw [isOpen] at closed
    cases closed

theorem Leads.isOpen (h : p.Leads q) (isOpen : q.isOpen) : p.isOpen := by
  cases h with
  | stays => exact isOpen
  | declares => rfl
  | instantiates | fails => cases isOpen

theorem Leads.trans (first : p.Leads q) (second : q.Leads r) : p.Leads r := by
  cases second with
  | stays => exact first
  | declares =>
    cases first
    exact .declares
  | instantiates isOpen => exact .instantiates (first.isOpen isOpen)
  | fails isOpen => exact .fails (first.isOpen isOpen)

end Phase

/-! ## What the phase says of a session -/

/-- How the other fields of a session belong to its phase. -/
structure WellPhased (s : Session) : Prop where
  live : s.live.isSome ↔ s.phase = .instantiated
  bound : s.imports.isBound ↔ s.phase = .instantiated
  catalog : s.phase ≠ .instantiated → s.catalog = {}
  compiled : s.phase = .compiled → s.imports.memory = none ∧ s.imports.globals = none
  declared : s.phase = .importsDeclared → s.imports.memory.isSome ∨ s.imports.globals.isSome

theorem ofModule_wellPhased (m : CompiledModule) : WellPhased (ofModule m) where
  live := by simp [ofModule]
  bound := by simp [ofModule]
  catalog _ := rfl
  compiled _ := ⟨rfl, rfl⟩
  declared := nofun

/-- An open session has no instance, and nothing that comes with one. -/
theorem WellPhased.of_isOpen {s : Session} (h : WellPhased s) (isOpen : s.phase.isOpen) :
    s.live = none ∧ s.imports.isBound = false ∧ s.catalog = {} := by
  have notYet : s.phase ≠ .instantiated := by
    intro phase
    rw [phase] at isOpen
    cases isOpen
  refine ⟨?_, ?_, h.catalog notYet⟩
  · rw [← Option.not_isSome_iff_eq_none, h.live]
    exact notYet
  · rw [← Bool.not_eq_true, h.bound]
    exact notYet

/-! ## Declaring -/

namespace Imports

variable {i i' : Imports} {store store' : Store} {m : CompiledModule}

/-- Declaring a memory declares nothing else. -/
theorem declareMemory_ok (h : i.declareMemory store m = .ok (i', store')) :
    i'.memory.isSome ∧ i' = { i with memory := i'.memory } := by
  unfold declareMemory at h
  split at h
  · rename_i already
    cases h
    exact ⟨already, rfl⟩
  · split at h
    · cases h
      exact ⟨rfl, rfl⟩
    · simp only [bind_eq_ok_iff, ite_eq_ok_iff, pure_eq_ok_iff] at h
      obtain ⟨plan, _, ⟨_, defined⟩ | ⟨_, ⟨_, _, refused, _⟩ | ⟨_, memory, _, imported⟩⟩⟩ := h
      · cases defined
        exact ⟨rfl, rfl⟩
      · cases refused
      · cases imported
        exact ⟨rfl, rfl⟩

/-- Declaring the globals declares nothing else. -/
theorem declareGlobals_ok (h : i.declareGlobals store m = .ok (i', store')) :
    i'.globals.isSome ∧ i' = { i with globals := i'.globals } := by
  unfold declareGlobals at h
  split at h
  · rename_i already
    cases h
    exact ⟨already, rfl⟩
  · simp only [bind_eq_ok_iff, pure_eq_ok_iff] at h
    obtain ⟨_, _, declared⟩ := h
    cases declared
    exact ⟨rfl, rfl⟩

/-- Setting a global declares nothing. -/
theorem setGlobal_ok {name : String} {v : Value} (h : i.setGlobal store name v = .ok (i', store')) :
    i'.memory = i.memory ∧ i'.isBound = i.isBound ∧ i'.globals.isSome = i.globals.isSome := by
  unfold setGlobal at h
  split at h
  · cases h
    exact ⟨rfl, rfl, rfl⟩
  · split at h
    · cases h
      exact ⟨rfl, rfl, rfl⟩
    · split at h
      · split at h <;> cases h
        exact ⟨rfl, rfl, rfl⟩
      · split at h
        · cases h
        · split at h <;> cases h
          exact ⟨rfl, rfl, Option.isSome_map ..⟩

/-- What nothing is declared for is missing. -/
theorem missing?_eq_some {o : Outline} {absent : ModuleImport} (h : i.externs o = .error absent) :
    i.missing? o = some absent := by
  rw [missing?, h]

end Imports

/-! ## One operation -/

section

variable {s s' : Session} {op : Op} {reply : Reply}

/-- What is declared before there is an instance is not in use yet. -/
theorem WellPhased.declares {imports : Imports} {store : Store} (h : WellPhased s)
    (isOpen : s.phase.isOpen) (same : imports.isBound = s.imports.isBound)
    (some : imports.memory.isSome ∨ imports.globals.isSome) :
    WellPhased { s with imports, store, phase := .importsDeclared } := by
  obtain ⟨live, bound, catalog⟩ := h.of_isOpen isOpen
  exact ⟨by simp [live], by simp [same, bound], fun _ => catalog, nofun, fun _ => some⟩

/-- **The fields keep together.** -/
theorem Performs.wellPhased (h : Performs s op s' reply) (before : WellPhased s) : WellPhased s' := by
  cases h with
  | refused | starts | hangs | getsGlobal | reads => exact before
  | calls | writes | setsTimer =>
    exact ⟨before.live, before.bound, before.catalog, before.compiled, before.declared⟩
  | setsGlobal set =>
    obtain ⟨memory, isBound, globals⟩ := Imports.setGlobal_ok set
    refine ⟨before.live, ?_, before.catalog, ?_, ?_⟩
    · exact isBound ▸ before.bound
    · intro phase
      obtain ⟨noMemory, noGlobals⟩ := before.compiled phase
      refine ⟨memory.trans noMemory, ?_⟩
      rw [← Option.isNone_iff_eq_none, ← Option.not_isSome, globals, noGlobals]
      rfl
    · exact memory ▸ globals ▸ before.declared
  | declaresMemory isOpen declared =>
    obtain ⟨some, same⟩ := Imports.declareMemory_ok declared
    exact before.declares isOpen (congrArg (·.isBound) same) (.inl some)
  | declaresGlobals isOpen declared =>
    obtain ⟨some, same⟩ := Imports.declareGlobals_ok declared
    exact before.declares isOpen (congrArg (·.isBound) same) (.inr some)
  | fails isOpen =>
    obtain ⟨live, bound, catalog⟩ := before.of_isOpen isOpen
    exact ⟨by simp [live], by simp [bound], fun _ => catalog, nofun, nofun⟩
  | instantiates => exact ⟨by simp, by simp, by simp, nofun, nofun⟩

/-- **The phase moves forward** or stays. -/
theorem Performs.leads (h : Performs s op s' reply) : s.phase.Leads s'.phase := by
  cases h with
  | declaresMemory isOpen | declaresGlobals isOpen => exact Phase.leads_importsDeclared isOpen
  | fails isOpen => exact .fails isOpen
  | instantiates isOpen => exact .instantiates isOpen
  | refused | starts | hangs | setsGlobal | getsGlobal | calls | reads | writes | setsTimer => exact .stays _

/-- A whole run keeps the fields together and leads forward. -/
theorem run_wellPhased (ops : List Op) (h : WellPhased s) :
    WellPhased (s.run ops) ∧ s.phase.Leads (s.run ops).phase := by
  refine run_keeps (fun s' => WellPhased s' ∧ s.phase.Leads s'.phase) ?_ ops ⟨h, .stays _⟩
  rintro s' op s'' reply ⟨before, led⟩ performed
  exact ⟨performed.wellPhased before, led.trans performed.leads⟩

/-! ## Operations that are refused -/

/-- What an operation that declares or instantiates is called where it is refused. -/
def Op.declares? : Op → Option String
  | .declareMemory => some "declare a memory import"
  | .declareGlobals => some "declare global imports"
  | .instantiate => some "instantiate"
  | _ => none

/-- Operations on what only an instance has. -/
def Op.needsInstance : Op → Bool
  | .invoke .. | .call .. | .readMemory .. | .writeMemory .. => true
  | _ => false

/-- Once a session is closed, nothing can be declared or instantiated any more. -/
theorem perform_closed {operation : String} (h : op.declares? = some operation)
    (closed : s.phase.isOpen = false) :
    s.perform op = (s, .error (.refused (.invalidPhase operation s.phase))) := by
  have refused (name : String) : s.expectOpen name = .error (.invalidPhase name s.phase) := by
    rw [expectOpen, closed]
    rfl
  cases op <;> simp only [Op.declares?, reduceCtorEq, Option.some.injEq] at h
  all_goals
    subst h
    simp only [perform, declareMemory, declareGlobals, instantiate, refused]
    rfl

/-- Without an instance nothing is called, and there is no memory. -/
theorem perform_without_instance (h : op.needsInstance) (none : s.live = none) :
    s.perform op = (s, .error (.refused .notInstantiated)) := by
  cases op <;> simp only [Op.needsInstance, Bool.false_eq_true] at h
  all_goals
    simp only [perform, invoke, call, readMemory, writeMemory, memory, memoryPlace, none]
    rfl

/-- **A refused operation changes nothing** but to end a session that it cannot instantiate. -/
theorem Performs.unchanged {fault : Fault} (h : Performs s op s' (.error fault))
    (other : op ≠ .instantiate) : s' = s := by
  cases h with
  | refused | starts | hangs => rfl
  | fails => exact absurd rfl other

/-! ## Instantiations that fail -/

/-- What remains of the store when a session cannot be instantiated, by the cause. -/
inductive Remains (s : Session) : Error → Store → Prop where
  /-- Nothing was tried. -/
  | missing {i : ModuleImport} (absent : s.imports.missing? s.module.outline = some i) :
      Remains s (.missingImport i.module i.name i.entity.kind) s.store
  /-- The module was refused. The memory and the globals of the host are what they were. -/
  | refused {store : Store} {cause : LinkFault} (kept : s.store.Extends store) :
      Remains s (.link cause.message) store
  /-- Segments were copied up to one that does not fit. The globals of the host are what they were. -/
  | segments {store : Store} {cause : Trap} (kept : s.store.globals.toList <+: store.globals.toList) :
      Remains s (.trap cause.message) store
  /-- The start function was called, with the globals that the host has set, and trapped. -/
  | start {placed store : Store} {func : Nat} {cause : Trap} (first : s.module.image.start = some func)
      (kept : s.store.globals.toList <+: placed.globals.toList)
      (called : Machine.call s.module.program placed func [] = some (.trapped store cause)) :
      Remains s (.trap cause.message) store

theorem link_error {store : Store} {cause : Error} (h : s.link = some (store, .error cause)) :
    Remains s cause store := by
  unfold link at h
  split at h
  · rename_i i absent
    cases h
    exact .missing (Imports.missing?_eq_some absent)
  · obtain ⟨outcome, instantiated, answer⟩ := Option.map_eq_some_iff.1 h
    cases outcome with
    | ready => cases answer
    | unlinkable store cause =>
      cases answer
      exact .refused (instantiate_unlinkable instantiated)
    | trapped store cause =>
      cases answer
      rcases instantiate_trapped instantiated with kept | ⟨func, placed, first, kept, called⟩
      · exact .segments kept
      · exact .start first kept called

/-- **A failing instantiation ends the session** and keeps all of it but the store. -/
theorem Performs.failed {fault : Fault} (h : Performs s .instantiate s' (.error fault))
    (isOpen : s.phase.isOpen) (told : fault ≠ .endless) : ∃ cause store,
      fault = .refused cause ∧ s' = { s with store, phase := .failed } ∧ Remains s cause store := by
  cases h with
  | refused early =>
    rw [early rfl] at isOpen
    cases isOpen
  | fails _ linked => exact ⟨_, _, rfl, rfl, link_error linked⟩
  | starts | hangs => exact absurd rfl told

/-- **There is always an answer** unless a function of the module has been called and never ends. -/
theorem Performs.endless (h : Performs s op s' (.error .endless)) :
    ∃ store func args, Machine.call s.module.program store func args = none := by
  cases h with
  | refused _ told => exact absurd rfl told
  | starts _ endless =>
    obtain ⟨_, ready, func, _, _, _, _, called⟩ := link_eq_none_iff.1 endless
    exact ⟨ready, func, [], called⟩
  | hangs _ _ endless =>
    obtain ⟨_, _, store, _, _, called⟩ := callRepeatedly_eq_none_iff.1 (measure_eq_none_iff.1 endless)
    exact ⟨store, _, _, called⟩

end

/-! ## All runs -/

/-- How a session goes about an operation. -/
structure Orderly (s : Session) (op : Op) : Prop where
  forward : s.phase.Leads (s.perform op).1.phase
  closed : ∀ operation, op.declares? = some operation → s.phase.isOpen = false →
    s.perform op = (s, .error (.refused (.invalidPhase operation s.phase)))
  noInstance : op.needsInstance → s.phase ≠ .instantiated →
    s.perform op = (s, .error (.refused .notInstantiated))
  unchanged : op ≠ .instantiate → ∀ fault, (s.perform op).2 = .error fault → (s.perform op).1 = s
  failed : op = .instantiate → s.phase.isOpen → ∀ fault, (s.perform op).2 = .error fault →
    fault ≠ .endless → ∃ cause store, fault = .refused cause ∧
      (s.perform op).1 = { s with store, phase := .failed } ∧ Remains s cause store
  endless : (s.perform op).2 = .error .endless →
    ∃ store func args, Machine.call s.module.program store func args = none

theorem WellPhased.orderly {s : Session} (h : WellPhased s) (op : Op) : Orderly s op := by
  have performed := performs s op
  refine ⟨performed.leads, fun _ => perform_closed, ?_, ?_, ?_, ?_⟩
  · intro needs phase
    have none : s.live = none := by rwa [← Option.not_isSome_iff_eq_none, h.live]
    exact perform_without_instance needs none
  · intro other fault answered
    rw [answered] at performed
    exact performed.unchanged other
  · rintro rfl isOpen fault answered told
    rw [answered] at performed
    exact performed.failed isOpen told
  · intro answered
    rw [answered] at performed
    exact performed.endless

/-- **The life of a session.** Whatever operations a compiled module has gone through, the fields of the
session belong to its phase, the next operation is gone about in order, and later ones lead forward: a
phase that is closed is the last one. -/
theorem run_orderly {c : Config} {bytes : List UInt8} {s : Session} (h : compile c bytes = .ok s)
    (ops : List Op) :
    WellPhased (s.run ops) ∧ (∀ op, Orderly (s.run ops) op) ∧
      ∀ later, (s.run ops).phase.Leads (s.run (ops ++ later)).phase ∧
        ((s.run ops).phase.isOpen = false → (s.run (ops ++ later)).phase = (s.run ops).phase) := by
  obtain ⟨m, _, rfl⟩ : ∃ m, CompiledModule.ofBytes c bytes = .ok m ∧ ofModule m = s := by
    simp only [compile, bind_eq_ok_iff, pure_eq_ok_iff] at h
    obtain ⟨_, _, m, compiled, eq⟩ := h
    exact ⟨m, compiled, eq⟩
  have reached := (run_wellPhased ops (ofModule_wellPhased m)).1
  refine ⟨reached, reached.orderly, fun later => ?_⟩
  rw [run_append]
  have led := (run_wellPhased later reached).2
  exact ⟨led, led.eq_of_closed⟩

/-- A module that imports a memory and a global, and exports a function that sets the global. -/
def settingModule : List UInt8 :=
  Wasm.Sections.join
    [⟨Wasm.Section.typeId, [1, 0x60, 0, 0]⟩,
      ⟨Wasm.Section.importId, [2, 0, 1, 0x6d, 2, 0, 1, 0, 1, 0x67, 3, 0x7f, 1]⟩,
      ⟨Wasm.Section.functionId, [1, 0]⟩,
      ⟨Wasm.Section.exportId, [1, 3, 0x72, 0x75, 0x6e, 0, 0]⟩,
      ⟨Wasm.Section.codeId, [1, 6, 0, 0x41, 7, 0x24, 0, 0x0b]⟩]

/-- Declares, instantiates and calls, with refused operations in between. -/
def busyRun : List Op :=
  [.call "run" [], .declareMemory, .setGlobal "g" (.i32 5), .declareGlobals, .readMemory 0 4,
    .setGlobal "g" (.i32 5), .instantiate, .declareGlobals, .call "run" [], .getGlobal "g"]

theorem run_orderly_busy : ∃ s, compile {} settingModule = .ok s ∧ (s.run busyRun).phase = .instantiated ∧
    WellPhased (s.run busyRun) ∧ (∀ op, Orderly (s.run busyRun) op) ∧
      ∀ later, (s.run busyRun).phase.Leads (s.run (busyRun ++ later)).phase ∧
        ((s.run busyRun).phase.isOpen = false →
          (s.run (busyRun ++ later)).phase = (s.run busyRun).phase) := by
  obtain ⟨s, compiled, phase⟩ :
      ∃ s, compile {} settingModule = .ok s ∧ (s.run busyRun).phase = .instantiated := by decide +kernel
  exact ⟨s, compiled, phase, run_orderly compiled busyRun⟩

end WasmLens.Session
