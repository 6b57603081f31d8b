import WasmLens.Proofs.Session.Backing

/-!
# Providing for imports

Linking goes through the imports of a module and counts the globals among them. The number that it comes to is
the one that the import shows with, so what an import is bound to can be told from the import alone
(`externs_eq_mapM`): **linking reports the first import that nothing is declared for**, and otherwise binds each
to what is declared for it (`run_provisioned`).
-/
namespace WasmLens

open Wasm Machine Session CompiledModule

/-! ## The numbers of imports -/

/-- An element that stays when a list is filtered stands behind those in front that stay. -/
theorem getElem?_filterMap_of_take {α β : Type} {f : α → Option β} {xs : List α} {p : Nat} {x : α} {y : β}
    (found : xs[p]? = some x) (stays : f x = some y) :
    (xs.filterMap f)[((xs.take p).filterMap f).length]? = some y := by
  obtain ⟨inside, rfl⟩ := List.getElem?_eq_some_iff.1 found
  have split : xs = xs.take p ++ xs[p] :: xs.drop (p + 1) := by
    rw [← List.drop_eq_getElem_cons inside, List.take_append_drop]
  conv_lhs => rw [split]
  rw [List.filterMap_append, List.take_left' (List.length_take_of_le (Nat.le_of_lt inside)),
    List.getElem?_append_right (Nat.le_refl _), Nat.sub_self, List.filterMap_cons_some stays, List.getElem?_cons_zero]

/-- How many globals there are among imports. -/
def globalCount (imports : List ModuleImport) : Nat := imports.countP (·.entity.kind = .global)

theorem globalCount_eq (imports : List ModuleImport) :
    globalCount imports = (imports.filterMap (·.globalName?)).length := by
  rw [globalCount, List.length_filterMap_eq_countP]
  refine List.countP_congr fun m _ => ?_
  unfold ModuleImport.globalName?
  cases m.entity <;> simp [ImportEntity.kind]

theorem globalCount_concat (imports : List ModuleImport) (m : ModuleImport) :
    globalCount (imports ++ [m]) = globalCount imports + if m.entity.kind = .global then 1 else 0 := by
  simp [globalCount, List.countP_append, List.countP_singleton]

namespace Outline

variable {memories globals : Nat} {items : List Import} {shown : List ModuleImport}

theorem Reflected.take (h : Reflected memories globals items shown) (n : Nat) :
    Reflected memories globals (items.take n) (shown.take n) := by
  refine ⟨by simp [h.length], fun p => ?_⟩
  rcases Nat.lt_or_ge p n with inside | outside
  · rw [List.getElem?_take_of_lt inside, List.getElem?_take_of_lt inside, List.take_take,
      Nat.min_eq_left (Nat.le_of_lt inside), h.each p]
  · rw [List.getElem?_take_eq_none outside, List.getElem?_take_eq_none outside]
    rfl

/-- **An imported global shows with the number of those in front.** -/
theorem Reflected.global (h : Reflected 0 0 items shown) {p k : Nat} {m : ModuleImport} (found : shown[p]? = some m)
    (entity : m.entity = .global k) : k = globalCount (shown.take p) ∧
      ∃ t, items[p]? = some ⟨m.module, m.name, .global t⟩ ∧ (items.filterMap (·.globalType?))[k]? = some t := by
  have each := h.each p
  rw [found] at each
  obtain ⟨i, here, shows⟩ := Option.bind_eq_some_iff.1 each.symm
  obtain ⟨module, name, desc⟩ := i
  cases desc <;> cases shows <;> cases entity
  refine ⟨?_, _, here, ?_⟩
  · rw [globalCount_eq, (h.take p).globalNames, Import.length_globalNames, Nat.zero_add]
  · rw [Nat.zero_add]
    exact getElem?_filterMap_of_take here rfl

theorem Reflected.memory (h : Reflected 0 0 items shown) {p k : Nat} {m : ModuleImport} (found : shown[p]? = some m)
    (entity : m.entity = .memory k) :
    ∃ t, items[p]? = some ⟨m.module, m.name, .memory t⟩ ∧ (items.filterMap (·.memoryType?))[k]? = some t := by
  have each := h.each p
  rw [found] at each
  obtain ⟨i, here, shows⟩ := Option.bind_eq_some_iff.1 each.symm
  obtain ⟨module, name, desc⟩ := i
  cases desc <;> cases shows <;> cases entity
  refine ⟨_, here, ?_⟩
  rw [Nat.zero_add]
  exact getElem?_filterMap_of_take here rfl

theorem Reflected.names (h : Reflected memories globals items shown) :
    shown.map (fun m => (m.module, m.name)) = items.map fun i => (i.module, i.name) := by
  refine List.ext_getElem? fun p => ?_
  rw [List.getElem?_map, List.getElem?_map]
  cases found : shown[p]? with
  | none =>
    rw [List.getElem?_eq_none_iff, h.length] at found
    rw [List.getElem?_eq_none found]
    rfl
  | some m =>
    have each := h.each p
    rw [found] at each
    obtain ⟨i, here, shows⟩ := Option.bind_eq_some_iff.1 each.symm
    obtain ⟨module, name, desc⟩ := i
    rw [here]
    cases desc <;> cases shows <;> rfl

end Outline

/-! ## What is declared for an import -/

namespace Session

/-- Nothing has been declared for an import, or nothing can be. -/
def Unprovided (i : Imports) (m : ModuleImport) : Prop :=
  match m.entity with
  | .function _ | .table => True
  | .memory index => index ≠ 0 ∨ i.memory = none
  | .global _ => i.globals = none

namespace Imports

variable (i : Imports)

/-- What is declared for an import. -/
def provides? : ImportEntity → Option Extern
  | .memory index => if index = 0 && i.hasMemory then some (.memory 0) else none
  | .global index => i.globalList[index]?.map fun g => .global g.cell
  | .function _ | .table => none

def provide (m : ModuleImport) : Except ModuleImport Extern :=
  match i.provides? m.entity with
  | some e => .ok e
  | none => .error m

variable {i}

theorem provide_eq_ok_iff {m : ModuleImport} {e : Extern} : i.provide m = .ok e ↔ i.provides? m.entity = some e := by
  unfold provide
  cases i.provides? m.entity <;> simp

theorem provide_eq_error_iff {m m' : ModuleImport} :
    i.provide m = .error m' ↔ i.provides? m.entity = none ∧ m = m' := by
  unfold provide
  cases i.provides? m.entity <;> simp

/-- An import with the right number goes to what is declared for it. -/
theorem externsFrom_cons {next : Nat} {m : ModuleImport} {rest : List ModuleImport}
    (number : ∀ k, m.entity = .global k → k = next) :
    i.externsFrom next (m :: rest) = i.provide m >>= fun e =>
      i.externsFrom (next + if m.entity.kind = .global then 1 else 0) rest >>= fun others => pure (e :: others) := by
  have map_eq (x : Except ModuleImport (List Extern)) (e : Extern) :
      x.map (e :: ·) = x >>= fun others => pure (e :: others) := by cases x <;> rfl
  rw [externsFrom, provide]
  cases entity : m.entity with
  | function | table => rfl
  | memory index =>
    dsimp only [provides?]
    cases index = 0 && i.hasMemory with
    | true => exact map_eq _ _
    | false => rfl
  | global index =>
    obtain rfl := number index entity
    dsimp only [provides?]
    cases i.globalList[index]? with
    | some g => exact map_eq _ _
    | none => rfl

/-- Imports that are left go to what is declared for them. -/
theorem externsFrom_eq_mapM {imports : List ModuleImport}
    (numbered : ∀ (p : Nat) m k, imports[p]? = some m → m.entity = .global k → k = globalCount (imports.take p)) :
    ∀ rest front, imports = front ++ rest → i.externsFrom (globalCount front) rest = rest.mapM i.provide
  | [], _, _ => rfl
  | m :: rest, front, split => by
    have here : imports[front.length]? = some m := by
      rw [split, List.getElem?_append_right (Nat.le_refl _), Nat.sub_self, List.getElem?_cons_zero]
    have number (k) (global : m.entity = .global k) : k = globalCount front := by
      rw [numbered _ m k here global, split, List.take_left]
    have behind := externsFrom_eq_mapM numbered rest (front ++ [m]) (by rw [split, List.append_assoc]; rfl)
    rw [externsFrom_cons number, ← globalCount_concat, behind, List.mapM_cons]

/-- **Linking goes by what is declared for each import.** -/
theorem externs_eq_mapM {o : Outline} {contents : List Content} (declared : o.Declared contents) :
    i.externs o = o.imports.mapM i.provide :=
  externsFrom_eq_mapM (fun _ _ _ found global => (declared.imports.global found global).1) o.imports [] rfl

end Imports

section

variable {contents : List Content} {s : Session}

/-- **What has been declared is there** for the imports of a module. -/
theorem Kept.provides?_eq_none_iff (kept : Kept contents s) {m : ModuleImport} (mem : m ∈ s.module.outline.imports) :
    s.imports.provides? m.entity = none ↔ Unprovided s.imports m := by
  have shown := kept.coherent.outline.imports
  obtain ⟨p, found⟩ := List.mem_iff_getElem?.1 mem
  unfold Unprovided
  cases entity : m.entity with
  | function | table => exact iff_of_true rfl trivial
  | memory index =>
    obtain ⟨t, _, numbered⟩ := shown.memory found entity
    have foreign : 0 < s.module.outline.importedMemories := by
      rw [kept.coherent.outline.importedMemories]
      exact Nat.zero_lt_of_lt (List.getElem?_eq_some_iff.1 numbered).1
    have has : s.imports.hasMemory ↔ s.imports.memory ≠ none := by
      refine ⟨fun has none => ?_, fun some => ?_⟩
      · rw [Imports.hasMemory, none] at has
        cases has
      · exact kept.backed.hasMemory kept.coherent foreign (Option.isSome_iff_ne_none.2 some)
    simp only [Imports.provides?, Bool.and_eq_true, decide_eq_true_eq, has, ite_eq_right_iff, reduceCtorEq, imp_false]
    rw [not_and_or, Classical.not_not]
  | global index =>
    obtain ⟨_, t, _, numbered⟩ := shown.global found entity
    simp only [Imports.provides?, Option.map_eq_none_iff, Imports.globalList]
    cases globals : s.imports.globals with
    | none => exact iff_of_true rfl rfl
    | some list =>
      refine iff_of_false (fun none => ?_) (Option.some_ne_none list)
      rw [Option.getD_some, List.getElem?_eq_none_iff, (kept.wired.provided list globals).length] at none
      exact Nat.not_lt.2 none (List.getElem?_eq_some_iff.1 numbered).1

/-! ## What linking comes to -/

theorem link_of_missing {m : ModuleImport} (missing : s.imports.externs s.module.outline = .error m) :
    s.link = some (s.store, .error (.missingImport m.module m.name m.entity.kind)) := by
  rw [link, missing]

theorem link_of_externs {externs : List Extern} (bound : s.imports.externs s.module.outline = .ok externs) :
    s.link = (Machine.instantiate s.store externs s.module.image s.module.program
      s.module.config.bulkMemory).map answerOf := by
  rw [link, bound]

/-- An open session fails as it is linked. -/
theorem perform_instantiate_of_error (isOpen : s.phase.isOpen) {store : Store} {cause : Error}
    (failed : s.link = some (store, .error cause)) :
    s.perform .instantiate = ({ s with store, phase := .failed }, .error (.refused cause)) := by
  simp only [perform, instantiate, expectOpen, isOpen, if_true, failed]
  rfl

/-- Only an import that is missing is reported as missing. -/
theorem perform_instantiate_missing_iff (isOpen : s.phase.isOpen) {module name : String} {kind : ExternKind} :
    (s.perform .instantiate).2 = .error (.refused (.missingImport module name kind)) ↔
      ∃ m, s.imports.externs s.module.outline = .error m ∧ m.module = module ∧ m.name = name ∧
        m.entity.kind = kind := by
  cases bound : s.imports.externs s.module.outline with
  | error m =>
    rw [perform_instantiate_of_error isOpen (link_of_missing bound)]
    simp
  | ok externs =>
    refine iff_of_false (fun h => ?_) (by rintro ⟨_, ⟨⟩, _⟩)
    simp only [perform, instantiate, expectOpen, isOpen, if_true, link_of_externs bound] at h
    rcases outcome : Machine.instantiate s.store externs s.module.image s.module.program
      s.module.config.bulkMemory with _ | ⟨⟩ | ⟨⟩ | ⟨⟩ <;> rw [outcome] at h <;> cases h

/-- What is bound to an import: the memory that the host has created as it was planned, or the cell of the
declared global with as many in front. -/
inductive Binding (s : Session) (front : List ModuleImport) : ImportEntity → Extern → Prop
  | memory {plan : MemoryPlan} (declared : s.imports.memory = some (.imported plan))
      (created : s.store.memories = #[plan.memory]) : Binding s front (.memory 0) (.memory 0)
  | global {g : GlobalImport} (declared : s.imports.globalList[globalCount front]? = some g) :
      Binding s front (.global (globalCount front)) (.global g.cell)

/-- **What instantiating an open session comes to**, given what has been declared. -/
structure Provisioned (s : Session) : Prop where
  /-- The first import that nothing is declared for is reported. -/
  missing : ∀ module name kind,
    (s.perform .instantiate).2 = .error (.refused (.missingImport module name kind)) ↔
      ∃ front m back, s.module.outline.imports = front ++ m :: back ∧ (∀ x ∈ front, ¬Unprovided s.imports x) ∧
        Unprovided s.imports m ∧ m.module = module ∧ m.name = name ∧ m.entity.kind = kind
  /-- The machine gets nothing to instantiate then, so the session fails as it is. -/
  quiet : (∃ m ∈ s.module.outline.imports, Unprovided s.imports m) →
    (∀ externs, s.imports.externs s.module.outline ≠ .ok externs) ∧
      (s.perform .instantiate).1 = { s with phase := .failed } ∧ ∀ now, During s .instantiate now → now = s.store
  /-- Otherwise the machine gets what is declared for each of the imports that it asks for. -/
  binds : (∀ m ∈ s.module.outline.imports, ¬Unprovided s.imports m) → ∃ externs,
    s.link = (Machine.instantiate s.store externs s.module.image s.module.program
      s.module.config.bulkMemory).map answerOf ∧
    externs.length = s.module.image.imports.length ∧
    s.module.image.imports.map (fun i => (i.module, i.name)) =
      s.module.outline.imports.map (fun m => (m.module, m.name)) ∧
    ∀ (p : Nat) m, s.module.outline.imports[p]? = some m →
      ∃ e, externs[p]? = some e ∧ Binding s (s.module.outline.imports.take p) m.entity e

/-- What is declared for an import is bound to it. -/
theorem Kept.binding (kept : Kept contents s) (isOpen : s.phase.isOpen) {p : Nat} {m : ModuleImport} {e : Extern}
    (found : s.module.outline.imports[p]? = some m) (provides : s.imports.provides? m.entity = some e) :
    Binding s (s.module.outline.imports.take p) m.entity e := by
  cases entity : m.entity with
  | function | table =>
    rw [entity] at provides
    cases provides
  | memory index =>
    rw [entity, Imports.provides?, Option.ite_none_right_eq_some, Bool.and_eq_true, decide_eq_true_eq] at provides
    obtain ⟨⟨rfl, has⟩, ⟨⟩⟩ := provides
    unfold Imports.hasMemory at has
    split at has
    · rename_i plan declared
      exact .memory declared (kept.backed.created isOpen plan declared)
    · cases has
  | global index =>
    rw [entity] at provides
    obtain ⟨g, declared, rfl⟩ := Option.map_eq_some_iff.1 provides
    obtain ⟨rfl, _⟩ := kept.coherent.outline.imports.global found entity
    exact .global declared

/-- Linking stops at the first import that nothing is declared for. -/
theorem Kept.externs_eq_error_iff (kept : Kept contents s) {m : ModuleImport} :
    s.imports.externs s.module.outline = .error m ↔
      ∃ front back, s.module.outline.imports = front ++ m :: back ∧ (∀ x ∈ front, ¬Unprovided s.imports x) ∧
        Unprovided s.imports m := by
  have provided_iff {x : ModuleImport} (mem : x ∈ s.module.outline.imports) :
      (∃ e, s.imports.provide x = .ok e) ↔ ¬Unprovided s.imports x := by
    simp only [Imports.provide_eq_ok_iff, ← Option.isSome_iff_exists, ← kept.provides?_eq_none_iff mem,
      ← Option.isSome_iff_ne_none]
  rw [Imports.externs_eq_mapM kept.coherent.outline, mapM_eq_error_iff]
  constructor
  · rintro ⟨front, x, back, split, fine, fails⟩
    obtain ⟨nothing, rfl⟩ := Imports.provide_eq_error_iff.1 fails
    have among : ∀ y ∈ front ++ x :: back, y ∈ s.module.outline.imports := fun y => split ▸ id
    exact ⟨front, back, split, fun y mem => (provided_iff (among y (List.mem_append_left _ mem))).1 (fine y mem),
      (kept.provides?_eq_none_iff (among x (by simp))).1 nothing⟩
  · rintro ⟨front, back, split, fine, missing⟩
    have among : ∀ y ∈ front ++ m :: back, y ∈ s.module.outline.imports := fun y => split ▸ id
    exact ⟨front, m, back, split, fun y mem => (provided_iff (among y (List.mem_append_left _ mem))).2 (fine y mem),
      Imports.provide_eq_error_iff.2 ⟨(kept.provides?_eq_none_iff (among m (by simp))).2 missing, rfl⟩⟩

/-- Nothing happens on the way to an import that is missing. -/
theorem During.eq_store (isOpen : s.phase.isOpen) {m : ModuleImport}
    (missing : s.imports.externs s.module.outline = .error m) {now : Store} (moment : During s .instantiate now) :
    now = s.store := by
  cases moment with
  | before => rfl
  | starting _ bound =>
    rw [missing] at bound
    cases bound
  | calling target => cases target
  | after => rw [perform_instantiate_of_error isOpen (link_of_missing missing)]

theorem Kept.provisioned (kept : Kept contents s) (isOpen : s.phase.isOpen) : Provisioned s where
  missing module name kind := by
    rw [perform_instantiate_missing_iff isOpen]
    constructor
    · rintro ⟨m, missing, same⟩
      obtain ⟨front, back, split, fine, unprovided⟩ := kept.externs_eq_error_iff.1 missing
      exact ⟨front, m, back, split, fine, unprovided, same⟩
    · rintro ⟨front, m, back, split, fine, unprovided, same⟩
      exact ⟨m, kept.externs_eq_error_iff.2 ⟨front, back, split, fine, unprovided⟩, same⟩
  quiet := by
    rintro ⟨m, mem, unprovided⟩
    cases bound : s.imports.externs s.module.outline with
    | ok externs =>
      rw [Imports.externs_eq_mapM kept.coherent.outline] at bound
      obtain ⟨e, _, provided⟩ := mapM_mem bound m mem
      rw [Imports.provide_eq_ok_iff, (kept.provides?_eq_none_iff mem).2 unprovided] at provided
      cases provided
    | error m =>
      refine ⟨nofun, ?_, fun now => During.eq_store isOpen bound⟩
      rw [perform_instantiate_of_error isOpen (link_of_missing bound)]
  binds := by
    intro fine
    cases bound : s.imports.externs s.module.outline with
    | error m =>
      obtain ⟨front, back, split, _, unprovided⟩ := kept.externs_eq_error_iff.1 bound
      exact absurd unprovided (fine m (split ▸ List.mem_append_right front List.mem_cons_self))
    | ok externs =>
      have shown := kept.coherent.outline.imports
      refine ⟨externs, link_of_externs bound, ?_⟩
      rw [Imports.externs_eq_mapM kept.coherent.outline] at bound
      obtain ⟨length, each⟩ := mapM_getElem? bound
      refine ⟨?_, ?_, fun p m found => ?_⟩
      · rw [length, kept.coherent.imports, shown.length]
      · rw [kept.coherent.imports, shown.names]
      · obtain ⟨e, provided, here⟩ := each p m found
        exact ⟨e, here, kept.binding isOpen found (Imports.provide_eq_ok_iff.1 provided)⟩

end

/-! ## All runs -/

/-- A session that has been compiled keeps all that every run keeps. -/
theorem compile_kept {c : Config} {bytes : List UInt8} {s : Session} (h : compile c bytes = .ok s) :
    ∃ r, Compiles c bytes r s.module ∧ Kept r.contents s := by
  obtain ⟨r, m, compiles, rfl⟩ := compile_ok h
  exact ⟨r, compiles, ofModule_kept compiles.coherent⟩

/-- **Missing imports.** Whatever operations a session has gone through, instantiating it reports the first import
that nothing is declared for, in the order of the module, and leaves all as it is; if there is none, the machine is
given one thing for each import: the memory that was created for the first memory, and the k-th cell for the k-th
global. -/
theorem run_provisioned {c : Config} {bytes : List UInt8} {s : Session} (h : compile c bytes = .ok s)
    (ops : List Op) (isOpen : (s.run ops).phase.isOpen) : Provisioned (s.run ops) := by
  obtain ⟨_, _, kept⟩ := compile_kept h
  exact (run_kept kept ops).provisioned isOpen

/-- A module that imports a global, a memory, another global and a function. -/
def interleavedModule : List UInt8 :=
  Wasm.Sections.join
    [⟨Wasm.Section.typeId, [1, 0x60, 0, 0]⟩,
      ⟨Wasm.Section.importId, [4, 1, 0x65, 1, 0x61, 3, 0x7f, 0, 1, 0x65, 1, 0x6d, 2, 0, 1,
        1, 0x65, 1, 0x62, 3, 0x7e, 1, 1, 0x65, 1, 0x66, 0, 0]⟩]

/-- With the globals declared it is the memory that is missing; with both of them, the function. -/
theorem run_provisioned_interleaved :
    ∃ s, compile {} interleavedModule = .ok s ∧
      Provisioned (s.run [.declareGlobals]) ∧ Provisioned (s.run [.declareMemory, .declareGlobals]) ∧
      ((s.run [.declareGlobals]).perform .instantiate).2 =
        .error (.refused (.missingImport "e" "m" .memory)) ∧
      ((s.run [.declareMemory, .declareGlobals]).perform .instantiate).2 =
        .error (.refused (.missingImport "e" "f" .function)) := by
  obtain ⟨s, compiled, first, both, answers⟩ : ∃ s, compile {} interleavedModule = .ok s ∧
      (s.run [.declareGlobals]).phase.isOpen ∧ (s.run [.declareMemory, .declareGlobals]).phase.isOpen ∧
      ((s.run [.declareGlobals]).perform .instantiate).2 =
        .error (.refused (.missingImport "e" "m" .memory)) ∧
      ((s.run [.declareMemory, .declareGlobals]).perform .instantiate).2 =
        .error (.refused (.missingImport "e" "f" .function)) := by decide +kernel
  exact ⟨s, compiled, run_provisioned compiled _ first, run_provisioned compiled _ both, answers⟩

end Session

end WasmLens
