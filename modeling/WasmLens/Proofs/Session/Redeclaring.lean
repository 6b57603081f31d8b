import WasmLens.Proofs.Session.FirstMemory

/-!
# Declaring again

What a module imports is declared in two operations, and a host may ask for each of them in any order and more than
once. What an operation of either kind comes to depends on what it declares, and on nothing that the other one makes
(`declareMemory_determined`, `declareGlobals_determined`), so declarations **commute** (`perform_comm`). Once one has
been made, it is **settled** for as long as the session is open: whatever else is performed, making it again changes
nothing and is answered as before (`Settled.perform`). Together, what comes of some declarations depends on nothing
but which these are (`redeclarable`).
-/
namespace WasmLens.Session

open Machine

/-! ## What a declaration depends on -/

namespace Imports

/-- **Declaring the memory** of a module depends on whether it is declared already, and on how large it may be. -/
theorem declareMemory_determined (m : CompiledModule) (declared : Option Backing) (limit : Option Nat) :
    ∃ r : Except MemoryFault (Backing × Option LinearMemory), ∀ (i : Imports) (store : Store), i.memory = declared →
      store.memoryLimit = limit → i.declareMemory store m = r.map fun p =>
        ({ i with memory := some p.1 }, { store with memories := (p.2.map fun c => #[c]).getD store.memories }) := by
  cases declared with
  | some backing =>
    refine ⟨.ok (backing, none), fun i store already _ => ?_⟩
    rw [declareMemory, if_pos (by rw [already]; rfl), Except.map, ← already]
    rfl
  | none =>
    cases primary : m.outline.primaryMemory? with
    | none =>
      refine ⟨.ok (.absent, none), fun i store first _ => ?_⟩
      simp only [declareMemory, first, primary, Option.isSome_none, Bool.false_eq_true, if_false]
      rfl
    | some memory =>
      cases planned : MemoryPlan.ofMemory memory (m.outline.isImportedMemory 0) m.config.pageCap with
      | error cause =>
        refine ⟨.error (.refused cause), fun i store first _ => ?_⟩
        simp only [declareMemory, first, primary, planned, Option.isSome_none, Bool.false_eq_true, if_false]
        rfl
      | ok plan =>
        refine ⟨if !plan.isImported then .ok (.defined plan, none)
          else if memory.isShared then .error (.refused (.unsupported "shared memories"))
          else (plan.create limit).map fun created => (.imported plan, some created), fun i store first same => ?_⟩
        subst same
        simp only [declareMemory, first, primary, planned, Option.isSome_none, Bool.false_eq_true, if_false]
        change (if !plan.isImported then _ else if memory.isShared then _ else plan.create _ >>= _) = _
        split
        · rfl
        · split
          · rfl
          · cases plan.create store.memoryLimit <;> rfl

theorem declareMemory_error {i i' : Imports} {store store' : Store} {m : CompiledModule} {fault : MemoryFault}
    (refused : i.declareMemory store m = .error fault) (same : i'.memory = i.memory)
    (limit : store'.memoryLimit = store.memoryLimit) : i'.declareMemory store' m = .error fault := by
  obtain ⟨r, determined⟩ := declareMemory_determined m i.memory store.memoryLimit
  rw [determined _ _ rfl rfl] at refused
  rw [determined _ _ same limit]
  cases r <;> cases refused
  rfl

/-- The globals among some imports are created, or cannot be, in all stores alike: the cells come behind those that
are there. -/
def CreatesAlike (imports : List ModuleImport) (infos : List GlobalInfo) (types : List Wasm.GlobalType) : Prop :=
  ∃ r : Except Error ((Nat → List GlobalImport) × List Cell), ∀ store : Store,
    createGlobals store imports infos types = r.map fun p =>
      (p.1 store.globals.size, { store with globals := store.globals ++ p.2 })

section

variable {m : ModuleImport} {imports : List ModuleImport} {infos : List GlobalInfo} {types : List Wasm.GlobalType}

theorem CreatesAlike.of_error (cause : Error)
    (failed : ∀ store, createGlobals store imports infos types = .error cause) : CreatesAlike imports infos types :=
  ⟨.error cause, failed⟩

/-- One more global in front does not change this. -/
theorem CreatesAlike.cons {index : Nat} (entity : m.entity = .global index) (info : GlobalInfo)
    (type : Wasm.GlobalType) (alike : CreatesAlike imports infos types) :
    CreatesAlike (m :: imports) (info :: infos) (type :: types) := by
  cases seeded : seed? info type with
  | none => exact .of_error _ fun store => by simp only [createGlobals, entity, seeded]; rfl
  | some v =>
    cases made : Cell.ofVal? type v with
    | none =>
      refine .of_error (.allocation CellFault.wrongSeed.message) fun store => ?_
      simp only [createGlobals, entity, seeded, Store.newGlobal, made]
      rfl
    | some c =>
      obtain ⟨r, rest⟩ := alike
      refine ⟨r.map fun p =>
        (fun n => ⟨m.module, m.name, info.type, info.isMutable, n⟩ :: p.1 (n + 1), c :: p.2), fun store => ?_⟩
      simp only [createGlobals, entity, seeded, Store.newGlobal, made]
      change createGlobals _ imports infos types >>= _ = _
      rw [rest]
      cases r with
      | error cause => rfl
      | ok p =>
        have size : (store.globals.push c).size = store.globals.size + 1 := Array.size_push c
        have cells : store.globals.push c ++ p.2 = store.globals ++ (c :: p.2) := by simp
        simp only [Except.map, size, cells]
        rfl

end

theorem createGlobals_alike (imports : List ModuleImport) : ∀ (infos : List GlobalInfo)
    (types : List Wasm.GlobalType), CreatesAlike imports infos types := by
  induction imports with
  | nil => exact fun _ _ => ⟨.ok (fun _ => [], []), fun store => by simp [createGlobals, Except.map]⟩
  | cons m imports ih =>
    intro infos types
    cases entity : m.entity with
    | global index =>
      cases infos with
      | nil => exact .of_error _ fun store => by simp only [createGlobals, entity]; rfl
      | cons info infos =>
        cases types with
        | nil => exact .of_error _ fun store => by simp only [createGlobals, entity]; rfl
        | cons type types => exact .cons entity info type (ih infos types)
    | function _ | table | memory _ =>
      obtain ⟨r, rest⟩ := ih infos types
      exact ⟨r, fun store => by simp only [createGlobals, entity, rest]⟩

/-- **Declaring the globals** of a module depends on whether they are declared already. -/
theorem declareGlobals_determined (m : CompiledModule) (declared : Option (List GlobalImport)) :
    ∃ r : Except Error ((Nat → List GlobalImport) × List Cell), ∀ (i : Imports) (store : Store),
      i.globals = declared → i.declareGlobals store m = r.map fun p =>
        ({ i with globals := some (p.1 store.globals.size) }, { store with globals := store.globals ++ p.2 }) := by
  cases declared with
  | some globals =>
    refine ⟨.ok (fun _ => globals, []), fun i store already => ?_⟩
    rw [declareGlobals, if_pos (by rw [already]; rfl), Except.map, ← already, Array.appendList_nil]
  | none =>
    obtain ⟨r, created⟩ := createGlobals_alike m.outline.imports m.outline.globals m.image.importedGlobals
    refine ⟨r, fun i store first => ?_⟩
    simp only [declareGlobals, first, created, Option.isSome_none, Bool.false_eq_true, if_false]
    cases r <;> rfl

theorem declareGlobals_error {i i' : Imports} {store store' : Store} {m : CompiledModule} {cause : Error}
    (refused : i.declareGlobals store m = .error cause) (same : i'.globals.isSome = i.globals.isSome) :
    i'.declareGlobals store' m = .error cause := by
  cases first : i.globals with
  | some globals =>
    rw [declareGlobals, if_pos (by rw [first]; rfl)] at refused
    cases refused
  | none =>
    rw [first, Option.isSome_none, Option.isSome_eq_false_iff, Option.isNone_iff_eq_none] at same
    obtain ⟨r, determined⟩ := declareGlobals_determined m none
    rw [determined _ _ first] at refused
    rw [determined _ _ same]
    cases r <;> cases refused
    rfl

end Imports

/-! ## Declarations -/

/-- An operation that declares imports. -/
def Op.isDeclaration : Op → Bool
  | .declareMemory | .declareGlobals => true
  | _ => false

variable {s s' : Session} {op op' : Op} {reply reply' : Reply}

theorem perform_declareMemory (isOpen : s.phase.isOpen) : s.perform .declareMemory =
    match s.imports.declareMemory s.store s.module with
    | .ok (imports, store) => ({ s with imports, store, phase := .importsDeclared }, .ok (.plan imports.memoryPlan?))
    | .error fault => (s, .error (.ofMemory fault)) := by
  simp only [perform, declareMemory, expectOpen, isOpen, if_true]
  cases s.imports.declareMemory s.store s.module <;> rfl

theorem perform_declareGlobals (isOpen : s.phase.isOpen) : s.perform .declareGlobals =
    match s.imports.declareGlobals s.store s.module with
    | .ok (imports, store) => ({ s with imports, store, phase := .importsDeclared }, .ok .done)
    | .error cause => (s, .error (.refused cause)) := by
  simp only [perform, declareGlobals, expectOpen, isOpen, if_true]
  cases s.imports.declareGlobals s.store s.module <;> rfl

/-- A closed session declares nothing. -/
theorem perform_declaration_closed (declares : op.isDeclaration) (closed : s.phase.isOpen = false) :
    (s.perform op).1 = s := by
  cases op <;> cases declares <;> rw [perform_closed rfl closed]

/-- **The memory and the globals** are declared in either order, each with the same answer. -/
theorem declareMemory_declareGlobals (s : Session) :
    ((s.perform .declareMemory).1.perform .declareGlobals).1 =
        ((s.perform .declareGlobals).1.perform .declareMemory).1 ∧
      ((s.perform .declareMemory).1.perform .declareGlobals).2 = (s.perform .declareGlobals).2 ∧
        ((s.perform .declareGlobals).1.perform .declareMemory).2 = (s.perform .declareMemory).2 := by
  cases isOpen : s.phase.isOpen with
  | false =>
    have memory : s.perform .declareMemory = _ := perform_closed rfl isOpen
    have globals : s.perform .declareGlobals = _ := perform_closed rfl isOpen
    simp only [memory, globals, and_self]
  | true =>
    have declaring : Phase.importsDeclared.isOpen := rfl
    obtain ⟨made, memory⟩ := Imports.declareMemory_determined s.module s.imports.memory s.store.memoryLimit
    obtain ⟨created, globals⟩ := Imports.declareGlobals_determined s.module s.imports.globals
    cases made <;> cases created <;>
      simp [perform_declareMemory, perform_declareGlobals, isOpen, declaring, memory, globals, Except.map,
        Imports.memoryPlan?]

/-! ## What an operation leaves of declarations -/

namespace Performs

variable (h : Performs s op s' reply)

include h

theorem memory_eq (other : op ≠ .declareMemory) : s'.imports.memory = s.imports.memory := by
  cases h with
  | refused | getsGlobal | fails | starts | instantiates | calls | hangs | reads | writes | setsTimer => rfl
  | declaresMemory => exact absurd rfl other
  | declaresGlobals _ declared => exact congrArg (·.memory) (Imports.declareGlobals_ok declared).2
  | setsGlobal set => exact (Imports.setGlobal_ok set).1

theorem globals_isSome (other : op ≠ .declareGlobals) : s'.imports.globals.isSome = s.imports.globals.isSome := by
  cases h with
  | refused | getsGlobal | fails | starts | instantiates | calls | hangs | reads | writes | setsTimer => rfl
  | declaresMemory _ declared =>
    exact congrArg (·.globals.isSome) (Imports.declareMemory_ok declared).2
  | declaresGlobals => exact absurd rfl other
  | setsGlobal set => exact (Imports.setGlobal_ok set).2.2

theorem memoryLimit : s'.store.memoryLimit = s.store.memoryLimit := by
  cases h with
  | refused | starts | hangs | getsGlobal | reads | setsTimer | writes => rfl
  | declaresMemory _ declared =>
    cases Imports.declareMemory_declares declared <;> rfl
  | declaresGlobals _ declared =>
    rcases Imports.declareGlobals_creates declared with ⟨_, rfl⟩ | ⟨_, created, _⟩
    · rfl
    · obtain ⟨_, rfl, _⟩ := created.cells
      rfl
  | @setsGlobal name v _ _ set =>
    have way := Imports.sets s.imports s.store name v
    rw [set] at way
    cases way <;> rfl
  | fails _ linked | instantiates _ linked => exact (link_ages linked).memoryLimit
  | calls _ _ measured =>
    exact (measure_keeps (P := fun _ => True) (I := s.store.Ages) (fun _ => ages_changes) s.module.program.within_all
      measured (.refl _)).memoryLimit

end Performs

/-! ## Settled declarations -/

/-- **What has become of a declaration** with some answer: it has declared what it declares, or it cannot. A closed
session declares nothing anyway. -/
inductive Settled (s : Session) : Op → Reply → Prop where
  | closed {op : Op} {reply : Reply} (closed : s.phase.isOpen = false) : Settled s op reply
  | memory {backing : Backing} (phase : s.phase = .importsDeclared) (declared : s.imports.memory = some backing) :
      Settled s .declareMemory (.ok (.plan backing.plan?))
  | noMemory {fault : MemoryFault} (refused : s.imports.declareMemory s.store s.module = .error fault) :
      Settled s .declareMemory (.error (.ofMemory fault))
  | globals (phase : s.phase = .importsDeclared) (declared : s.imports.globals.isSome) :
      Settled s .declareGlobals (.ok .done)
  | noGlobals {cause : Error} (refused : s.imports.declareGlobals s.store s.module = .error cause) :
      Settled s .declareGlobals (.error (.refused cause))

/-- **Every declaration is settled** by its answer. -/
theorem settled_of_perform (declares : op.isDeclaration) : Settled (s.perform op).1 op (s.perform op).2 := by
  cases isOpen : s.phase.isOpen with
  | false =>
    rw [perform_declaration_closed declares isOpen]
    exact .closed isOpen
  | true =>
    cases op with
    | declareMemory =>
      rw [perform_declareMemory isOpen]
      cases result : s.imports.declareMemory s.store s.module with
      | error fault => exact .noMemory result
      | ok p =>
        obtain ⟨backing, declared⟩ := Option.isSome_iff_exists.1 (Imports.declareMemory_ok result).1
        have plan : p.1.memoryPlan? = backing.plan? := by rw [Imports.memoryPlan?, declared, Option.bind_some]
        dsimp only
        rw [plan]
        exact .memory rfl declared
    | declareGlobals =>
      rw [perform_declareGlobals isOpen]
      cases result : s.imports.declareGlobals s.store s.module with
      | error cause => exact .noGlobals result
      | ok p => exact .globals rfl (Imports.declareGlobals_ok result).1
    | _ => cases declares

/-- **A settled declaration** changes nothing when it is performed again, and is answered as before. -/
theorem Settled.again (h : Settled s op reply) (isOpen : s.phase.isOpen) : s.perform op = (s, reply) := by
  cases h with
  | closed closed =>
    rw [closed] at isOpen
    cases isOpen
  | memory phase declared =>
    rw [perform_declareMemory isOpen, Imports.declareMemory, if_pos (by rw [declared]; rfl)]
    dsimp only
    rw [← phase, Imports.memoryPlan?, declared, Option.bind_some]
  | noMemory refused => rw [perform_declareMemory isOpen, refused]
  | globals phase declared =>
    rw [perform_declareGlobals isOpen, Imports.declareGlobals, if_pos declared]
    dsimp only
    rw [← phase]
  | noGlobals refused => rw [perform_declareGlobals isOpen, refused]

/-- As long as a session is open, what it has declared remains declared. -/
theorem Phase.Leads.eq_importsDeclared {p : Phase} (h : Phase.importsDeclared.Leads p) (isOpen : p.isOpen) :
    p = .importsDeclared := by
  cases h with
  | stays => rfl
  | instantiates | fails => cases isOpen

/-- **A declaration stays settled**, whatever is performed. -/
theorem Settled.perform (h : Settled s op reply) (op' : Op) : Settled (s.perform op').1 op reply := by
  have performed := performs s op'
  cases isOpen : (s.perform op').1.phase.isOpen with
  | false => exact .closed isOpen
  | true =>
    have before := performed.leads.isOpen isOpen
    by_cases same : op' = op
    · rw [same, h.again before]
      exact h
    · cases h with
      | closed closed =>
        rw [closed] at before
        cases before
      | memory phase declared =>
        exact .memory ((phase ▸ performed.leads).eq_importsDeclared isOpen) ((performed.memory_eq same).trans declared)
      | noMemory refused =>
        refine .noMemory ?_
        rw [performed.module]
        exact Imports.declareMemory_error refused (performed.memory_eq same) performed.memoryLimit
      | globals phase declared =>
        exact .globals ((phase ▸ performed.leads).eq_importsDeclared isOpen)
          ((performed.globals_isSome same).trans declared)
      | noGlobals refused =>
        refine .noGlobals ?_
        rw [performed.module]
        exact Imports.declareGlobals_error refused (performed.globals_isSome same)

theorem Settled.run : ∀ {ops : List Op} {s : Session}, Settled s op reply → Settled (s.run ops) op reply
  | [], _, h => h
  | op' :: _, _, h => (h.perform op').run

/-! ## Runs of declarations -/

/-- A declaration neither opens nor closes a session. -/
theorem perform_declaration_isOpen (declares : op.isDeclaration) :
    (s.perform op).1.phase.isOpen = s.phase.isOpen := by
  cases isOpen : s.phase.isOpen with
  | false => rw [perform_declaration_closed declares isOpen, isOpen]
  | true =>
    cases op with
    | declareMemory =>
      rw [perform_declareMemory isOpen]
      cases s.imports.declareMemory s.store s.module with
      | error fault => exact isOpen
      | ok p => rfl
    | declareGlobals =>
      rw [perform_declareGlobals isOpen]
      cases s.imports.declareGlobals s.store s.module with
      | error cause => exact isOpen
      | ok p => rfl
    | _ => cases declares

/-- A declaration that is made twice is answered twice. -/
theorem perform_twice (declares : op.isDeclaration) :
    ((s.perform op).1.perform op).2 = (s.perform op).2 := by
  cases isOpen : s.phase.isOpen with
  | false => rw [perform_declaration_closed declares isOpen]
  | true =>
    rw [(settled_of_perform declares).again ((perform_declaration_isOpen declares).trans isOpen)]

/-- **Two declarations commute**, and neither changes the answer of the other one. -/
theorem perform_comm (s : Session) (declares : op.isDeclaration) (declares' : op'.isDeclaration) :
    ((s.perform op).1.perform op').1 = ((s.perform op').1.perform op).1 ∧
      ((s.perform op).1.perform op').2 = (s.perform op').2 := by
  obtain ⟨states, globals, memory⟩ := declareMemory_declareGlobals s
  cases op with
  | declareMemory =>
    cases op' with
    | declareMemory => exact ⟨rfl, perform_twice rfl⟩
    | declareGlobals => exact ⟨states, globals⟩
    | _ => cases declares'
  | declareGlobals =>
    cases op' with
    | declareMemory => exact ⟨states.symm, memory⟩
    | declareGlobals => exact ⟨rfl, perform_twice rfl⟩
    | _ => cases declares'
  | _ => cases declares

/-- Operations that all declare something. -/
def Declarations (ops : List Op) : Prop := ∀ op ∈ ops, op.isDeclaration

/-- A declaration can be made before others as well. -/
theorem run_perform_comm (declares : op.isDeclaration) : ∀ {ops : List Op} (s : Session), Declarations ops →
    ((s.run ops).perform op).1 = (s.perform op).1.run ops ∧ ((s.run ops).perform op).2 = (s.perform op).2
  | [], _, _ => ⟨rfl, rfl⟩
  | op' :: ops, s, all => by
    obtain ⟨declares', others⟩ := List.forall_mem_cons.1 all
    obtain ⟨state, answer⟩ := run_perform_comm declares (s.perform op').1 others
    obtain ⟨swapped, same⟩ := perform_comm s declares' declares
    refine ⟨state.trans ?_, answer.trans same⟩
    rw [swapped]
    rfl

theorem run_comm {ops : List Op} (all : Declarations ops) : ∀ {ops' : List Op} (s : Session), Declarations ops' →
    (s.run ops).run ops' = (s.run ops').run ops
  | [], _, _ => rfl
  | op' :: ops', s, all' => by
    obtain ⟨declares', others⟩ := List.forall_mem_cons.1 all'
    calc (s.run ops).run (op' :: ops')
      _ = ((s.run ops).perform op').1.run ops' := rfl
      _ = ((s.perform op').1.run ops).run ops' := by rw [(run_perform_comm declares' s all).1]
      _ = ((s.perform op').1.run ops').run ops := run_comm all _ others

/-- **A declaration that is repeated** changes nothing, whatever was done in between. -/
theorem run_again (declares : op.isDeclaration) (s : Session) (front middle : List Op) :
    ((s.run (front ++ op :: middle)).perform op).1 = s.run (front ++ op :: middle) ∧
      ((s.run (front ++ op :: middle)).phase.isOpen →
        ((s.run (front ++ op :: middle)).perform op).2 = ((s.run front).perform op).2) := by
  have settled : Settled (s.run (front ++ op :: middle)) op ((s.run front).perform op).2 := by
    have made : Settled ((s.run front).perform op).1 op ((s.run front).perform op).2 := settled_of_perform declares
    rw [run_append]
    change Settled (((s.run front).perform op).1.run middle) op _
    exact made.run
  cases isOpen : (s.run (front ++ op :: middle)).phase.isOpen with
  | false => exact ⟨perform_declaration_closed declares isOpen, nofun⟩
  | true =>
    rw [settled.again isOpen]
    exact ⟨rfl, fun _ => rfl⟩

theorem run_absorbs {ops : List Op} (all : Declarations ops) (s : Session) : ∀ {ops' : List Op}, ops' ⊆ ops →
    (s.run ops).run ops' = s.run ops
  | [], _ => rfl
  | op' :: ops', among => by
    obtain ⟨here, others⟩ := List.cons_subset.1 among
    obtain ⟨front, middle, split⟩ := List.append_of_mem here
    have again := (run_again (all op' here) s front middle).1
    rw [← split] at again
    calc (s.run ops).run (op' :: ops')
      _ = ((s.run ops).perform op').1.run ops' := rfl
      _ = (s.run ops).run ops' := by rw [again]
      _ = s.run ops := run_absorbs all s others

/-- **What comes of declarations** of a session, in whatever order and however often they are made. -/
structure Redeclarable (s : Session) : Prop where
  /-- The same declarations lead to the same session, so everything that follows is the same, too. -/
  order : ∀ ops ops', Declarations ops → Declarations ops' → (∀ op, op ∈ ops ↔ op ∈ ops') → s.run ops = s.run ops'
  /-- Each of them has the answer that it has if it is the only one. -/
  answer : ∀ ops op, Declarations ops → op.isDeclaration → ((s.run ops).perform op).2 = (s.perform op).2
  /-- A declaration that is repeated changes nothing, whatever was done in between, and has its first answer as long
  as anything can be declared. -/
  again : ∀ front op middle, op.isDeclaration →
    ((s.run (front ++ op :: middle)).perform op).1 = s.run (front ++ op :: middle) ∧
      ((s.run (front ++ op :: middle)).phase.isOpen →
        ((s.run (front ++ op :: middle)).perform op).2 = ((s.run front).perform op).2)

/-- **The imports of a session** can be declared in any order, and again. -/
theorem redeclarable (s : Session) : Redeclarable s where
  order ops ops' all all' same := by
    calc s.run ops
      _ = (s.run ops).run ops' := (run_absorbs all s fun op => (same op).2).symm
      _ = (s.run ops').run ops := run_comm all s all'
      _ = s.run ops' := run_absorbs all' s fun op => (same op).1
  answer ops op all declares := (run_perform_comm declares s all).2
  again front op middle declares := run_again declares s front middle

/-- What a host has written remains when the globals are declared again. -/
theorem redeclarable_setting : ∃ s, compile {} settingModule = .ok s ∧
    s.run [.declareMemory, .declareGlobals] = s.run [.declareGlobals, .declareGlobals, .declareMemory] ∧
    ((s.run [.declareGlobals, .setGlobal "g" (.i32 5)]).perform .declareGlobals).1 =
        s.run [.declareGlobals, .setGlobal "g" (.i32 5)] ∧
      (s.run [.declareGlobals, .setGlobal "g" (.i32 5)]).getGlobal "g" = (.i32, .i32 5) := by
  obtain ⟨s, compiled, written⟩ : ∃ s, compile {} settingModule = .ok s ∧
      (s.run [.declareGlobals, .setGlobal "g" (.i32 5)]).getGlobal "g" = (.i32, .i32 5) := by decide +kernel
  refine ⟨s, compiled, ?_, ?_, written⟩
  · refine (redeclarable s).order _ _ ?_ ?_ fun op => ?_
    · unfold Declarations
      decide
    · unfold Declarations
      decide
    · simp [or_comm]
  · exact ((redeclarable s).again [] .declareGlobals [.setGlobal "g" (.i32 5)] rfl).1

end WasmLens.Session
