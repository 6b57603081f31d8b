import WasmLens.Proofs.Machine.Literals
import WasmLens.Proofs.Session.GlobalAccess

/-!
# Globals that a host and an instance share

The k-th global that a module imports and the k-th global that the host declares are **one cell**
(`SameCell`), from the moment when the instance is set up and for ever (`run_shares`). So the value that the
host gave it is what the module starts out with, and what either of them writes later the other one reads. No
one writes to an immutable one.
-/
namespace WasmLens.Session

open Wasm Machine CompiledModule

/-! ## Moments with an instance -/

/-- The stores that there are once a session has set up its instance: those in which the start function runs,
and those during any later operations. -/
inductive Afterwards (s : Session) : Store → Prop where
  | starting {externs : List Extern} {ready now : Store} {func : Nat}
      (bound : s.imports.externs s.module.outline = .ok externs)
      (prepared : prepare s.store externs s.module.image s.module.config.bulkMemory = .ready ready)
      (start : s.module.image.start = some func) (calls : Calls s.module.program ready func [] now) :
      Afterwards s now
  | later {op : Op} {now : Store} (ops : List Op) (during : During (s.run (.instantiate :: ops)) op now) :
      Afterwards s now

/-- **A global of the instance is the cell of a declared one**: reading it gives the value there, and writing
it sets that. -/
structure SameCell (now : Store) (index : Nat) (g : GlobalImport) : Prop where
  bound : now.bound[index]? = some g.cell
  reads : ∀ stack, ∃ c, now.globals[g.cell]? = some c ∧ now.globalGet index stack = .done now (c.value :: stack)
  writes : ∀ v stack now' stack', now.globalSet index v stack = .done now' stack' →
    now'.globals[g.cell]?.map (·.value) = some v

theorem SameCell.of_bound {now : Store} {index : Nat} {g : GlobalImport} {c : Cell}
    (bound : now.bound[index]? = some g.cell) (found : now.globals[g.cell]? = some c) :
    SameCell now index g where
  bound := bound
  reads stack := by
    refine ⟨c, found, ?_⟩
    rw [Store.globalGet, Store.global?_of_bound bound, found]
    rfl
  writes v stack now' stack' set := by
    simp only [Store.globalSet, bound, Store.cell?, Option.bind_some, found] at set
    split at set
    · rename_i place c' here put
      cases here
      cases set
      have inside := (Array.getElem?_eq_some_iff.1 found).1
      simp only [Store.setCell, Array.getElem?_setIfInBounds_self_of_lt inside, Option.map_some,
        (Cell.put?_eq_some put).2]
    · cases set

section

variable {contents : List Content} {s s' : Session} {op : Op} {reply : Reply}

/-! ## Sessions with an instance -/

/-- An instance stays, and stays bound to the same cells. -/
theorem Performs.live (h : Performs s op s' reply) (phased : WellPhased s) (live : s.phase = .instantiated) :
    s'.phase = .instantiated ∧ s'.globalImports = s.globalImports ∧ s'.store.bound = s.store.bound := by
  have closed : s.phase.isOpen = false := by rw [live]; rfl
  cases h with
  | refused | starts | hangs | getsGlobal | reads | setsTimer | writes => exact ⟨live, rfl, rfl⟩
  | declaresMemory isOpen | declaresGlobals isOpen | fails isOpen | instantiates isOpen =>
    rw [closed] at isOpen
    cases isOpen
  | @setsGlobal name v _ _ set =>
    have way := Imports.sets s.imports s.store name v
    rw [set] at way
    cases way with
    | unknown | void | writes => exact ⟨live, rfl, rfl⟩
    | moves _ _ _ free =>
      rw [phased.bound.2 live] at free
      cases free
  | calls _ _ measured =>
    exact ⟨live, rfl, measure_keeps (P := fun _ => True) (I := fun now => now.bound = s.store.bound)
      (fun _ before changes => changes.bound.trans before) s.module.program.within_all measured rfl⟩

theorem run_live (phased : WellPhased s) (live : s.phase = .instantiated) (ops : List Op) :
    (s.run ops).phase = .instantiated ∧ (s.run ops).globalImports = s.globalImports ∧
      (s.run ops).store.bound = s.store.bound := by
  refine (run_keeps (fun s' => WellPhased s' ∧ s'.phase = .instantiated ∧
    s'.globalImports = s.globalImports ∧ s'.store.bound = s.store.bound) ?_ ops
    ⟨phased, live, rfl, rfl⟩).2
  rintro s' op s'' reply ⟨phased, live, globals, bound⟩ performed
  obtain ⟨live', globals', bound'⟩ := performed.live phased live
  exact ⟨performed.wellPhased phased, live', globals'.trans globals, bound'.trans bound⟩

theorem perform_instantiate {store : Store} (isOpen : s.phase.isOpen) (linked : s.link = some (store, .ok ())) :
    (s.perform .instantiate).1 = { s with
      store
      imports := { s.imports with isBound := true }
      live := some (Instance.ofModule s.module s.imports)
      catalog := Catalog.build s.module
      phase := .instantiated } := by
  simp only [perform, instantiate, expectOpen, isOpen, if_true, linked]
  rfl

/-- Only an instantiation leads to an instance. -/
theorem Performs.instantiated (h : Performs s op s' reply) (isOpen : s.phase.isOpen)
    (live : s'.phase = .instantiated) : op = .instantiate ∧ ∃ store, s.link = some (store, .ok ()) := by
  cases h with
  | instantiates _ linked => exact ⟨rfl, _, linked⟩
  | declaresMemory | declaresGlobals | fails => cases live
  | refused | starts | hangs | setsGlobal | getsGlobal | calls | reads | writes | setsTimer =>
    rw [show s.phase = .instantiated from live] at isOpen
    cases isOpen

/-- **A run that reaches an instance** has instantiated an open session on the way. -/
theorem run_instantiates : ∀ (ops : List Op) {s : Session}, WellPhased s → s.phase.isOpen →
    (s.run ops).phase = .instantiated → ∃ front later store, ops = front ++ .instantiate :: later ∧
      (s.run front).phase.isOpen ∧ (s.run front).link = some (store, .ok ())
  | [], s, _, isOpen, live => by
    rw [show s.phase = .instantiated from live] at isOpen
    cases isOpen
  | op :: ops, s, phased, isOpen, live => by
    have performed := performs s op
    have next := performed.wellPhased phased
    rcases Bool.eq_false_or_eq_true (s.perform op).1.phase.isOpen with still | closed
    · obtain ⟨front, later, store, rfl, first, linked⟩ := run_instantiates ops next still live
      exact ⟨op :: front, later, store, rfl, first, linked⟩
    · -- a phase that is closed is the last one
      have last : (s.perform op).1.phase = .instantiated := by
        rw [← (run_wellPhased ops next).2.eq_of_closed closed]
        exact live
      obtain ⟨rfl, store, linked⟩ := performed.instantiated isOpen last
      exact ⟨[], ops, store, rfl, isOpen, linked⟩

/-! ## Shared globals -/

/-- What is known of a session at the moment when it is about to set up its instance. -/
structure Poised (contents : List Content) (s : Session) : Prop where
  coherent : Coherent contents s.module
  phased : WellPhased s
  wired : Wired contents s
  isOpen : s.phase.isOpen
  linked : ∃ store, s.link = some (store, .ok ())

variable (h : Poised contents s)

include h

/-- The instance is set up on the cells of the host, which still hold what they did. -/
theorem Poised.ready {externs : List Extern} {ready : Store}
    (bound : s.imports.externs s.module.outline = .ok externs)
    (prepared : prepare s.store externs s.module.image s.module.config.bulkMemory = .ready ready) :
    Runs contents s.store ready ∧ s.store.globals.toList <+: ready.globals.toList ∧
      ∀ (k : Nat) g, s.globalImports[k]? = some g → ready.bound[k]? = some g.cell := by
  have way := prepares s.store externs s.module.image s.module.config.bulkMemory
  rw [prepared] at way
  cases way with
  | ready _ alike =>
    refine ⟨(h.wired.allocates h.coherent bound).alike alike, ?_, fun k g found => ?_⟩
    · rw [alike.globals]
      exact (allocate_extends ..).globals
    · rw [alike.bound]
      refine allocate_bound ?_
      rw [(h.wired.cells h.coherent bound).1, List.getElem?_map, show s.imports.globalList[k]? = some g from found,
        Option.map_some]

/-- The instance once it is there, and whatever has been done since. -/
theorem Poised.later (ops : List Op) : WellPhased (s.run (.instantiate :: ops)) ∧
    Wired contents (s.run (.instantiate :: ops)) ∧ (s.run (.instantiate :: ops)).phase = .instantiated ∧
      (s.run (.instantiate :: ops)).globalImports = s.globalImports ∧
        s.store.Descends (s.run (.instantiate :: ops)).store := by
  obtain ⟨store, linked⟩ := h.linked
  have phased := (performs s .instantiate).wellPhased h.phased
  have after := perform_instantiate h.isOpen linked
  have live : (s.perform .instantiate).1.phase = .instantiated := by rw [after]
  have globals : (s.perform .instantiate).1.globalImports = s.globalImports := by
    rw [after]
    rfl
  obtain ⟨live', globals', _⟩ := run_live phased live ops
  obtain ⟨phased', wired', descends⟩ := run_wired h.coherent h.phased h.wired (.instantiate :: ops)
  exact ⟨phased', wired', live', globals'.trans globals, descends⟩

/-- **From then on** the cells of the host are the globals of the instance. -/
theorem Poised.afterwards {now : Store} (moment : Afterwards s now) :
    Runs contents s.store now ∧
      ∀ (k : Nat) g, s.globalImports[k]? = some g → now.bound[k]? = some g.cell := by
  cases moment with
  | @starting externs ready _ _ bound prepared start calls =>
    obtain ⟨runs, _, cells⟩ := h.ready bound prepared
    obtain ⟨runs, same⟩ := calls.keeps (P := SetsMutable (Content.entriesOf contents).globals)
      (I := fun now => Runs contents s.store now ∧ now.bound = ready.bound)
      (fun allowed before changes => ⟨before.1.changes allowed changes, changes.bound.trans before.2⟩)
      h.coherent.setsMutable ⟨runs, rfl⟩
    exact ⟨runs, same ▸ cells⟩
  | @later op _ ops during =>
    obtain ⟨phased, wired, live, globals, descends⟩ := h.later ops
    have coherent : Coherent contents (s.run (.instantiate :: ops)).module := by
      rw [run_module]
      exact h.coherent
    have performed := performs (s.run (.instantiate :: ops)) op
    obtain ⟨next, onward⟩ := performed.wired coherent phased wired
    obtain ⟨_, _, bound⟩ := performed.live phased live
    obtain ⟨runs, same⟩ := during.keeps (P := SetsMutable (Content.entriesOf contents).globals)
      (I := fun now => Runs contents (s.run (.instantiate :: ops)).store now ∧
        now.bound = (s.run (.instantiate :: ops)).store.bound)
      (fun allowed before changes => ⟨before.1.changes allowed changes, changes.bound.trans before.2⟩)
      coherent.setsMutable
      (fun alike before => ⟨before.1.alike alike, alike.bound.trans before.2⟩)
      ⟨⟨.refl _, wired.binds⟩, rfl⟩ ⟨⟨onward, next.binds⟩, bound⟩
      (fun _ isOpen => by
        rw [live] at isOpen
        cases isOpen)
    refine ⟨⟨descends.trans runs.descends, runs.binds⟩, fun k g found => ?_⟩
    rw [same]
    have found : (s.run (.instantiate :: ops)).globalImports[k]? = some g := by
      rw [globals]
      exact found
    exact (wired.linked live).2 k g found

/-- The k-th declared global has a value, and the instance is set up with it. -/
theorem Poised.values : ∃ values : List Val, (∀ k, values[k]? = s.valueAt? k) ∧
    ∀ externs, s.imports.externs s.module.outline = .ok externs → (bind s.store externs).Reads values := by
  have found (k : Nat) (g : GlobalImport) (there : s.globalImports[k]? = some g) :
      ∃ c, s.store.globals[g.cell]? = some c := by
    obtain ⟨c, cell, _⟩ := (h.wired.global there).cells k g there
    exact ⟨c, cell⟩
  have each (k : Nat) : (s.globalImports.map fun g =>
      ((s.store.globals[g.cell]?).map (·.value)).getD default)[k]? = s.valueAt? k := by
    rw [List.getElem?_map]
    cases there : s.globalImports[k]? with
    | none => rw [valueAt?, there, Option.map_none, Option.bind_none]
    | some g =>
      obtain ⟨c, cell⟩ := found k g there
      rw [valueAt?_eq there, Option.map_some, cell, Option.map_some, Option.getD_some]
  refine ⟨_, each, fun externs bound k v given => ?_⟩
  rw [each] at given
  cases there : s.globalImports[k]? with
  | none =>
    rw [valueAt?, there, Option.bind_none] at given
    cases given
  | some g =>
    rw [valueAt?_eq there] at given
    refine (Store.global?_of_bound (s := bind s.store externs) ?_).trans given
    rw [Machine.bind, List.getElem?_toArray, (h.wired.cells h.coherent bound).1, List.getElem?_map,
      show s.imports.globalList[k]? = some g from there, Option.map_some]

theorem Poised.provided : Provided (contents.flatMap Content.importItems) s.globalImports s.store := by
  obtain ⟨store, linked⟩ := h.linked
  obtain ⟨externs, _, bound, _⟩ := link_ok linked
  have length := (h.wired.cells h.coherent bound).2
  cases globals : s.imports.globals with
  | some list =>
    rw [globalImports, Imports.globalList, globals, Option.getD_some]
    exact h.wired.provided list globals
  | none =>
    rw [Imports.globalList, globals] at length
    rw [globalImports, Imports.globalList, globals]
    exact .nil length.symm

omit h in
/-- **How a host and an instance share the globals** that the module imports. -/
structure Shares (contents : List Content) (s : Session) : Prop where
  /-- The declared globals are the imported ones of the binary, one for one. -/
  names : s.globalImports.map (fun g => (g.module, g.name)) =
    (contents.flatMap Content.importItems).filterMap (·.globalName?)
  infos : s.globalImports.map (fun g => (⟨g.type, g.isMutable⟩ : GlobalInfo)) =
    ((contents.flatMap Content.importItems).filterMap (·.globalType?)).map Outline.globalInfo
  fixed : ∀ ops, (s.run (.instantiate :: ops)).globalImports = s.globalImports
  /-- The instance is set up as if the values of the host were written into the module, and it starts with
  these values. -/
  setUp : ∃ externs ready, s.imports.externs s.module.outline = .ok externs ∧
    prepare s.store externs s.module.image s.module.config.bulkMemory = .ready ready ∧
      (∃ values : List Val, (∀ k, values[k]? = s.valueAt? k) ∧
        prepare s.store externs (s.module.image.inlined values) s.module.config.bulkMemory = .ready ready) ∧
      (∀ k < s.globalImports.length, ready.global? k = s.valueAt? k) ∧
        runStart s.module.program ready s.module.image.start = some (.ready (s.perform .instantiate).1.store)
  same : ∀ now, Afterwards s now → ∀ (k : Nat) g, s.globalImports[k]? = some g → SameCell now k g
  /-- What the instance has is what the host gets. -/
  read : ∀ ops name place g, Resolves s.globalImports name place g →
    (s.run (.instantiate :: ops)).getGlobal name =
      (g.type, (((s.run (.instantiate :: ops)).store.global? place).map Val.toValue).getD .void)
  /-- What the host writes is what the instance reads. -/
  written : ∀ ops name v place g, Resolves s.globalImports name place g → g.type ≠ .void →
    ((s.run (.instantiate :: ops)).setGlobal name v).2 = .ok () →
      (((s.run (.instantiate :: ops)).setGlobal name v).1.store.global? place).map Val.toValue =
        some (Value.ofBits g.type v.toBits)
  frozen : ∀ now, Afterwards s now → ∀ (k : Nat) g, s.globalImports[k]? = some g → g.isMutable = false →
    now.global? k = s.valueAt? k

/-- What the instance has is what the host gets. -/
theorem Poised.read (ops : List Op) {name : String} {place : Nat} {g : GlobalImport}
    (resolved : Resolves s.globalImports name place g) : (s.run (.instantiate :: ops)).getGlobal name =
      (g.type, (((s.run (.instantiate :: ops)).store.global? place).map Val.toValue).getD .void) := by
  obtain ⟨_, _, _, globals, _⟩ := h.later ops
  obtain ⟨_, places⟩ := h.afterwards (.later ops (.before .instantiate))
  have resolved' : Resolves (s.run (.instantiate :: ops)).globalImports name place g := globals ▸ resolved
  rw [getGlobal_of_resolves resolved', valueAt?_eq resolved'.found,
    Store.global?_of_bound (places place g resolved.found)]

/-- What the host writes is what the instance reads. -/
theorem Poised.written (ops : List Op) {name : String} {v : Value} {place : Nat} {g : GlobalImport}
    (resolved : Resolves s.globalImports name place g) (type : g.type ≠ .void)
    (ok : ((s.run (.instantiate :: ops)).setGlobal name v).2 = .ok ()) :
    (((s.run (.instantiate :: ops)).setGlobal name v).1.store.global? place).map Val.toValue =
      some (Value.ofBits g.type v.toBits) := by
  obtain ⟨phased, wired, _, globals, _⟩ := h.later ops
  have resolved' : Resolves (s.run (.instantiate :: ops)).globalImports name place g := globals ▸ resolved
  have got := ((setGlobal_setsTo wired phased name v).setsGlobal.replaces place g resolved' type ok).value
  obtain ⟨runs, places⟩ := h.afterwards (.later ops (.after (.setGlobal name v)))
  obtain ⟨c, cell, _⟩ := (h.provided.descends runs.descends).cells place g resolved.found
  have value := Store.global?_of_bound (places place g resolved.found)
  rw [cell, Option.map_some] at value
  have last : s.run (.instantiate :: (ops ++ [.setGlobal name v])) =
      ((s.run (.instantiate :: ops)).perform (.setGlobal name v)).1 := run_append s (.instantiate :: ops) _
  have read := h.read (ops ++ [.setGlobal name v]) resolved
  rw [last, value] at read
  have eq := got.symm.trans ((congrArg _ resolved.named).trans read)
  rw [show ((s.run (.instantiate :: ops)).setGlobal name v).1.store.global? place = some c.value from value]
  exact congrArg some (Prod.mk.inj eq).2.symm

theorem Poised.shares : Shares contents s := by
  obtain ⟨store, linked⟩ := h.linked
  obtain ⟨externs, ready, bound, prepared, _, _, started⟩ := link_ok linked
  obtain ⟨_, kept, cells⟩ := h.ready bound prepared
  refine ⟨h.provided.names, h.provided.infos, fun ops => (h.later ops).2.2.2.1, ?_, ?_,
    fun ops _ _ _ => h.read ops, fun ops _ _ _ _ => h.written ops, ?_⟩
  · obtain ⟨values, given, reads⟩ := h.values
    refine ⟨externs, ready, bound, prepared, ⟨values, given, ?_⟩, fun k inside => ?_, ?_⟩
    · rw [prepare_inlined (reads externs bound), prepared]
    · have found := List.getElem?_eq_getElem inside
      obtain ⟨c, cell, _⟩ := h.provided.cells k _ found
      rw [Store.global?_of_bound (cells k _ found), valueAt?_eq found, cell, getElem?_of_front kept cell]
    · rw [perform_instantiate h.isOpen linked]
      exact started
  · intro now moment k g found
    obtain ⟨runs, places⟩ := h.afterwards moment
    obtain ⟨c, cell, _⟩ := (h.provided.descends runs.descends).cells k g found
    exact .of_bound (places k g found) cell
  · intro now moment k g found immutable
    obtain ⟨runs, places⟩ := h.afterwards moment
    obtain ⟨c, cell, _, mutability⟩ := h.provided.cell found
    obtain ⟨c', cell', _, frozen⟩ := runs.descends g.cell c cell
    rw [Store.global?_of_bound (places k g found), valueAt?_eq found, cell, cell',
      frozen (mutability.trans immutable)]

end

/-! ## All runs -/

/-- **A host and an instance share the imported globals.** Whatever a session has gone through to an instance,
at some point it was instantiated; from then on the k-th global that the module imports is the cell of the
k-th declared one. -/
theorem run_shares {c : Config} {bytes : List UInt8} {s : Session} (h : compile c bytes = .ok s)
    (ops : List Op) (live : (s.run ops).phase = .instantiated) :
    ∃ contents, (Sections.payloads bytes).mapM (Content.ofSection c.features) = .ok contents ∧
      ∃ front later, ops = front ++ .instantiate :: later ∧ Shares contents (s.run front) := by
  obtain ⟨r, m, compiles, rfl⟩ := compile_ok h
  have phased := ofModule_wellPhased m
  obtain ⟨front, later, store, eq, isOpen, linked⟩ := run_instantiates ops phased rfl live
  obtain ⟨phased', wired, _⟩ := run_wired compiles.coherent phased (ofModule_wired r.contents m) front
  have coherent : Coherent r.contents ((ofModule m).run front).module := by
    rw [run_module]
    exact compiles.coherent
  have poised : Poised r.contents ((ofModule m).run front) :=
    ⟨coherent, phased', wired, isOpen, store, linked⟩
  exact ⟨r.contents, (Reading.ofBytes_ok_iff.1 compiles.read).1.decoded, front, later, eq, poised.shares⟩

theorem run_shares_sharing : ∃ s, compile {} sharingModule = .ok s ∧
    (s.run sharingRun).phase = .instantiated ∧ ∃ contents,
      (Sections.payloads sharingModule).mapM (Content.ofSection ({} : Config).features) = .ok contents ∧
        ∃ front later, sharingRun = front ++ .instantiate :: later ∧ Shares contents (s.run front) := by
  obtain ⟨s, compiled, live⟩ : ∃ s, compile {} sharingModule = .ok s ∧
      (s.run sharingRun).phase = .instantiated := by decide +kernel
  exact ⟨s, compiled, live, run_shares compiled sharingRun live⟩

end WasmLens.Session
