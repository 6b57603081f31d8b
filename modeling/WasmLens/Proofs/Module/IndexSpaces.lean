import WasmLens.Proofs.Module.Reading

/-!
# The index spaces of an outline

An outline grows section by section, and every kind of section has a part of its own in it. That its index
spaces are those that the module declares, **imported entries first**, holds only because validation makes
the sections come in order: each section by itself appends to what is there.

`Outline.Grows` says what an outline gains by contents, `addImports_reflect` what becomes of each import,
and `ofBytes_declared` puts both together for a whole module.
-/
namespace WasmLens

open Wasm

/-! ## What contents declare -/

namespace Wasm.Content

def importItems : Content → List Import
  | .imports items => items
  | _ => []

/-- The types of all recursion groups, one after another. -/
def definedTypes : Content → List SubType
  | .types groups => groups.flatMap (·.types)
  | _ => []

def definedFunctions : Content → List Nat
  | .functions indices => indices
  | _ => []

def definedMemories : Content → List MemoryType
  | .memories items => items
  | _ => []

def definedGlobals : Content → List GlobalType
  | .globals items => items.map (·.type)
  | _ => []

def start? : Content → Option Nat
  | .start func => some func
  | _ => none

variable {contents : List Content}

theorem place_of_importItems {content : Content} (h : content.importItems ≠ []) :
    content.place? = some 2 := by
  cases content with
  | imports _ => rfl
  | _ => exact absurd rfl h

/-- No memory or global comes in front of the imports. -/
theorem entries_early {content : Content} (none : content.importItems = [])
    (early : ∀ place, content.place? = some place → place < 2) :
    content.entries.memories = [] ∧ content.entries.globals = [] := by
  cases content with
  | imports items =>
    obtain rfl : items = [] := none
    exact ⟨rfl, rfl⟩
  | memories _ | globals _ => exact absurd (early _ rfl) (by decide)
  | _ => exact ⟨rfl, rfl⟩

/-- What enters an index space from imports precedes what is defined behind them. -/
theorem entries_split {α : Type} {space : Entries → List α} {imported : Import → Option α}
    {defined : Content → List α} (place : Nat) (nil : space {} = [])
    (append : ∀ a b, space (a ++ b) = space a ++ space b)
    (parts : ∀ content, space content.entries = content.importItems.filterMap imported ++ defined content)
    (behind : 2 < place) (ofDefined : ∀ content, defined content ≠ [] → content.place? = some place)
    (ordered : Ordered contents) :
    space (entriesOf contents) =
      (contents.flatMap importItems).filterMap imported ++ contents.flatMap defined := by
  rw [entriesOf_eq_flatMap space nil append, List.filterMap_flatMap]
  simp only [parts]
  refine flatMap_split behind (fun content some => place_of_importItems fun none => some ?_) ofDefined ordered
  rw [none, List.filterMap_nil]

theorem types_entriesOf : (entriesOf contents).types = contents.flatMap definedTypes := by
  rw [entriesOf_eq_flatMap (·.types) rfl (fun _ _ => rfl)]
  congr 1
  funext content
  cases content <;> rfl

theorem functions_entriesOf (ordered : Ordered contents) :
    (entriesOf contents).functions =
      (contents.flatMap importItems).filterMap (·.functionType?) ++ contents.flatMap definedFunctions :=
  entries_split 3 rfl (fun _ _ => rfl)
    (fun content => by
      cases content with
      | imports _ => exact (List.append_nil _).symm
      | _ => rfl)
    (by omega)
    (fun content some => by
      cases content with
      | functions _ => rfl
      | _ => exact absurd rfl some)
    ordered

theorem memories_entriesOf (ordered : Ordered contents) :
    (entriesOf contents).memories =
      (contents.flatMap importItems).filterMap (·.memoryType?) ++ contents.flatMap definedMemories :=
  entries_split 5 rfl (fun _ _ => rfl)
    (fun content => by
      cases content with
      | imports _ => exact (List.append_nil _).symm
      | _ => rfl)
    (by omega)
    (fun content some => by
      cases content with
      | memories _ => rfl
      | _ => exact absurd rfl some)
    ordered

theorem globals_entriesOf (ordered : Ordered contents) :
    (entriesOf contents).globals =
      (contents.flatMap importItems).filterMap (·.globalType?) ++ contents.flatMap definedGlobals :=
  entries_split 7 rfl (fun _ _ => rfl)
    (fun content => by
      cases content with
      | imports _ => exact (List.append_nil _).symm
      | _ => rfl)
    (by omega)
    (fun content some => by
      cases content with
      | globals _ => rfl
      | _ => exact absurd rfl some)
    ordered

theorem place_of_start {content : Content} (h : content.start? ≠ none) : content.place? = some 9 := by
  cases content with
  | start _ => rfl
  | _ => exact absurd rfl h

/-- There is at most one start section. -/
theorem starts_toList (ordered : Ordered contents) :
    (contents.filterMap start?).getLast?.toList = contents.filterMap start? := by
  induction contents with
  | nil => rfl
  | cons content contents ih =>
    cases here : content.start? with
    | none => rw [List.filterMap_cons_none here, ih (List.pairwise_cons.1 ordered).2]
    | some func =>
      have last : contents.filterMap start? = [] := List.filterMap_eq_nil_iff.2 fun other mem =>
        Decidable.of_not_not
          (ordered.not_behind (place_of_start (by simp [here])) (Nat.le_refl 9) (fun _ => place_of_start)
            other mem)
      rw [List.filterMap_cons_some here, last]
      rfl

theorem entriesOf_append (a b : List Content) : entriesOf (a ++ b) = entriesOf a ++ entriesOf b := by
  induction a with
  | nil => rfl
  | cons content a ih => rw [List.cons_append, entriesOf, entriesOf, ih, Entries.append_assoc]

end Wasm.Content

/-! ## What a host sees of it -/

/-- What an import shows as, behind imports of some memories and globals. A tag does not show. -/
def Wasm.Import.reflect? (memories globals : Nat) (i : Import) : Option ModuleImport :=
  match i.desc with
  | .func type => some ⟨i.module, i.name, .function type⟩
  | .table _ => some ⟨i.module, i.name, .table⟩
  | .memory _ => some ⟨i.module, i.name, .memory memories⟩
  | .global _ => some ⟨i.module, i.name, .global globals⟩
  | .tag _ => none

/-- What an export shows as. A tag does not show. -/
def Wasm.Export.reflect? (e : Export) : Option ModuleExport :=
  (Outline.exportKind? e.kind).map fun kind => ⟨e.name, kind, e.index⟩

/-- What a global shows as. -/
def Outline.globalInfo (t : GlobalType) : GlobalInfo := ⟨t.content.reflect, t.isMutable⟩

namespace Outline

open Wasm.Content

/-! ## Frames -/

theorem noteMemories_frame (o : Outline) : ∃ w, o.noteMemories = { o with warnings := w } := by
  unfold noteMemories
  dsimp only
  split
  · exact ⟨_, rfl⟩
  · exact ⟨o.warnings, rfl⟩

theorem addName_frame (o : Outline) (naming : Naming) :
    ∃ name names, o.addName naming = { o with name := name, functionNames := names } := by
  cases naming with
  | module name => exact ⟨some name, o.functionNames, rfl⟩
  | function index name =>
    unfold addName
    simp only
    split
    · exact ⟨o.name, _, rfl⟩
    · exact ⟨o.name, o.functionNames, rfl⟩

theorem foldl_addName_frame : ∀ (namings : List Naming) (o : Outline),
    ∃ name names, namings.foldl addName o = { o with name := name, functionNames := names }
  | [], o => ⟨o.name, o.functionNames, rfl⟩
  | naming :: namings, o => by
    obtain ⟨name, names, first⟩ := addName_frame o naming
    obtain ⟨name', names', rest⟩ := foldl_addName_frame namings (o.addName naming)
    refine ⟨name', names', ?_⟩
    rw [List.foldl_cons, rest, first]

theorem addNames_frame (o : Outline) (s : NameSection) :
    ∃ name names w, o.addNames s = { o with name := name, functionNames := names, warnings := w } := by
  obtain ⟨name, names, named⟩ := foldl_addName_frame s.names o
  unfold addNames
  simp only [named]
  split
  · exact ⟨name, names, _, rfl⟩
  · exact ⟨name, names, o.warnings, rfl⟩

/-! ## Growing -/

/-- **What an outline gains** by contents. What it gains by imports is said by `addImports_reflect`. -/
structure Grows (o : Outline) (contents : List Content) (o' : Outline) : Prop where
  types : o'.types = o.types ++ (entriesOf contents).types.map signatureOf
  functions : o'.functions = o.functions ++ (entriesOf contents).functions
  memories : o'.memories = o.memories ++ (entriesOf contents).memories.map memoryInfo
  globals : o'.globals = o.globals ++ (entriesOf contents).globals.map globalInfo
  imports : contents.flatMap importItems = [] → o'.imports = o.imports
  exports : ∃ added, (contents.flatMap exportItems).mapM Export.reflect? = some added ∧
    o'.exports = o.exports ++ added
  start : o'.start = (contents.filterMap start?).getLast?.or o.start
  importedFunctions : o'.importedFunctions =
    o.importedFunctions + ((contents.flatMap importItems).filterMap (·.functionType?)).length
  importedMemories : o'.importedMemories =
    o.importedMemories + ((contents.flatMap importItems).filterMap (·.memoryType?)).length
  importedGlobals : o'.importedGlobals =
    o.importedGlobals + ((contents.flatMap importItems).filterMap (·.globalType?)).length

namespace Grows

variable {o o' o'' : Outline} {a b : List Content}

theorem refl (o : Outline) : o.Grows [] o :=
  ⟨by simp [entriesOf], by simp [entriesOf], by simp [entriesOf], by simp [entriesOf], fun _ => rfl,
    ⟨[], rfl, by simp⟩, rfl, rfl, rfl, rfl⟩

theorem trans (h : o.Grows a o') (h' : o'.Grows b o'') : o.Grows (a ++ b) o'' where
  types := by rw [h'.types, h.types]; simp [entriesOf_append]
  functions := by rw [h'.functions, h.functions]; simp [entriesOf_append]
  memories := by rw [h'.memories, h.memories]; simp [entriesOf_append]
  globals := by rw [h'.globals, h.globals]; simp [entriesOf_append]
  imports := by
    intro none
    rw [List.flatMap_append, List.append_eq_nil_iff] at none
    rw [h'.imports none.2, h.imports none.1]
  exports := by
    obtain ⟨added, shown, exports⟩ := h.exports
    obtain ⟨others, shown', exports'⟩ := h'.exports
    refine ⟨added ++ others, ?_, by rw [exports', exports, List.append_assoc]⟩
    rw [List.flatMap_append, List.mapM_append, shown, shown']
    rfl
  start := by rw [h'.start, h.start, List.filterMap_append, List.getLast?_append, Option.or_assoc]
  importedFunctions := by
    rw [h'.importedFunctions, h.importedFunctions]; simp [Nat.add_assoc]
  importedMemories := by
    rw [h'.importedMemories, h.importedMemories]; simp [Nat.add_assoc]
  importedGlobals := by
    rw [h'.importedGlobals, h.importedGlobals]; simp [Nat.add_assoc]

/-- What an outline gains depends only on what contents hold, not on how sections divide it. -/
theorem congr (h : o.Grows a o') (entries : entriesOf a = entriesOf b)
    (imports : a.flatMap importItems = b.flatMap importItems)
    (exports : a.flatMap exportItems = b.flatMap exportItems)
    (start : a.filterMap start? = b.filterMap start?) : o.Grows b o' :=
  ⟨entries ▸ h.types, entries ▸ h.functions, entries ▸ h.memories, entries ▸ h.globals,
    imports ▸ h.imports, exports ▸ h.exports, start ▸ h.start, imports ▸ h.importedFunctions,
    imports ▸ h.importedMemories, imports ▸ h.importedGlobals⟩

end Grows

/-! ## Sections -/

variable {o o' : Outline}

/-- What differs from an outline in nothing but its names and warnings gains nothing. -/
theorem grows_of_frame {content : Content} (name : Option String) (names : Std.TreeMap Nat String)
    (warnings : List Warning) (entries : content.entries = {}) (imports : content.importItems = [])
    (exports : content.exportItems = []) (start : content.start? = none) :
    o.Grows [content] { o with name := name, functionNames := names, warnings := warnings } := by
  have kept : o.Grows [] { o with name := name, functionNames := names, warnings := warnings } :=
    { Grows.refl o with }
  exact kept.congr (by simp only [entriesOf, entries]; rfl) (by simp [imports]) (by simp [exports])
    (by simp [start])

theorem addImport_grows {i : Import} (h : o.addImport i = .ok o') : o.Grows [.imports [i]] o' := by
  obtain ⟨module, name, desc⟩ := i
  have kept := Grows.refl o
  cases desc <;> simp only [addImport, Except.ok.injEq, reduceCtorEq] at h <;> subst h
  case func => exact { kept with functions := rfl, importedFunctions := rfl, imports := nofun }
  case table => exact { kept with imports := nofun }
  case memory => exact { kept with memories := rfl, importedMemories := rfl, imports := nofun }
  case global => exact { kept with globals := rfl, importedGlobals := rfl, imports := nofun }

theorem addImports_grows : ∀ {items : List Import} {o o' : Outline},
    items.foldlM addImport o = .ok o' → o.Grows [.imports items] o'
  | [], o, o', run => by
    obtain rfl := run_nil_iff.1 run
    exact (Grows.refl o).congr rfl rfl rfl rfl
  | i :: items, o, o', run => by
    obtain ⟨between, first, rest⟩ := run_cons_iff.1 run
    refine ((addImport_grows first).trans (addImports_grows rest)).congr ?_ rfl rfl rfl
    ext1 <;> simp [entriesOf, Content.entries, List.filterMap_cons] <;> split <;> rfl

theorem addGlobals_grows : ∀ (items : List Global) (o : Outline),
    o.Grows [.globals items] (items.foldl (fun o g => o.addGlobal g.type) o)
  | [], o => (Grows.refl o).congr rfl rfl rfl rfl
  | g :: items, o => by
    have first : o.Grows [.globals [g]] (o.addGlobal g.type) := { Grows.refl o with globals := rfl }
    exact (first.trans (addGlobals_grows items (o.addGlobal g.type))).congr rfl rfl rfl rfl

theorem addExports_grows : ∀ {items : List Export} {o o' : Outline},
    items.foldlM addExport o = .ok o' → o.Grows [.exports items] o'
  | [], o, o', run => by
    obtain rfl := run_nil_iff.1 run
    exact (Grows.refl o).congr rfl rfl rfl rfl
  | e :: items, o, o', run => by
    obtain ⟨between, first, rest⟩ := run_cons_iff.1 run
    have shown : o.Grows [.exports [e]] between := by
      unfold addExport at first
      split at first
      · rename_i kind shown
        obtain rfl := Except.ok.inj first
        refine { Grows.refl o with exports := ⟨[⟨e.name, kind, e.index⟩], ?_, rfl⟩ }
        simp [exportItems, Export.reflect?, shown]
      · cases first
    exact (shown.trans (addExports_grows rest)).congr rfl rfl rfl rfl

/-- **Adding contents** to an outline. -/
theorem add_grows {content : Content} (h : o.add content = .ok o') : o.Grows [content] o' := by
  cases content <;> simp only [add, Except.ok.injEq, reduceCtorEq] at h
  case custom name bytes =>
    subst h
    split
    · obtain ⟨name, names, w, eq⟩ := addNames_frame o (NameSection.read bytes)
      rw [eq]
      exact grows_of_frame name names w rfl rfl rfl rfl
    · exact grows_of_frame o.name o.functionNames o.warnings rfl rfl rfl rfl
  case types groups =>
    subst h
    exact { Grows.refl o with types := by simp [addTypes, entriesOf, Content.entries] }
  case imports items =>
    obtain ⟨between, run, rfl⟩ := map_eq_ok_iff.1 h
    obtain ⟨w, eq⟩ := noteMemories_frame between
    rw [eq]
    exact { addImports_grows run with }
  case functions indices =>
    subst h
    exact { Grows.refl o with functions := by simp [entriesOf, Content.entries] }
  case memories items =>
    obtain ⟨w, eq⟩ := noteMemories_frame { o with memories := o.memories ++ items.map memoryInfo }
    rw [← h, eq]
    exact { Grows.refl o with memories := by simp [entriesOf, Content.entries] }
  case globals items => exact h ▸ addGlobals_grows items o
  case exports items => exact addExports_grows h
  case start func =>
    subst h
    exact { Grows.refl o with start := rfl }
  all_goals
    subst h
    exact grows_of_frame o.name o.functionNames o.warnings rfl rfl rfl rfl

theorem run_grows : ∀ {contents : List Content} {o o' : Outline},
    contents.foldlM add o = .ok o' → o.Grows contents o'
  | [], o, o', run => by
    obtain rfl := run_nil_iff.1 run
    exact Grows.refl o
  | content :: contents, o, o', run => by
    obtain ⟨between, first, rest⟩ := run_cons_iff.1 run
    exact (add_grows first).trans (run_grows rest)

/-! ## Imports -/

/-- Imports are shown one by one, and a memory or a global under the number of those that come before
it: some that were there already, and those among the imports in front. -/
structure Reflected (memories globals : Nat) (items : List Import) (shown : List ModuleImport) : Prop where
  length : shown.length = items.length
  each : ∀ p : Nat, shown[p]? = items[p]?.bind fun i => i.reflect?
    (memories + ((items.take p).filterMap (·.memoryType?)).length)
    (globals + ((items.take p).filterMap (·.globalType?)).length)

theorem addImport_reflect {i : Import} (h : o.addImport i = .ok o') :
    ∃ shown, i.reflect? o.memories.length o.globals.length = some shown ∧
      o'.imports = o.imports ++ [shown] := by
  obtain ⟨module, name, desc⟩ := i
  cases desc with
  | tag _ => cases h
  | func _ | table _ | memory _ | global _ =>
    obtain rfl := Except.ok.inj h
    exact ⟨_, rfl, rfl⟩

theorem addImports_reflect : ∀ {items : List Import} {o o' : Outline},
    items.foldlM addImport o = .ok o' →
      ∃ shown, o'.imports = o.imports ++ shown ∧ Reflected o.memories.length o.globals.length items shown
  | [], o, o', run => by
    obtain rfl := run_nil_iff.1 run
    exact ⟨[], (List.append_nil _).symm, rfl, fun p => rfl⟩
  | i :: items, o, o', run => by
    obtain ⟨between, first, rest⟩ := run_cons_iff.1 run
    obtain ⟨here, reflected, pushed⟩ := addImport_reflect first
    obtain ⟨others, imports, length, each⟩ := addImports_reflect rest
    have grown := addImport_grows first
    have memories : between.memories.length =
        o.memories.length + ([i].filterMap (·.memoryType?)).length := by
      rw [grown.memories]
      simp [entriesOf, Content.entries]
    have globals : between.globals.length =
        o.globals.length + ([i].filterMap (·.globalType?)).length := by
      rw [grown.globals]
      simp [entriesOf, Content.entries]
    refine ⟨here :: others, by rw [imports, pushed]; simp, by simp [length], fun p => ?_⟩
    cases p with
    | zero => simp [reflected]
    | succ p =>
      have count {α : Type} (f : Import → Option α) : ((i :: items.take p).filterMap f).length =
          ([i].filterMap f).length + ((items.take p).filterMap f).length := by
        rw [← List.singleton_append, List.filterMap_append, List.length_append]
      simp only [List.getElem?_cons_succ, each p, memories, globals, List.take_succ_cons, count,
        Nat.add_assoc]

/-- **Imports of a module** are shown from the first on, because their section comes before any memory
or global is defined. -/
theorem run_imports : ∀ {contents : List Content} {o o' : Outline}, Content.Ordered contents →
    (contents.flatMap importItems ≠ [] → o.memories = [] ∧ o.globals = []) →
      contents.foldlM add o = .ok o' →
        ∃ shown, o'.imports = o.imports ++ shown ∧ Reflected 0 0 (contents.flatMap importItems) shown
  | [], o, o', _, _, run => by
    obtain rfl := run_nil_iff.1 run
    exact ⟨[], (List.append_nil _).symm, rfl, fun p => rfl⟩
  | content :: contents, o, o', ordered, fresh, run => by
    obtain ⟨between, first, rest⟩ := run_cons_iff.1 run
    have grown := add_grows first
    rcases Decidable.em (content.importItems = []) with none | some
    · -- memories or globals that are defined here come behind all imports
      have later : contents.flatMap importItems ≠ [] → between.memories = [] ∧ between.globals = [] := by
        intro some
        obtain ⟨noMemories, noGlobals⟩ := fresh (by rwa [List.flatMap_cons, none])
        obtain ⟨other, mem, some⟩ : ∃ other ∈ contents, other.importItems ≠ [] := by
          simpa [List.flatMap_eq_nil_iff] using some
        have early := fun place here => (List.pairwise_cons.1 ordered).1 other mem place 2 here
          (place_of_importItems some)
        rw [grown.memories, grown.globals, noMemories, noGlobals]
        simp [entriesOf, entries_early none early]
      obtain ⟨shown, imports, reflected⟩ := run_imports (List.pairwise_cons.1 ordered).2 later rest
      refine ⟨shown, ?_, ?_⟩
      · rw [imports, grown.imports (by simp [none])]
      · rw [List.flatMap_cons, none]
        exact reflected
    · -- there is one section of imports
      have last : contents.flatMap importItems = [] := List.flatMap_eq_nil_iff.2 fun other mem =>
        Decidable.of_not_not
          (ordered.not_behind (place_of_importItems some) (Nat.le_refl 2) (fun _ => place_of_importItems)
            other mem)
      obtain ⟨noMemories, noGlobals⟩ := fresh (by rw [List.flatMap_cons, last]; simpa using some)
      rw [List.flatMap_cons, last, List.append_nil, (run_grows rest).imports last]
      cases content <;> simp only [importItems, not_true_eq_false] at some
      rename_i items
      simp only [add] at first
      obtain ⟨filled, pushed, rfl⟩ := map_eq_ok_iff.1 first
      obtain ⟨shown, imports, reflected⟩ := addImports_reflect pushed
      obtain ⟨w, eq⟩ := noteMemories_frame filled
      rw [noMemories, noGlobals] at reflected
      exact ⟨shown, by rw [eq]; exact imports, reflected⟩

/-! ## Exports -/

/-- What all exports show as is what each shows as. -/
theorem mapM_reflect_mem : ∀ {items : List Export} {shown : List ModuleExport},
    items.mapM Export.reflect? = some shown → ∀ e ∈ shown, ∃ x ∈ items, x.reflect? = some e
  | [], shown, h => by
    simp only [List.mapM_nil, Option.pure_def, Option.some.injEq] at h
    simp [← h]
  | x :: items, shown, h => by
    simp only [List.mapM_cons, Option.bind_eq_bind, Option.bind_eq_some_iff, Option.pure_def,
      Option.some.injEq] at h
    obtain ⟨here, first, others, rest, rfl⟩ := h
    intro e mem
    rcases List.mem_cons.1 mem with rfl | mem
    · exact ⟨x, List.mem_cons_self, first⟩
    · obtain ⟨y, among, shows⟩ := mapM_reflect_mem rest e mem
      exact ⟨y, List.mem_cons_of_mem x among, shows⟩

theorem mapM_reflect_names : ∀ {items : List Export} {shown : List ModuleExport},
    items.mapM Export.reflect? = some shown → shown.map (·.name) = items.map (·.name)
  | [], shown, h => by
    simp only [List.mapM_nil, Option.pure_def, Option.some.injEq] at h
    simp [← h]
  | x :: items, shown, h => by
    simp only [List.mapM_cons, Option.bind_eq_bind, Option.bind_eq_some_iff, Option.pure_def,
      Option.some.injEq] at h
    obtain ⟨here, first, others, rest, rfl⟩ := h
    have name : here.name = x.name := by
      unfold Export.reflect? at first
      obtain ⟨kind, _, rfl⟩ := Option.map_eq_some_iff.1 first
      rfl
    rw [List.map_cons, List.map_cons, mapM_reflect_names rest, name]

/-- An export that shows a function exports it. -/
theorem functionsUsed_of_reflect {content : Content} {x : Export} {e : ModuleExport}
    (mem : x ∈ content.exportItems) (shows : x.reflect? = some e) (kind : e.kind = .function) :
    e.index ∈ content.functionsUsed := by
  unfold Export.reflect? at shows
  obtain ⟨shown, found, rfl⟩ := Option.map_eq_some_iff.1 shows
  have func : x.kind = .func := by
    simp only at kind
    subst kind
    cases other : x.kind <;> simp [other, exportKind?] at found ⊢
  cases content <;> simp only [exportItems, List.not_mem_nil] at mem
  simp only [functionsUsed, List.mem_filterMap]
  exact ⟨x, mem, by simp [func]⟩

/-! ## The whole module -/

/-- **What an outline of a module shows** of the contents of its sections. -/
structure Declared (contents : List Content) (o : Outline) : Prop where
  types : o.types = (contents.flatMap definedTypes).map signatureOf
  functions : o.functions =
    (contents.flatMap importItems).filterMap (·.functionType?) ++ contents.flatMap definedFunctions
  memories : o.memories = ((contents.flatMap importItems).filterMap (·.memoryType?) ++
    contents.flatMap definedMemories).map memoryInfo
  globals : o.globals = ((contents.flatMap importItems).filterMap (·.globalType?) ++
    contents.flatMap definedGlobals).map globalInfo
  importedFunctions : o.importedFunctions =
    ((contents.flatMap importItems).filterMap (·.functionType?)).length
  importedMemories : o.importedMemories =
    ((contents.flatMap importItems).filterMap (·.memoryType?)).length
  importedGlobals : o.importedGlobals =
    ((contents.flatMap importItems).filterMap (·.globalType?)).length
  imports : Reflected 0 0 (contents.flatMap importItems) o.imports
  exports : (contents.flatMap exportItems).mapM Export.reflect? = some o.exports
  distinct : (o.exports.map (·.name)).Nodup
  start : o.start.toList = contents.filterMap start?
  signatures : ∀ func, (o.signature? func).isSome ↔ func < o.functions.length
  exported : ∀ e ∈ o.exports, e.kind = .function → e.index < o.functions.length
  started : ∀ func, o.start = some func → func < o.functions.length

/-! Outline and validator follow the same contents, so what the validator has checked of its own index
spaces holds of those that are shown. -/

section Valid

variable {f : Features} {contents : List Content} {v : Validator}
  (validated : contents.foldlM Validator.step (Validator.start f) = .ok v)
  (outlined : contents.foldlM add {} = .ok o)

include validated outlined

theorem functions_length : o.functions.length = v.context.functions.size := by
  have entries := congrArg (·.functions.length) (Validator.entries_of_run validated).1
  rw [(run_grows outlined).functions]
  simpa [Context.entries] using entries.symm

theorem types_length : o.types.length = v.context.types.size := by
  have entries := congrArg (·.types.length) (Validator.entries_of_run validated).1
  rw [(run_grows outlined).types]
  simpa [Context.entries] using entries.symm

/-- Exactly the functions that are there have a signature, because their types are declared. -/
theorem signature_isSome_iff (func : Nat) : (o.signature? func).isSome ↔ func < o.functions.length := by
  unfold signature?
  constructor
  · intro some
    obtain ⟨signature, found⟩ := Option.isSome_iff_exists.1 some
    obtain ⟨type, known, _⟩ := Option.bind_eq_some_iff.1 found
    exact (List.getElem?_eq_some_iff.1 known).1
  · intro known
    have functions : o.functions = (entriesOf contents).functions := (run_grows outlined).functions
    have typed := (Validator.entries_of_run validated).2 o.functions[func] (by
      rw [← functions]
      exact List.getElem_mem known)
    rw [← types_length validated outlined] at typed
    rw [List.getElem?_eq_getElem known, Option.bind_some, List.getElem?_eq_getElem typed]
    rfl

theorem used_lt {content : Content} (mem : content ∈ contents) {func : Nat}
    (used : func ∈ content.functionsUsed) : func < o.functions.length := by
  rw [functions_length validated outlined]
  exact Validator.run_used validated content mem func used

theorem exported_lt {e : ModuleExport} (mem : e ∈ o.exports) (kind : e.kind = .function) :
    e.index < o.functions.length := by
  obtain ⟨shown, shows, exports⟩ := (run_grows outlined).exports
  rw [exports] at mem
  obtain ⟨x, among, reflected⟩ := mapM_reflect_mem shows e mem
  obtain ⟨content, holds, item⟩ := List.mem_flatMap.1 among
  exact used_lt validated outlined holds (functionsUsed_of_reflect item reflected kind)

theorem started_lt {func : Nat} (start : o.start = some func) : func < o.functions.length := by
  rw [(run_grows outlined).start, Option.or_eq_some_iff] at start
  obtain last | ⟨_, none⟩ := start
  · obtain ⟨content, holds, starts⟩ := List.mem_filterMap.1 (List.mem_of_getLast? last)
    refine used_lt validated outlined holds ?_
    cases content with
    | start _ =>
      obtain rfl := Option.some.inj starts
      exact List.mem_singleton.2 rfl
    | _ => cases starts
  · cases none

/-- The names that the validator has entered are those of the exports that are shown. -/
theorem exported_eq : v.exported = o.exports.map (·.name) := by
  obtain ⟨shown, shows, exports⟩ := (run_grows outlined).exports
  have exports : o.exports = shown := exports
  rw [exports, mapM_reflect_names shows, (Validator.run_exported validated).1]
  rfl

theorem exports_distinct : (o.exports.map (·.name)).Nodup := by
  rw [← exported_eq validated outlined]
  exact (Validator.run_exported validated).2 .nil

theorem declared_of_runs : o.Declared contents := by
  have grown := run_grows outlined
  obtain ⟨ordered, _⟩ := Validator.run_ordered validated
  obtain ⟨exported, shows, exports⟩ := grown.exports
  obtain ⟨imported, imports, reflected⟩ := run_imports ordered (fun _ => ⟨rfl, rfl⟩) outlined
  obtain rfl : o.imports = imported := imports
  obtain rfl : o.exports = exported := exports
  exact {
    types := by rw [grown.types, types_entriesOf]; rfl
    functions := by rw [grown.functions, functions_entriesOf ordered]; rfl
    memories := by rw [grown.memories, memories_entriesOf ordered]; rfl
    globals := by rw [grown.globals, globals_entriesOf ordered]; rfl
    importedFunctions := by rw [grown.importedFunctions]; exact Nat.zero_add _
    importedMemories := by rw [grown.importedMemories]; exact Nat.zero_add _
    importedGlobals := by rw [grown.importedGlobals]; exact Nat.zero_add _
    imports := reflected
    exports := shows
    distinct := exports_distinct validated outlined
    start := by rw [grown.start, Option.or_none, starts_toList ordered]
    signatures := signature_isSome_iff validated outlined
    exported := fun _ => exported_lt validated outlined
    started := fun _ => started_lt validated outlined }

end Valid

end Outline

open Wasm.Content in
/-- **An outline shows what the binary declares.** The sections decode to contents in the order of
sections, each kind at most once; the index spaces are the imported entries and then the defined ones,
and whatever refers to a function refers to one that is there. -/
theorem Outline.ofBytes_declared {f : Features} {bytes : List UInt8} {o : Outline}
    (h : Outline.ofBytes f bytes = .ok o) :
    ∃ contents, (Sections.split bytes).fault = none ∧
      (Sections.payloads bytes).mapM (Content.ofSection f) = .ok contents ∧ Ordered contents ∧
        o.Declared contents := by
  obtain ⟨r, read, rfl⟩ := map_eq_ok_iff.1 h
  obtain ⟨valid, outlined⟩ := Reading.ofBytes_ok_iff.1 read
  exact ⟨r.contents, valid.whole, valid.decoded, (Validator.run_ordered valid.validated).1,
    declared_of_runs valid.validated outlined⟩

/-- A module that imports things of all four kinds in turn, with definitions behind all but the memories. -/
def allKindsModule : List UInt8 :=
  let name (s : String) : List UInt8 := Writer.text "host" ++ Writer.text s
  Sections.join [
    ⟨Section.typeId, [1, 0x60, 0, 0]⟩,
    ⟨Section.importId, [5] ++ name "memory" ++ [2, 0, 1] ++ name "low" ++ [3, 0x7f, 0] ++ name "run"
      ++ [0, 0] ++ name "table" ++ [1, 0x70, 0, 1] ++ name "high" ++ [3, 0x7e, 1]⟩,
    ⟨Section.functionId, [2, 0, 0]⟩,
    ⟨Section.globalId, [1, 0x7f, 0, 0x23, 0, 0x0b]⟩,
    ⟨Section.exportId, [2] ++ Writer.text "run" ++ [0, 2] ++ Writer.text "memory" ++ [2, 0]⟩,
    ⟨Section.startId, [1]⟩,
    ⟨Section.codeId, [2, 2, 0, 0x0b, 2, 0, 0x0b]⟩]

theorem Outline.ofBytes_declared_allKinds : ∃ o, Outline.ofBytes {} allKindsModule = .ok o ∧
    ∃ contents, (Sections.split allKindsModule).fault = none ∧
      (Sections.payloads allKindsModule).mapM (Content.ofSection {}) = .ok contents ∧
        Content.Ordered contents ∧ o.Declared contents := by
  obtain ⟨o, read, _⟩ : ∃ o, Outline.ofBytes {} allKindsModule = .ok o ∧ o.imports.length = 5 := by
    decide +kernel
  exact ⟨o, read, ofBytes_declared read⟩

end WasmLens
