import Mathlib.Data.List.Induction
import WasmLens.Proofs.Module.IndexSpaces

/-!
# What an outline warns of

Warnings are added while the index spaces still grow, so the index that a warning has is right only if it is
taken before the entry is. `Outline.localWarnings_of_add` says which warnings the contents of one section add,
behind as many types and globals as there are by then; because sections come in order, **the warnings of a module
are those of its types, then of its imports, then of its globals** (`localWarnings_of_run`), and those at one
entry are of the types that do not show there (`ofBytes_warned`).

Warnings of the module as a whole, about its memories and its name sections, are left out.
-/
namespace WasmLens

open Wasm Wasm.Content

/-! ## What there is to warn of -/

/-- The types that a host has values of. -/
def Wasm.ValType.isNumber : ValType → Bool
  | .i32 | .i64 | .f32 | .f64 => true
  | .v128 | .ref _ => false

/-- The parameters of a type, if it is one of functions. -/
def Wasm.SubType.params (t : SubType) : List ValType := (t.funcType?.map (·.params)).getD []

/-- The results of a type, if it is one of functions. -/
def Wasm.SubType.results (t : SubType) : List ValType := (t.funcType?.map (·.results)).getD []

namespace Warning

/-- Whether a warning is about one entry of the module, rather than about the module as a whole. -/
def isLocal : Warning → Bool
  | .unsupportedImport .. | .unsupportedType .. => true
  | .multipleMemories _ | .malformedNames _ => false

/-- The type that a warning is about, if it is one at some entry. -/
def typeAt? (location : String) (index : Nat) : Warning → Option String
  | .unsupportedType here entry type => if here = location ∧ entry = index then some type else none
  | _ => none

/-- One warning for every type that is no number. -/
def ofTypes (location : String) (index : Nat) (types : List ValType) : List Warning :=
  (types.filter fun t => !t.isNumber).map fun t => .unsupportedType location index t.text

/-- Parameters come before results. -/
def ofType (t : SubType) (index : Nat) : List Warning :=
  ofTypes "parameter" index t.params ++ ofTypes "result" index t.results

def ofGlobal (t : GlobalType) (index : Nat) : List Warning := ofTypes "global" index [t.content]

/-- The warnings of an import, behind some globals. -/
def ofImport (i : Import) (globals : Nat) : List Warning :=
  match i.desc with
  | .func _ => [.unsupportedImport i.module i.name .function]
  | .table _ => [.unsupportedImport i.module i.name .table]
  | .global t => ofGlobal t globals
  | .memory _ | .tag _ => []

/-- The warnings of some types, by their indices. -/
def ofTypeSpace (first : Nat) (types : List SubType) : List Warning :=
  (types.zipIdx first).flatMap fun (t, index) => ofType t index

/-- The warnings of some globals, by their indices. -/
def ofGlobalSpace (first : Nat) (types : List GlobalType) : List Warning :=
  (types.zipIdx first).flatMap fun (t, index) => ofGlobal t index

/-- The warnings of some imports, each behind the globals that are imported in front of it. -/
def ofImports (globals : Nat) (items : List Import) : List Warning :=
  items.zipIdx.flatMap fun (i, place) =>
    ofImport i (globals + ((items.take place).filterMap (·.globalType?)).length)

/-- The warnings of contents behind some types and globals: of types, of imports and of globals that are defined,
which have the indices behind the imported ones. -/
def ofContents (types globals : Nat) (contents : List Content) : List Warning :=
  ofTypeSpace types (contents.flatMap definedTypes) ++ ofImports globals (contents.flatMap importItems) ++
    ofGlobalSpace (globals + ((contents.flatMap importItems).filterMap (·.globalType?)).length)
      (contents.flatMap definedGlobals)

end Warning

namespace Outline

/-- The warnings that are about entries. -/
def localWarnings (o : Outline) : List Warning := o.warnings.filter Warning.isLocal

/-- The types that there are warnings of at some entry. -/
def warnedAt (o : Outline) (location : String) (index : Nat) : List String :=
  o.warnings.filterMap (Warning.typeAt? location index)

/-- **How declared types show**: those that are no numbers show as `void`, and these are warned of. -/
structure Shown (warned : List String) (declared : List ValType) (shown : List ValueType) : Prop where
  length : shown.length = declared.length
  void : ∀ (p : Nat) t, declared[p]? = some t → (shown[p]? = some .void ↔ t.isNumber = false)
  warned : warned = ((declared.zip shown).filter (·.2 = .void)).map (·.1.text)

/-- **What an outline of a module warns of.** -/
structure Warned (contents : List Content) (o : Outline) : Prop where
  /-- All warnings about entries, in the order of the binary. -/
  listed : o.localWarnings = Warning.ofContents 0 0 contents
  types : ∀ (index : Nat) t, (contents.flatMap definedTypes)[index]? = some t →
    ∃ signature, o.types[index]? = some signature ∧
      Shown (o.warnedAt "parameter" index) t.params signature.params ∧
        Shown (o.warnedAt "result" index) t.results signature.results
  globals : ∀ (index : Nat) t, ((contents.flatMap importItems).filterMap (·.globalType?) ++
      contents.flatMap definedGlobals)[index]? = some t →
    ∃ info, o.globals[index]? = some info ∧ Shown (o.warnedAt "global" index) [t.content] [info.type]
  /-- No type is warned of anywhere else. -/
  entries : ∀ location index type, Warning.unsupportedType location index type ∈ o.warnings →
    (location = "parameter" ∨ location = "result") ∧ index < o.types.length ∨
      location = "global" ∧ index < o.globals.length

end Outline

/-! ## Warnings of lists -/

namespace Warning

@[simp] theorem ofTypeSpace_nil (first : Nat) : ofTypeSpace first [] = [] := rfl
@[simp] theorem ofGlobalSpace_nil (first : Nat) : ofGlobalSpace first [] = [] := rfl
@[simp] theorem ofImports_nil (globals : Nat) : ofImports globals [] = [] := rfl

theorem ofTypeSpace_append (first : Nat) (a b : List SubType) :
    ofTypeSpace first (a ++ b) = ofTypeSpace first a ++ ofTypeSpace (first + a.length) b := by
  simp only [ofTypeSpace, List.zipIdx_append, List.flatMap_append]

theorem ofGlobalSpace_append (first : Nat) (a b : List GlobalType) :
    ofGlobalSpace first (a ++ b) = ofGlobalSpace first a ++ ofGlobalSpace (first + a.length) b := by
  simp only [ofGlobalSpace, List.zipIdx_append, List.flatMap_append]

theorem ofImports_cons (globals : Nat) (i : Import) (items : List Import) :
    ofImports globals (i :: items) =
      ofImport i globals ++ ofImports (globals + ([i].filterMap (·.globalType?)).length) items := by
  have count (place : Nat) : ((i :: items.take place).filterMap (·.globalType?)).length =
      ([i].filterMap (·.globalType?)).length + ((items.take place).filterMap (·.globalType?)).length := by
    rw [← List.singleton_append, List.filterMap_append, List.length_append]
  simp only [ofImports, List.zipIdx_cons, List.flatMap_cons, List.zipIdx_succ, List.flatMap_map, List.take_succ_cons,
    count, Nat.add_assoc]
  rfl

theorem ofImports_append (a b : List Import) : ∀ globals, ofImports globals (a ++ b) =
    ofImports globals a ++ ofImports (globals + (a.filterMap (·.globalType?)).length) b := by
  induction a with
  | nil => exact fun _ => rfl
  | cons i a ih =>
    intro globals
    have count : ((i :: a).filterMap (·.globalType?)).length =
        ([i].filterMap (·.globalType?)).length + (a.filterMap (·.globalType?)).length := by
      rw [← List.singleton_append, List.filterMap_append, List.length_append]
    rw [List.cons_append, ofImports_cons, ofImports_cons, ih, count, List.append_assoc, Nat.add_assoc]

end Warning

/-! ## Sections -/

/-- Only numbers show as what they are. -/
theorem Wasm.ValType.reflect_eq_void {t : ValType} : t.reflect = .void ↔ t.isNumber = false := by
  cases t <;> simp [reflect, reflect?, isNumber]

namespace Outline

theorem typeWarning_eq (location : String) (index : Nat) (t : ValType) :
    typeWarning location index t = Warning.ofTypes location index [t] := by
  unfold typeWarning Warning.ofTypes
  cases t <;> rfl

theorem flatMap_typeWarning (location : String) (index : Nat) (types : List ValType) :
    types.flatMap (typeWarning location index) = Warning.ofTypes location index types := by
  induction types with
  | nil => rfl
  | cons t types ih =>
    rw [List.flatMap_cons, ih, typeWarning_eq, Warning.ofTypes, Warning.ofTypes, Warning.ofTypes, ← List.map_append,
      ← List.filter_append, List.singleton_append]

theorem signatureWarnings_eq (index : Nat) (t : SubType) : signatureWarnings index t = Warning.ofType t index := by
  unfold signatureWarnings Warning.ofType SubType.params SubType.results
  cases t.funcType? with
  | none => rfl
  | some f => simp only [flatMap_typeWarning, Option.map_some, Option.getD_some]

/-- Warnings of types are about entries. -/
theorem filter_ofTypes (location : String) (index : Nat) (types : List ValType) :
    (Warning.ofTypes location index types).filter Warning.isLocal = Warning.ofTypes location index types := by
  refine List.filter_eq_self.2 fun w mem => ?_
  obtain ⟨t, _, rfl⟩ := List.mem_map.1 mem
  rfl

theorem filter_ofTypeSpace (first : Nat) (types : List SubType) :
    (Warning.ofTypeSpace first types).filter Warning.isLocal = Warning.ofTypeSpace first types := by
  simp only [Warning.ofTypeSpace, Warning.ofType, List.filter_flatMap, List.filter_append, filter_ofTypes]

variable {o o' : Outline}

theorem localWarnings_addTypes (o : Outline) (groups : List RecGroup) :
    (o.addTypes groups).localWarnings =
      o.localWarnings ++ Warning.ofTypeSpace o.types.length (groups.flatMap (·.types)) := by
  simp only [localWarnings, addTypes, signatureWarnings_eq, List.filter_append]
  exact congrArg _ (filter_ofTypeSpace ..)

theorem localWarnings_addGlobal (o : Outline) (t : GlobalType) :
    (o.addGlobal t).localWarnings = o.localWarnings ++ Warning.ofGlobal t o.globals.length := by
  simp only [localWarnings, addGlobal, typeWarning_eq, List.filter_append, filter_ofTypes, Warning.ofGlobal]

theorem localWarnings_addGlobals (items : List Global) : ∀ o : Outline,
    (items.foldl (fun o g => o.addGlobal g.type) o).localWarnings =
      o.localWarnings ++ Warning.ofGlobalSpace o.globals.length (items.map (·.type)) := by
  induction items with
  | nil => exact fun o => (List.append_nil _).symm
  | cons g items ih =>
    intro o
    have count : (o.addGlobal g.type).globals.length = o.globals.length + 1 := List.length_append
    rw [List.foldl_cons, ih, localWarnings_addGlobal, count, List.append_assoc]
    rfl

theorem localWarnings_addImport {i : Import} (h : o.addImport i = .ok o') :
    o'.localWarnings = o.localWarnings ++ Warning.ofImport i o.globals.length := by
  obtain ⟨module, name, desc⟩ := i
  cases desc with
  | func _ | table _ | memory _ =>
    obtain rfl := Except.ok.inj h
    exact List.filter_append ..
  | global t =>
    obtain rfl := Except.ok.inj h
    simp only [localWarnings, pushImport, List.append_nil]
    exact localWarnings_addGlobal o t
  | tag _ => cases h

theorem localWarnings_addImports : ∀ {items : List Import} {o o' : Outline}, items.foldlM addImport o = .ok o' →
    o'.localWarnings = o.localWarnings ++ Warning.ofImports o.globals.length items
  | [], o, o', run => by
    obtain rfl := run_nil_iff.1 run
    exact (List.append_nil _).symm
  | i :: items, o, o', run => by
    obtain ⟨between, first, rest⟩ := run_cons_iff.1 run
    have globals : between.globals.length = o.globals.length + ([i].filterMap (·.globalType?)).length := by
      rw [(addImport_grows first).globals]
      simp [entriesOf, Content.entries]
    rw [localWarnings_addImports rest, localWarnings_addImport first, globals, Warning.ofImports_cons,
      List.append_assoc]

theorem localWarnings_noteMemories (o : Outline) : o.noteMemories.localWarnings = o.localWarnings := by
  unfold noteMemories
  dsimp only
  split
  · exact (List.filter_append ..).trans (List.append_nil _)
  · rfl

theorem localWarnings_addNames (o : Outline) (s : NameSection) : (o.addNames s).localWarnings = o.localWarnings := by
  obtain ⟨name, names, named⟩ := foldl_addName_frame s.names o
  unfold addNames
  simp only [named]
  split
  · exact (List.filter_append ..).trans (List.append_nil _)
  · rfl

theorem warnings_addExport {e : Export} (h : o.addExport e = .ok o') : o'.warnings = o.warnings := by
  unfold addExport at h
  split at h <;> cases h
  rfl

theorem warnings_addExports {items : List Export} (run : items.foldlM addExport o = .ok o') :
    o'.warnings = o.warnings :=
  run_related (R := fun o o' : Outline => o'.warnings = o.warnings) (fun _ => rfl) (fun h h' => h'.trans h)
    (fun _ _ _ _ => warnings_addExport) run

/-- **What there is to warn of in one section**, behind the types and the globals that are there. -/
theorem localWarnings_of_add {content : Content} (h : o.add content = .ok o') :
    o'.localWarnings = o.localWarnings ++ Warning.ofContents o.types.length o.globals.length [content] := by
  have nothing (same : o'.localWarnings = o.localWarnings) (types : content.definedTypes = [])
      (imports : content.importItems = []) (globals : content.definedGlobals = []) :
      o'.localWarnings = o.localWarnings ++ Warning.ofContents o.types.length o.globals.length [content] := by
    simp [Warning.ofContents, same, types, imports, globals]
  cases content <;> simp only [add, Except.ok.injEq, reduceCtorEq] at h
  case types groups =>
    rw [← h, localWarnings_addTypes]
    simp [Warning.ofContents, definedTypes, importItems, definedGlobals]
  case imports items =>
    obtain ⟨between, run, rfl⟩ := map_eq_ok_iff.1 h
    rw [localWarnings_noteMemories, localWarnings_addImports run]
    simp [Warning.ofContents, definedTypes, importItems, definedGlobals]
  case globals items =>
    rw [← h, localWarnings_addGlobals]
    simp [Warning.ofContents, definedTypes, importItems, definedGlobals]
  case custom name bytes =>
    refine nothing ?_ rfl rfl rfl
    rw [← h]
    split
    · exact localWarnings_addNames ..
    · rfl
  case exports items => exact nothing (congrArg (List.filter _) (warnings_addExports h)) rfl rfl rfl
  case memories items => exact nothing (h ▸ localWarnings_noteMemories _) rfl rfl rfl
  all_goals exact nothing (h ▸ rfl) rfl rfl rfl

/-! ## The whole module -/

theorem place_of_definedTypes {content : Content} (h : content.definedTypes ≠ []) : content.place? = some 1 := by
  cases content with
  | types _ => rfl
  | _ => exact absurd rfl h

/-- **What there is to warn of** in the first section and in the others. No types come behind imports or globals, and
no imports behind globals. -/
theorem ofContents_cons {content : Content} {contents : List Content} (ordered : Content.Ordered (content :: contents))
    (types globals : Nat) : Warning.ofContents types globals (content :: contents) =
      Warning.ofContents types globals [content] ++ Warning.ofContents (types + content.definedTypes.length)
        (globals + (content.importItems.filterMap (·.globalType?)).length + content.definedGlobals.length)
        contents := by
  have noTypes (place : Nat) (here : content.place? = some place) (late : 1 ≤ place) :
      contents.flatMap definedTypes = [] := List.flatMap_eq_nil_iff.2 fun other mem =>
    Decidable.of_not_not (ordered.not_behind here late (fun _ => place_of_definedTypes) other mem)
  have noImports (place : Nat) (here : content.place? = some place) (late : 2 ≤ place) :
      contents.flatMap importItems = [] := List.flatMap_eq_nil_iff.2 fun other mem =>
    Decidable.of_not_not (ordered.not_behind here late (fun _ => place_of_importItems) other mem)
  cases content with
  | types groups =>
    simp [Warning.ofContents, definedTypes, importItems, definedGlobals, Warning.ofTypeSpace_append]
  | imports items =>
    simp [Warning.ofContents, definedTypes, importItems, definedGlobals, noTypes 2 rfl (by decide),
      Warning.ofImports_append, Nat.add_assoc]
  | globals items =>
    simp [Warning.ofContents, definedTypes, importItems, definedGlobals, noTypes 7 rfl (by decide),
      noImports 7 rfl (by decide), Warning.ofGlobalSpace_append]
  | _ => simp [Warning.ofContents, definedTypes, importItems, definedGlobals]

/-- **All warnings about entries** are what there is to warn of in the contents. -/
theorem localWarnings_of_run : ∀ {contents : List Content} {o o' : Outline}, Content.Ordered contents →
    contents.foldlM add o = .ok o' →
      o'.localWarnings = o.localWarnings ++ Warning.ofContents o.types.length o.globals.length contents
  | [], o, o', _, run => by
    obtain rfl := run_nil_iff.1 run
    exact (List.append_nil _).symm
  | content :: contents, o, o', ordered, run => by
    obtain ⟨between, first, rest⟩ := run_cons_iff.1 run
    have grown := add_grows first
    have types : between.types.length = o.types.length + content.definedTypes.length := by
      rw [grown.types, types_entriesOf]
      simp
    have globals : between.globals.length = o.globals.length +
        (content.importItems.filterMap (·.globalType?)).length + content.definedGlobals.length := by
      rw [grown.globals]
      cases content <;> simp [entriesOf, Content.entries, importItems, definedGlobals]
    rw [localWarnings_of_run (List.pairwise_cons.1 ordered).2 rest, localWarnings_of_add first, types, globals,
      ofContents_cons ordered, List.append_assoc]

/-! ## Warnings at one entry -/

/-- Only one entry of a space has an index. -/
theorem filterMap_zipIdx {α β γ : Type} {f : α × Nat → List β} {g : β → Option γ} (index : Nat)
    (others : ∀ x i, i ≠ index → (f (x, i)).filterMap g = []) (xs : List α) :
    (xs.zipIdx.flatMap f).filterMap g = (xs[index]?.map fun x => (f (x, index)).filterMap g).getD [] := by
  induction xs using List.reverseRecOn with
  | nil => rfl
  | append_singleton xs x ih =>
    rw [List.zipIdx_append, List.flatMap_append, List.filterMap_append, ih, Nat.zero_add, List.zipIdx_singleton,
      List.flatMap_singleton]
    rcases Nat.lt_trichotomy index xs.length with inside | rfl | outside
    · rw [others x _ (Nat.ne_of_gt inside), List.append_nil, List.getElem?_append_left inside]
    · rw [List.getElem?_eq_none (Nat.le_refl _), List.getElem?_concat_length]
      rfl
    · rw [others x _ (Nat.ne_of_lt outside), List.getElem?_eq_none (Nat.le_of_lt outside), List.getElem?_eq_none]
      · rfl
      · rw [List.length_append, List.length_singleton]
        exact outside

/-- The texts of the types that are no numbers. -/
def foreign (types : List ValType) : List String := (types.filter fun t => !t.isNumber).map (·.text)

/-- What is there is made of something. -/
theorem exists_of_mem_ite {α β : Type} {c : Prop} [Decidable c] {x : Option α} {f : α → List β} {b : β}
    (h : b ∈ if c then (x.map f).getD [] else []) : c ∧ ∃ a, x = some a := by
  split at h
  · rename_i holds
    cases x with
    | none => cases h
    | some a => exact ⟨holds, a, rfl⟩
  · cases h

theorem filterMap_ofTypes (location here : String) (index entry : Nat) (types : List ValType) :
    (Warning.ofTypes here entry types).filterMap (Warning.typeAt? location index) =
      if here = location ∧ entry = index then foreign types else [] := by
  rw [Warning.ofTypes, foreign, List.filterMap_map]
  split
  · rename_i same
    rw [← List.filterMap_eq_map]
    congr 1
    funext t
    exact if_pos same
  · rename_i other
    exact List.filterMap_eq_nil_iff.2 fun t _ => if_neg other

/-- Imports are warned of like other globals, if a type is. -/
theorem filterMap_ofImports (location : String) (index : Nat) (items : List Import) : ∀ globals,
    (Warning.ofImports globals items).filterMap (Warning.typeAt? location index) =
      (Warning.ofGlobalSpace globals (items.filterMap (·.globalType?))).filterMap (Warning.typeAt? location index) := by
  induction items with
  | nil => exact fun _ => rfl
  | cons i items ih =>
    intro globals
    obtain ⟨module, name, desc⟩ := i
    rw [Warning.ofImports_cons, List.filterMap_append, ih]
    cases desc with
    | global t => exact (List.filterMap_append ..).symm
    | _ => rfl

/-- **What is warned of at one entry.** -/
theorem filterMap_ofContents (location : String) (index : Nat) (contents : List Content) :
    (Warning.ofContents 0 0 contents).filterMap (Warning.typeAt? location index) =
      (if "parameter" = location then
          ((contents.flatMap definedTypes)[index]?.map fun t => foreign t.params).getD [] else []) ++
        (if "result" = location then
          ((contents.flatMap definedTypes)[index]?.map fun t => foreign t.results).getD [] else []) ++
          if "global" = location then
            (((contents.flatMap importItems).filterMap (·.globalType?) ++ contents.flatMap definedGlobals)[index]?.map
              fun t => foreign [t.content]).getD [] else [] := by
  rw [Warning.ofContents, List.filterMap_append, List.filterMap_append, filterMap_ofImports, List.append_assoc,
    ← List.filterMap_append, ← Warning.ofGlobalSpace_append, Warning.ofTypeSpace, Warning.ofGlobalSpace,
    filterMap_zipIdx index, filterMap_zipIdx index]
  · simp only [Warning.ofType, Warning.ofGlobal, List.filterMap_append, filterMap_ofTypes, and_true]
    congr 1
    · cases (contents.flatMap definedTypes)[index]? <;> simp
    · split
      · rfl
      · cases (_ : List GlobalType)[index]? <;> rfl
  · intro t i other
    simp only [Warning.ofGlobal, filterMap_ofTypes, other, and_false, if_false]
  · intro t i other
    simp only [Warning.ofType, List.filterMap_append, filterMap_ofTypes, other, and_false, if_false, List.append_nil]

theorem warnedAt_eq (o : Outline) (location : String) (index : Nat) :
    o.warnedAt location index = o.localWarnings.filterMap (Warning.typeAt? location index) := by
  rw [warnedAt, localWarnings, List.filterMap_filter]
  congr 1
  funext w
  cases w <;> rfl

theorem params_signatureOf (t : SubType) : (signatureOf t).params = t.params.map (·.reflect) := by
  unfold signatureOf SubType.params
  cases t.funcType? <;> rfl

theorem results_signatureOf (t : SubType) : (signatureOf t).results = t.results.map (·.reflect) := by
  unfold signatureOf SubType.results
  cases t.funcType? <;> rfl

/-- Types that are reflected, and warned of if they are no numbers, show as they should. -/
theorem shown_of_reflect (declared : List ValType) :
    Shown (foreign declared) declared (declared.map (·.reflect)) where
  length := List.length_map ..
  void p t found := by
    rw [List.getElem?_map, found, Option.map_some, Option.some.injEq, ValType.reflect_eq_void]
  warned := by
    induction declared with
    | nil => rfl
    | cons t declared ih =>
      rw [foreign] at ih ⊢
      cases number : t.isNumber <;> simp [number, ih, ValType.reflect_eq_void]

section Valid

variable {f : Features} {contents : List Content} {v : Validator}
  (validated : contents.foldlM Validator.step (Validator.start f) = .ok v)
  (outlined : contents.foldlM add {} = .ok o)

include validated outlined

theorem warned_of_runs : o.Warned contents := by
  have declared := declared_of_runs validated outlined
  have listed : o.localWarnings = Warning.ofContents 0 0 contents :=
    localWarnings_of_run (Validator.run_ordered validated).1 outlined
  have warned (location : String) (index : Nat) : o.warnedAt location index = _ :=
    (warnedAt_eq ..).trans (listed ▸ filterMap_ofContents location index contents)
  refine ⟨listed, fun index t found => ?_, fun index t found => ?_, fun location index type mem => ?_⟩
  · refine ⟨signatureOf t, by rw [declared.types, List.getElem?_map, found]; rfl, ?_, ?_⟩
    · rw [params_signatureOf, warned, found]
      simpa using shown_of_reflect t.params
    · rw [results_signatureOf, warned, found]
      simpa using shown_of_reflect t.results
  · refine ⟨globalInfo t, by rw [declared.globals, List.getElem?_map, found]; rfl, ?_⟩
    rw [warned, found]
    simpa [globalInfo] using shown_of_reflect [t.content]
  · have some : type ∈ o.warnedAt location index :=
      List.mem_filterMap.2 ⟨_, mem, if_pos ⟨rfl, rfl⟩⟩
    have types : o.types.length = (contents.flatMap definedTypes).length := by
      rw [declared.types, List.length_map]
    rw [warned, List.mem_append, List.mem_append] at some
    rcases some with (param | result) | global
    · obtain ⟨rfl, t, found⟩ := exists_of_mem_ite param
      exact .inl ⟨.inl rfl, types ▸ (List.getElem?_eq_some_iff.1 found).1⟩
    · obtain ⟨rfl, t, found⟩ := exists_of_mem_ite result
      exact .inl ⟨.inr rfl, types ▸ (List.getElem?_eq_some_iff.1 found).1⟩
    · obtain ⟨rfl, t, found⟩ := exists_of_mem_ite global
      refine .inr ⟨rfl, ?_⟩
      rw [declared.globals, List.length_map]
      exact (List.getElem?_eq_some_iff.1 found).1

end Valid

end Outline

/-- **An outline warns of all that a host cannot see or provide**, and of nothing else: of every type of a function
and of every global that is no number, at its own index, and of every import of a function or a table. -/
theorem Outline.ofBytes_warned {f : Features} {bytes : List UInt8} {o : Outline}
    (h : Outline.ofBytes f bytes = .ok o) :
    ∃ contents, (Sections.payloads bytes).mapM (Content.ofSection f) = .ok contents ∧ Ordered contents ∧
      o.Warned contents := by
  obtain ⟨r, read, rfl⟩ := map_eq_ok_iff.1 h
  obtain ⟨valid, outlined⟩ := Reading.ofBytes_ok_iff.1 read
  exact ⟨r.contents, valid.decoded, (Validator.run_ordered valid.validated).1, warned_of_runs valid.validated outlined⟩

/-- A module with a structure and a function type in one recursion group, and with globals that are no numbers
among its imports and behind them. -/
def foreignModule : List UInt8 :=
  let name (s : String) : List UInt8 := Writer.text "host" ++ Writer.text s
  Sections.join [
    ⟨Section.typeId, [2, 0x4e, 2, 0x5f, 0, 0x60, 3, 0x7f, 0x6f, 0x7b, 2, 0x70, 0x7e, 0x60, 0, 0]⟩,
    ⟨Section.importId, [5] ++ name "run" ++ [0, 2] ++ name "object" ++ [3, 0x6f, 0] ++ name "table" ++ [1, 0x70, 0, 1]
      ++ name "count" ++ [3, 0x7f, 1] ++ name "memory" ++ [2, 0, 1]⟩,
    ⟨Section.globalId, [2, 0x7e, 0, 0x42, 0, 0x0b, 0x70, 0, 0xd0, 0x70, 0x0b]⟩]

theorem Outline.ofBytes_warned_foreign :
    let f : Features := { multiValue := true, bulkMemory := true, referenceTypes := true, simd := true, gc := true }
    ∃ o, Outline.ofBytes f foreignModule = .ok o ∧
      o.localWarnings = [.unsupportedType "parameter" 1 "externref", .unsupportedType "parameter" 1 "v128",
        .unsupportedType "result" 1 "funcref", .unsupportedImport "host" "run" .function,
        .unsupportedType "global" 0 "externref", .unsupportedImport "host" "table" .table,
        .unsupportedType "global" 3 "funcref"] ∧
      ∃ contents, (Sections.payloads foreignModule).mapM (Content.ofSection f) = .ok contents ∧ Ordered contents ∧
        o.Warned contents := by
  intro f
  obtain ⟨o, read, warnings⟩ : ∃ o, Outline.ofBytes f foreignModule = .ok o ∧
      o.localWarnings = [.unsupportedType "parameter" 1 "externref", .unsupportedType "parameter" 1 "v128",
        .unsupportedType "result" 1 "funcref", .unsupportedImport "host" "run" .function,
        .unsupportedType "global" 0 "externref", .unsupportedImport "host" "table" .table,
        .unsupportedType "global" 3 "funcref"] := by decide +kernel
  exact ⟨o, read, warnings, ofBytes_warned read⟩

end WasmLens
