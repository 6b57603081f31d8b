import WasmLens.Proofs.Module.Labels

/-!
# The names of an outline

A name section gives names one by one, up to its first fault, and each replaces the name that was there. So the names
of a module are **the last that its sections give** (`named_of_run`). A function can be named only where it is known:
names of functions that are declared later do not count, and neither do those of functions that never are
(`Naming.ofContents`).
-/
namespace WasmLens

open Wasm

/-! ## What sections name -/

namespace Naming

/-- The name that the module gets. -/
def module? : Naming → Option String
  | .module name => some name
  | .function .. => none

/-- The name that one function gets. -/
def function? (func : Nat) : Naming → Option String
  | .module _ => none
  | .function index name => if index = func then some name else none

/-- Whether what is named is there, where some functions are known. -/
def applies (functions : Nat) : Naming → Bool
  | .module _ => true
  | .function index _ => index < functions

end Naming

/-- What contents name, and the fault that ends it. Only custom sections of one name do. -/
def Wasm.Content.nameSection : Content → NameSection
  | .custom name bytes => if name = Outline.nameSectionName then NameSection.read bytes else ⟨[], none⟩
  | _ => ⟨[], none⟩

/-- **The names that contents give**, in the order of the binary and behind some functions. Each section names the
functions that are known at its place. -/
def Naming.ofContents : (functions : Nat) → List Content → List Naming
  | _, [] => []
  | functions, content :: contents =>
    content.nameSection.names.filter (applies functions) ++
      ofContents (functions + content.entries.functions.length) contents

/-- **The names of an outline** of a module: the last ones that are given, to functions that are there. -/
structure Outline.Named (contents : List Content) (o : Outline) : Prop where
  name : o.name = ((Naming.ofContents 0 contents).filterMap Naming.module?).getLast?
  functionNames : ∀ func, o.functionNames[func]? =
    ((Naming.ofContents 0 contents).filterMap (Naming.function? func)).getLast?
  known : ∀ func ∈ o.functionNames, func < o.functions.length

theorem Wasm.Content.nameSection_of_other {content : Content} (other : ∀ names, content ≠ .ofNames names) :
    content.nameSection = ⟨[], none⟩ := by
  cases content with
  | custom name bytes => exact if_neg fun (same : name = Outline.nameSectionName) => other bytes (same ▸ rfl)
  | _ => rfl

namespace Naming

theorem function?_eq_some_iff {naming : Naming} {func : Nat} {name : String} :
    naming.function? func = some name ↔ naming = .function func name := by
  cases naming <;> simp [function?]

theorem filterMap_module_applies (known : Nat) (namings : List Naming) :
    (namings.filter (applies known)).filterMap module? = namings.filterMap module? := by
  rw [List.filterMap_filter]
  congr 1
  funext naming
  cases naming <;> simp [applies, module?]

/-- A function is named if it is known and a name is given to it. -/
theorem function?_of_applies (known func : Nat) (naming : Naming) :
    (if naming.applies known then naming.function? func else none) =
      if func < known then naming.function? func else none := by
  cases naming with
  | module _ => simp [function?]
  | function index name => by_cases same : index = func <;> simp [applies, function?, same]

theorem filterMap_function_applies (known func : Nat) (namings : List Naming) :
    (namings.filter (applies known)).filterMap (function? func) =
      if func < known then namings.filterMap (function? func) else [] := by
  simp only [List.filterMap_filter, function?_of_applies]
  split
  · rfl
  · exact List.filterMap_eq_nil_iff.2 fun _ _ => rfl

/-- Nothing is named where there is no name section. -/
theorem ofContents_eq_nil {contents : List Content} : (∀ content ∈ contents, content.nameSection = ⟨[], none⟩) →
    ∀ functions, ofContents functions contents = [] := by
  induction contents with
  | nil => exact fun _ _ => rfl
  | cons content contents ih =>
    intro unnamed functions
    obtain ⟨here, later⟩ := List.forall_mem_cons.1 unnamed
    rw [ofContents, here, ih later]
    rfl

theorem ofContents_append (front back : List Content) : ∀ functions, ofContents functions (front ++ back) =
    ofContents functions front ++ ofContents (functions + (Content.entriesOf front).functions.length) back := by
  induction front with
  | nil => exact fun _ => rfl
  | cons content front ih =>
    intro functions
    rw [List.cons_append, ofContents, ofContents, ih, List.append_assoc, Content.entriesOf, Entries.functions_append,
      List.length_append, Nat.add_assoc]

/-- Functions that are named are among those that contents declare. -/
theorem lt_of_mem_ofContents {index : Nat} {name : String} : ∀ {contents : List Content} {functions : Nat},
    .function index name ∈ ofContents functions contents →
      index < functions + (Content.entriesOf contents).functions.length
  | [], _, mem => by cases mem
  | content :: contents, functions, mem => by
    rw [Content.entriesOf, Entries.functions_append, List.length_append]
    rcases List.mem_append.1 mem with here | later
    · have known : index < functions := of_decide_eq_true (List.mem_filter.1 here).2
      omega
    · have := lt_of_mem_ofContents later
      omega

end Naming

/-! ## Giving names -/

namespace Outline

variable {o o' o'' : Outline} {a b : List Naming}

/-- **How names change** if some are given: what is named has its last name, and all else keeps its own. -/
structure Renames (o : Outline) (namings : List Naming) (o' : Outline) : Prop where
  name : o'.name = (namings.filterMap Naming.module?).getLast?.or o.name
  functionNames : ∀ func, o'.functionNames[func]? =
    (namings.filterMap (Naming.function? func)).getLast?.or o.functionNames[func]?

namespace Renames

theorem of_eq (name : o'.name = o.name) (functionNames : o'.functionNames = o.functionNames) :
    o.Renames [] o' := ⟨name, fun func => by rw [functionNames]; rfl⟩

theorem trans (h : o.Renames a o') (h' : o'.Renames b o'') : o.Renames (a ++ b) o'' where
  name := by rw [h'.name, h.name, List.filterMap_append, List.getLast?_append, Option.or_assoc]
  functionNames func := by
    rw [h'.functionNames, h.functionNames, List.filterMap_append, List.getLast?_append, Option.or_assoc]

end Renames

theorem addName_renames (o : Outline) (naming : Naming) :
    o.Renames ([naming].filter (Naming.applies o.functions.length)) (o.addName naming) := by
  cases naming with
  | module name => exact ⟨rfl, fun _ => rfl⟩
  | function index name =>
    unfold addName
    simp only
    split
    · rename_i known
      have given : [Naming.function index name].filter (Naming.applies o.functions.length) = [.function index name] :=
        List.filter_cons_of_pos (decide_eq_true known)
      rw [given]
      refine ⟨rfl, fun func => ?_⟩
      rw [Std.TreeMap.getElem?_insert]
      by_cases same : index = func <;> simp [Naming.function?, same]
    · rename_i unknown
      have dropped : [Naming.function index name].filter (Naming.applies o.functions.length) = [] :=
        List.filter_cons_of_neg (by simpa [Naming.applies] using unknown)
      rw [dropped]
      exact .of_eq rfl rfl

/-- Names are given one after another, to the functions that are known. -/
theorem foldl_addName_renames : ∀ (namings : List Naming) (o : Outline),
    o.Renames (namings.filter (Naming.applies o.functions.length)) (namings.foldl addName o)
  | [], o => .of_eq rfl rfl
  | naming :: namings, o => by
    obtain ⟨name, names, named⟩ := addName_frame o naming
    have rest := foldl_addName_renames namings (o.addName naming)
    rw [show (o.addName naming).functions = o.functions by rw [named]] at rest
    have all := (addName_renames o naming).trans rest
    rwa [← List.filter_append] at all

/-- A fault changes no name that was given before it. -/
theorem addNames_renames (o : Outline) (s : NameSection) :
    o.Renames (s.names.filter (Naming.applies o.functions.length)) (o.addNames s) := by
  have named := foldl_addName_renames s.names o
  unfold addNames
  dsimp only
  split
  · exact ⟨named.name, named.functionNames⟩
  · exact named

/-! ## The whole module -/

/-- **Names change by name sections** and by nothing else. -/
theorem add_renames {content : Content} (h : o.add content = .ok o') :
    o.Renames (content.nameSection.names.filter (Naming.applies o.functions.length)) o' := by
  by_cases named : ∃ names, content = .ofNames names
  · obtain ⟨names, rfl⟩ := named
    obtain rfl := Except.ok.inj h
    exact addNames_renames o (NameSection.read names)
  · have other := not_exists.1 named
    obtain ⟨gained, gains⟩ := add_gains h other
    -- with its own labels the outline is what it was
    have same : o' = o'.labelled o.name o.functionNames (o.warnings ++ gained) :=
      Except.ok.inj (h.symm.trans (gains.labelled o.name o.functionNames o.warnings rfl))
    rw [Content.nameSection_of_other other, same]
    exact .of_eq rfl rfl

theorem run_renames : ∀ {contents : List Content} {o o' : Outline}, contents.foldlM add o = .ok o' →
    o.Renames (Naming.ofContents o.functions.length contents) o'
  | [], o, o', run => by
    obtain rfl := run_nil_iff.1 run
    exact .of_eq rfl rfl
  | content :: contents, o, o', run => by
    obtain ⟨between, first, rest⟩ := run_cons_iff.1 run
    have functions : between.functions.length = o.functions.length + content.entries.functions.length := by
      rw [(add_grows first).functions, List.length_append]
      simp [Content.entriesOf]
    have later := run_renames rest
    rw [functions] at later
    exact (add_renames first).trans later

/-- **The names of a module** are the last that its sections give. -/
theorem named_of_run {contents : List Content} (run : contents.foldlM add {} = .ok o) : o.Named contents := by
  have renames := run_renames run
  have functions : o.functions = (Content.entriesOf contents).functions := (run_grows run).functions
  have given (func : Nat) : o.functionNames[func]? =
      ((Naming.ofContents 0 contents).filterMap (Naming.function? func)).getLast? :=
    (renames.functionNames func).trans (by simp)
  refine ⟨renames.name.trans (Option.or_none), given, fun func mem => ?_⟩
  -- a function with a name was given it
  rw [Std.TreeMap.mem_iff_isSome_getElem?, given, Option.isSome_iff_exists] at mem
  obtain ⟨name, last⟩ := mem
  obtain ⟨naming, among, named⟩ := List.mem_filterMap.1 (List.mem_of_getLast? last)
  obtain rfl := Naming.function?_eq_some_iff.1 named
  have lt := Naming.lt_of_mem_ofContents among
  simpa only [functions, Nat.zero_add] using lt

end Outline

end WasmLens
