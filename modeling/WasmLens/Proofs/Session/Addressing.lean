import WasmLens.Proofs.Session.GlobalAccess

/-!
# Globals by their own names

A host asks for a global by its field name, without the module that it is imported from, and a name stands
for the last global that has it. That one is addressed: it is what a host gets, and as long as there is no
instance it is what a host sets (`Addresses`). So **a global is addressed by its own name** if none behind it
has the same one, and it is out of reach otherwise (`run_addresses`).
-/
namespace WasmLens.Session

open Wasm Machine

/-! ## What a name addresses -/

/-- What a host would see of the global at a place. -/
def shownAt? (s : Session) (place : Nat) : Option Value := (s.valueAt? place).map Val.toValue

/-- **A name addresses the global at a place**: its type and value are got by the name, and before there is an
instance it takes every value that is set by the name, read at its own type. No other global changes. -/
structure Addresses (s : Session) (name : String) (place : Nat) (g : GlobalImport) : Prop where
  type : (s.getGlobal name).1 = g.type
  value : s.shownAt? place = some (s.getGlobal name).2
  sets : s.phase.isOpen → ∀ v, (s.setGlobal name v).2 = .ok () ∧
    (s.setGlobal name v).1.shownAt? place = some (Value.ofBits g.type v.toBits)
  others : ∀ v other, other ≠ place → (s.setGlobal name v).1.valueAt? other = s.valueAt? other
  listed : ∀ v, (s.setGlobal name v).1.globalImports.map GlobalImport.shown =
    s.globalImports.map GlobalImport.shown

/-- A name that some global has stands for one of them, that one or a later one. -/
theorem exists_resolves {globals : List GlobalImport} {place : Nat} {g : GlobalImport}
    (found : globals[place]? = some g) : ∃ last g', place ≤ last ∧ Resolves globals g.name last g' := by
  cases last : (globals.zipIdx.filter fun y => decide (y.1.name = g.name)).getLast? with
  | none =>
    rw [List.getLast?_eq_none_iff, List.filter_eq_nil_iff] at last
    have among : (g, place) ∈ globals.zipIdx := List.mem_zipIdx_iff_getElem?.2 found
    exact absurd (decide_eq_true rfl) (last _ among)
  | some y =>
    obtain ⟨there, named, others⟩ :=
      (getLast?_filter_zipIdx (p := fun g' : GlobalImport => decide (g'.name = g.name)) globals).1 last
    simp only [decide_eq_true_eq] at named others
    exact ⟨y.2, y.1, others place g found rfl, there, named, others⟩

section

variable {contents : List Content} {s s' : Session} {name : String} {place : Nat} {g : GlobalImport} {v : Value}

/-- Every declared global shows a value of its type. -/
theorem shownAt?_typed (wired : Wired contents s) (found : s.globalImports[place]? = some g) :
    ∃ x, s.shownAt? place = some x ∧ x.type = g.type := by
  obtain ⟨c, there, type, _⟩ := (wired.global found).cell found
  refine ⟨c.value.toValue, ?_, (Val.toValue_type c.typed).trans type⟩
  rw [shownAt?, valueAt?_eq found, there, Option.map_some, Option.map_some]

theorem getGlobal_shown (resolved : Resolves s.globalImports name place g) :
    s.getGlobal name = (g.type, (s.shownAt? place).getD .void) :=
  getGlobal_of_resolves resolved

/-- A global that has no host value shows none. -/
theorem shownAt?_void (wired : Wired contents s) (found : s.globalImports[place]? = some g)
    (void : g.type = .void) (bits : BitVec 64) : s.shownAt? place = some (Value.ofBits g.type bits) := by
  obtain ⟨x, shown, type⟩ := shownAt?_typed wired found
  rw [shown, void]
  rw [void] at type
  cases x <;> first | rfl | cases type

/-- The global whose value is replaced shows the new one. -/
theorem Replaces.shownAt? (replaces : Replaces s place g v s')
    (resolved : Resolves s.globalImports g.name place g) (type : g.type ≠ .void) :
    s'.shownAt? place = some (Value.ofBits g.type v.toBits) := by
  have names : s'.globalImports.map (·.name) = s.globalImports.map (·.name) := by
    have := congrArg (List.map fun x : String × String × ValueType × Bool => x.2.1) replaces.globals
    rw [List.map_map, List.map_map] at this
    exact this
  obtain ⟨g', here⟩ : ∃ g', s'.globalImports[place]? = some g' := by
    have same := congrArg (·[place]?) names
    simp only [List.getElem?_map, resolved.found, Option.map_some] at same
    obtain ⟨g', here, _⟩ := Option.map_eq_some_iff.1 same
    exact ⟨g', here⟩
  have got := congrArg Prod.snd replaces.value
  rw [getGlobal_shown (resolved.of_names names here)] at got
  cases shown : s'.shownAt? place with
  | some x => exact congrArg some (by simpa only [shown, Option.getD_some] using got)
  | none =>
    -- what is not there would read as a value without a type
    rw [shown, Option.getD_none] at got
    exact absurd ((Value.type_ofBits g.type v.toBits).symm.trans (congrArg Value.type got.symm)) type

/-- What setting a global comes to for the global that the name stands for. -/
theorem SetsTo.of_resolves {answer : Session × Except Error Unit} (sets : SetsTo s g.name v answer)
    (wired : Wired contents s) (resolved : Resolves s.globalImports g.name place g) :
    (s.phase.isOpen → answer.2 = .ok () ∧ answer.1.shownAt? place = some (Value.ofBits g.type v.toBits)) ∧
      (∀ other, other ≠ place → answer.1.valueAt? other = s.valueAt? other) ∧
        answer.1.globalImports.map GlobalImport.shown = s.globalImports.map GlobalImport.shown := by
  cases sets with
  | nothing void =>
    exact ⟨fun _ => ⟨rfl, shownAt?_void wired resolved.found (void place g resolved) _⟩, fun _ _ => rfl, rfl⟩
  | refused _ _ _ live =>
    refine ⟨fun isOpen => ?_, fun _ _ => rfl, rfl⟩
    rw [live] at isOpen
    cases isOpen
  | replaced resolved' type _ replaces =>
    obtain ⟨rfl, rfl⟩ := resolved.unique resolved'
    exact ⟨fun _ => ⟨rfl, replaces.shownAt? resolved type⟩, replaces.others, replaces.globals⟩

/-- **A name addresses the global that it stands for.** -/
theorem Resolves.addresses (resolved : Resolves s.globalImports name place g) (wired : Wired contents s)
    (phased : WellPhased s) : Addresses s name place g := by
  obtain rfl := resolved.named
  obtain ⟨x, shown, _⟩ := shownAt?_typed wired resolved.found
  have got : s.getGlobal g.name = (g.type, x) := by rw [getGlobal_shown resolved, shown, Option.getD_some]
  have sets (v : Value) := (setGlobal_setsTo wired phased g.name v).of_resolves wired resolved
  exact ⟨by rw [got], by rw [got, shown], fun isOpen v => (sets v).1 isOpen, fun v => (sets v).2.1,
    fun v => (sets v).2.2⟩

end

/-! ## All sessions -/

/-- How the declared globals of a session are reached by their own names. -/
structure Addressed (s : Session) : Prop where
  /-- The last global of a name is addressed by it. -/
  last : ∀ place g, s.globalImports[place]? = some g →
    (∀ later g', place < later → s.globalImports[later]? = some g' → g'.name ≠ g.name) →
      Addresses s g.name place g
  /-- The others are out of reach: their name addresses a later one. -/
  hidden : ∀ place g later g', s.globalImports[place]? = some g → place < later →
    s.globalImports[later]? = some g' → g'.name = g.name →
      ∃ last g'', later ≤ last ∧ Addresses s g.name last g'' ∧
        ∀ v, (s.setGlobal g.name v).1.valueAt? place = s.valueAt? place

/-- **Addressing globals by their names.** Whatever operations a session has gone through: each declared global
is addressed by its own name, unless a later one has the same name. Then what is got and set by that name is the
last of them, and no name lets a host set the one before. -/
theorem run_addresses {c : Config} {bytes : List UInt8} {s : Session} (h : compile c bytes = .ok s)
    (ops : List Op) : Addressed (s.run ops) := by
  obtain ⟨r, m, compiles, rfl⟩ := compile_ok h
  obtain ⟨phased, wired, _⟩ :=
    run_wired compiles.coherent (ofModule_wellPhased m) (ofModule_wired r.contents m) ops
  refine ⟨fun place g found only => ?_, fun place g later g' found behind there same => ?_⟩
  · have resolved : Resolves ((ofModule m).run ops).globalImports g.name place g := by
      refine ⟨found, rfl, fun other g' there same => Nat.le_of_not_lt fun behind => ?_⟩
      exact only other g' behind there same
    exact resolved.addresses wired phased
  · obtain ⟨last, g'', le, resolved⟩ := exists_resolves there
    rw [same] at resolved
    have addressed := resolved.addresses wired phased
    exact ⟨last, g'', le, addressed, fun v => addressed.others v place (by omega)⟩

/-- A module that imports two globals of one name, and exports a function that reads the first one. -/
def twinModule : List UInt8 :=
  Wasm.Sections.join
    [⟨Wasm.Section.typeId, [1, 0x60, 0, 1, 0x7f]⟩,
      ⟨Wasm.Section.importId, [2, 1, 0x61, 1, 0x67, 3, 0x7f, 0, 1, 0x62, 1, 0x67, 3, 0x7f, 0]⟩,
      ⟨Wasm.Section.functionId, [1, 0]⟩,
      ⟨Wasm.Section.exportId, [1, 3, 0x72, 0x75, 0x6e, 0, 0]⟩,
      ⟨Wasm.Section.codeId, [1, 4, 0, 0x23, 0, 0x0b]⟩]

/-- The function reads zero, although the host has set a global of that name. -/
theorem run_addresses_twins : ∃ s, compile {} twinModule = .ok s ∧
    ((s.run [.declareGlobals, .setGlobal "g" (.i32 5), .instantiate]).call "run" []).map (·.2) =
      some (.ok ⟨true, none, [.i32 0]⟩) ∧
      Addressed (s.run [.declareGlobals, .setGlobal "g" (.i32 5), .instantiate]) := by
  obtain ⟨s, compiled, read⟩ : ∃ s, compile {} twinModule = .ok s ∧
      ((s.run [.declareGlobals, .setGlobal "g" (.i32 5), .instantiate]).call "run" []).map (·.2) =
        some (.ok ⟨true, none, [.i32 0]⟩) := by decide +kernel
  exact ⟨s, compiled, read, run_addresses compiled _⟩

/-- **Not every global is addressed by its own name**, even before there is an instance. -/
theorem declareGlobals_hides : ∃ s, compile {} twinModule = .ok s ∧ ∃ g,
    (s.run [.declareGlobals]).globalImports[0]? = some g ∧ ¬Addresses (s.run [.declareGlobals]) g.name 0 g := by
  obtain ⟨s, compiled, isOpen, g, found, name, type, unset⟩ : ∃ s, compile {} twinModule = .ok s ∧
      (s.run [.declareGlobals]).phase.isOpen = true ∧ ∃ g,
        (s.run [.declareGlobals]).globalImports[0]? = some g ∧ g.name = "g" ∧ g.type = .i32 ∧
          ((s.run [.declareGlobals]).setGlobal "g" (.i32 5)).1.shownAt? 0 = some (.i32 0) := by decide +kernel
  refine ⟨s, compiled, g, found, fun addressed => ?_⟩
  have set := (addressed.sets isOpen (.i32 5)).2
  rw [name, unset, type] at set
  cases set

end WasmLens.Session
