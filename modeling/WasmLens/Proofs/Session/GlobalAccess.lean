import WasmLens.Proofs.Session.Wiring

/-!
# Setting and getting globals

A host that sets a global gets back the same bits, read at the type of the global, and **changes no other
global** (`Replaces`). It is refused exactly if an instance uses the cell of an immutable global. This holds
of every session that can be reached (`run_setGlobal`), because every session is wired.
-/
namespace WasmLens.Session

open Wasm Machine

/-! ## Names and values -/

/-- The value of the declared global at a place. -/
def valueAt? (s : Session) (place : Nat) : Option Val :=
  s.globalImports[place]?.bind fun g => s.store.globals[g.cell]?.map (·.value)

/-- What a host sees of a global, apart from its value. -/
def GlobalImport.shown (g : GlobalImport) : String × String × ValueType × Bool :=
  (g.module, g.name, g.type, g.isMutable)

/-- What a name stands for depends on names only. -/
theorem Resolves.of_names {globals globals' : List GlobalImport} {name : String} {place : Nat}
    {g g' : GlobalImport} (h : Resolves globals name place g)
    (names : globals'.map (·.name) = globals.map (·.name)) (found : globals'[place]? = some g') :
    Resolves globals' name place g' := by
  have same (k : Nat) := congrArg (·[k]?) names
  simp only [List.getElem?_map] at same
  refine ⟨found, ?_, fun other g₂ there named => ?_⟩
  · have here := same place
    rw [found, h.found, Option.map_some, Option.map_some, Option.some.injEq] at here
    exact here.trans h.named
  · have there' := same other
    rw [there, Option.map_some, named] at there'
    obtain ⟨g₁, before, named⟩ := Option.map_eq_some_iff.1 there'.symm
    exact h.last other g₁ before named

variable {s s' : Session} {name : String} {place : Nat} {g : GlobalImport}

theorem valueAt?_eq (found : s.globalImports[place]? = some g) :
    s.valueAt? place = s.store.globals[g.cell]?.map (·.value) := by
  rw [valueAt?, found, Option.bind_some]

theorem getGlobal_of_resolves (resolved : Resolves s.globalImports name place g) :
    s.getGlobal name = (g.type, ((s.valueAt? place).map Val.toValue).getD .void) := by
  have found := Imports.global?_eq_some_iff.2 resolved
  unfold getGlobal Imports.getGlobal valueAt?
  rw [found, resolved.found, Option.bind_some, Option.map_map]
  rfl

theorem getGlobal_of_unknown (unknown : ∀ place g, ¬Resolves s.globalImports name place g) :
    s.getGlobal name = (.void, .void) := by
  unfold getGlobal Imports.getGlobal
  cases found : s.imports.global? name with
  | none => rfl
  | some resolved => exact absurd (Imports.global?_eq_some_iff.1 found) (unknown _ _)

/-- What can be got by a name stays if the global that it stands for stays. -/
theorem getGlobal_congr (names : s'.globalImports.map (·.name) = s.globalImports.map (·.name))
    (same : ∀ place g, Resolves s.globalImports name place g →
      s'.globalImports[place]? = some g ∧ s'.valueAt? place = s.valueAt? place) :
    s'.getGlobal name = s.getGlobal name := by
  cases found : s.imports.global? name with
  | some resolved =>
    obtain ⟨g, place⟩ := resolved
    have resolves := Imports.global?_eq_some_iff.1 found
    obtain ⟨kept, value⟩ := same place g resolves
    rw [getGlobal_of_resolves resolves, getGlobal_of_resolves (resolves.of_names names kept), value]
  | none =>
    have unknown : ∀ place g, ¬Resolves s.globalImports name place g := by
      intro place g resolves
      rw [Imports.global?_eq_some_iff.2 resolves] at found
      cases found
    rw [getGlobal_of_unknown unknown, getGlobal_of_unknown]
    intro place g' resolves
    have here := congrArg (·[place]?) names
    simp only [List.getElem?_map, resolves.found, Option.map_some] at here
    obtain ⟨g, before, _⟩ := Option.map_eq_some_iff.1 here.symm
    exact unknown place g (resolves.of_names names.symm before)

/-! ## What is replaced -/

/-- **What becomes of a session** when a global is set to the bits of a value: its value is replaced, and
nothing else. -/
structure Replaces (s : Session) (place : Nat) (g : GlobalImport) (v : Value) (s' : Session) : Prop where
  value : s'.getGlobal g.name = (g.type, Value.ofBits g.type v.toBits)
  others : ∀ other, other ≠ place → s'.valueAt? other = s.valueAt? other
  names : ∀ other, other ≠ g.name → s'.getGlobal other = s.getGlobal other
  globals : s'.globalImports.map GlobalImport.shown = s.globalImports.map GlobalImport.shown
  rest : s' = { s with
    imports := { s.imports with globals := s'.imports.globals }
    store := { s.store with globals := s'.store.globals } }

/-- A session in which one of the globals has another value, or another cell, and the rest is the same. -/
theorem Replaces.of_place {v : Value} {g' : GlobalImport} {x : Val}
    (resolved : Resolves s.globalImports g.name place g)
    (value : (Value.ofBits g.type v.toBits).toVal? = some x)
    (list : s'.globalImports.map GlobalImport.shown = s.globalImports.map GlobalImport.shown)
    (here : s'.globalImports[place]? = some g') (stored : s'.valueAt? place = some x)
    (kept : ∀ other, other ≠ place →
      s'.globalImports[other]? = s.globalImports[other]? ∧ s'.valueAt? other = s.valueAt? other)
    (rest : s' = { s with
      imports := { s.imports with globals := s'.imports.globals }
      store := { s.store with globals := s'.store.globals } }) : Replaces s place g v s' := by
  have names : s'.globalImports.map (·.name) = s.globalImports.map (·.name) := by
    have := congrArg (List.map fun x : String × String × ValueType × Bool => x.2.1) list
    rw [List.map_map, List.map_map] at this
    exact this
  have type : g'.type = g.type := by
    have := congrArg (·[place]?) list
    simp only [List.getElem?_map, here, resolved.found, Option.map_some, Option.some.injEq] at this
    exact congrArg (fun x : String × String × ValueType × Bool => x.2.2.1) this
  refine ⟨?_, fun other ne => (kept other ne).2, fun other ne => ?_, list, rest⟩
  · rw [getGlobal_of_resolves (resolved.of_names names here), stored, Option.map_some, Option.getD_some, type,
      Value.toValue_of_toVal? value]
  · refine getGlobal_congr names fun place' g₁ resolves => ?_
    have elsewhere : place' ≠ place := by
      rintro rfl
      have found := resolves.found
      rw [resolved.found] at found
      cases found
      exact ne resolves.named.symm
    obtain ⟨same, value⟩ := kept place' elsewhere
    exact ⟨same.trans resolves.found, value⟩

/-! ## Setting a global -/

/-- A value of the type of a cell can be put there. -/
theorem put?_ne_none {c : Cell} {x : Val} (typed : x.hasType c.type.content) : c.put? x ≠ none := by
  rw [Cell.put?, Cell.ofVal?, dif_pos typed]
  nofun

variable {contents : List Content} {v : Value}

theorem Imports.globalList_moveGlobal (i : Imports) (place cell : Nat) :
    (i.moveGlobal place cell).globalList = i.globalList.modify place ({ · with cell }) := by
  unfold globalList moveGlobal
  cases i.globals with
  | none => exact (List.modify_nil ..).symm
  | some globals => rfl

/-- A write to the cell of one global does not show in the others. -/
theorem valueAt?_setCell (wired : Wired contents s) (found : s.globalImports[place]? = some g) (c' : Cell)
    {other : Nat} (ne : other ≠ place) :
    valueAt? { s with store := s.store.setCell g.cell c' } other = s.valueAt? other := by
  unfold valueAt?
  show s.globalImports[other]?.bind _ = s.globalImports[other]?.bind _
  cases there : s.globalImports[other]? with
  | none => rfl
  | some g' =>
    have apart : g.cell ≠ g'.cell := fun same => ne ((wired.global found).eq_of_cell there found same.symm)
    simp only [Option.bind_some, Store.setCell, Array.getElem?_setIfInBounds, if_neg apart]

/-- A new cell does not show in the globals that have theirs. -/
theorem valueAt?_push (wired : Wired contents s) (c' : Cell) {other : Nat} {g : GlobalImport}
    (found : s.globalImports[other]? = some g) :
    (s.store.globals.push c')[g.cell]?.map (·.value) = s.valueAt? other := by
  obtain ⟨c, there, _⟩ := (wired.global found).cells other g found
  rw [valueAt?_eq found, Array.getElem?_push,
    if_neg (Nat.ne_of_lt (Array.getElem?_eq_some_iff.1 there).1)]

/-- Writing to the cell of a global replaces its value. -/
theorem Replaces.of_write (wired : Wired contents s) (resolved : Resolves s.globalImports g.name place g)
    {x : Val} {c c' : Cell} (value : (Value.ofBits g.type v.toBits).toVal? = some x)
    (cell : s.store.globals[g.cell]? = some c) (put : c.put? x = some c') :
    Replaces s place g v { s with store := s.store.setCell g.cell c' } := by
  refine .of_place resolved value rfl resolved.found ?_ (fun other ne => ⟨rfl, ?_⟩) rfl
  · refine (valueAt?_eq (s := { s with store := s.store.setCell g.cell c' }) resolved.found).trans ?_
    simp only [Store.setCell, Array.getElem?_setIfInBounds_self, (Array.getElem?_eq_some_iff.1 cell).1]
    exact congrArg some (Cell.put?_eq_some put).2
  · exact valueAt?_setCell wired resolved.found c' ne

/-- Giving a global another cell replaces its value. -/
theorem Replaces.of_move (wired : Wired contents s) (resolved : Resolves s.globalImports g.name place g)
    {x : Val} {c c' : Cell} (value : (Value.ofBits g.type v.toBits).toVal? = some x)
    (made : Cell.ofVal? c.type x = some c') :
    Replaces s place g v { s with
      imports := s.imports.moveGlobal place s.store.globals.size
      store := { s.store with globals := s.store.globals.push c' } } := by
  have list := Imports.globalList_moveGlobal s.imports place s.store.globals.size
  have here : (s.imports.moveGlobal place s.store.globals.size).globalList[place]? =
      some { g with cell := s.store.globals.size } := by
    rw [list, List.getElem?_modify_eq, show s.imports.globalList[place]? = some g from resolved.found]
    rfl
  have others (other : Nat) (ne : other ≠ place) :
      (s.imports.moveGlobal place s.store.globals.size).globalList[other]? = s.globalImports[other]? := by
    rw [list, List.getElem?_modify_ne _ _ ne.symm]
    rfl
  refine .of_place resolved value ?_ here ?_ (fun other ne => ⟨others other ne, ?_⟩) rfl
  · show List.map _ (Imports.globalList _) = _
    rw [list]
    exact Provided.map_moved _ _ _ fun _ => rfl
  · rw [valueAt?_eq here]
    exact (congrArg (Option.map _) Array.getElem?_push_size).trans
      (congrArg some (Cell.ofVal?_eq_some made).2)
  · cases there : s.globalImports[other]? with
    | none =>
      rw [valueAt?, valueAt?, there]
      exact congrArg (Option.bind · _) ((others other ne).trans there)
    | some g' =>
      rw [valueAt?_eq ((others other ne).trans there)]
      exact valueAt?_push wired c' there

/-- What setting a global does to a session and answers, by what its name stands for. -/
inductive SetsTo (s : Session) (name : String) (v : Value) : Session × Except Error Unit → Prop
  | nothing (void : ∀ place g, Resolves s.globalImports name place g → g.type = .void) :
      SetsTo s name v (s, .ok ())
  | refused {place : Nat} {g : GlobalImport} (resolved : Resolves s.globalImports name place g)
      (type : g.type ≠ .void) (immutable : g.isMutable = false) (live : s.phase = .instantiated) :
      SetsTo s name v (s, .error (.immutableGlobal name))
  | replaced {place : Nat} {g : GlobalImport} {s' : Session} (resolved : Resolves s.globalImports name place g)
      (type : g.type ≠ .void) (free : g.isMutable = false → s.phase ≠ .instantiated)
      (replaces : Replaces s place g v s') : SetsTo s name v (s', .ok ())

/-- **Setting a global** of a wired session. -/
theorem setGlobal_setsTo (wired : Wired contents s) (phased : WellPhased s) (name : String) (v : Value) :
    SetsTo s name v (s.setGlobal name v) := by
  have way := Imports.sets s.imports s.store name v
  unfold setGlobal
  cases set : s.imports.setGlobal s.store name v with
  | error cause =>
    rw [set] at way
    cases way with
    | bound found type immutable bound =>
      exact .refused (Imports.global?_eq_some_iff.1 found) type immutable (phased.bound.1 bound)
    | broken found value wrong =>
      have resolved := Imports.global?_eq_some_iff.1 found
      obtain ⟨c, there, type, same⟩ := (wired.global resolved.found).cell resolved.found
      rw [← type] at value
      exact absurd (wrong c there same) (put?_ne_none (Value.hasType_of_toVal? value))
  | ok pair =>
    obtain ⟨imports, store⟩ := pair
    rw [set] at way
    cases way with
    | unknown absent =>
      refine .nothing fun place g resolved => ?_
      rw [Imports.global?_eq_some_iff.2 resolved] at absent
      cases absent
    | void found type =>
      refine .nothing fun place g resolved => ?_
      rw [Imports.global?_eq_some_iff.2 resolved] at found
      cases found
      exact type
    | @writes g place x c c' found value mutable cell isOpen put =>
      have resolved := Imports.global?_eq_some_iff.1 found
      obtain rfl := resolved.named
      refine .replaced resolved (Value.ne_void_of_toVal? value) (fun immutable => ?_)
        (.of_write wired resolved value cell put)
      rw [mutable] at immutable
      cases immutable
    | @moves g place x c c' found value immutable free cell made =>
      have resolved := Imports.global?_eq_some_iff.1 found
      obtain rfl := resolved.named
      refine .replaced resolved (Value.ne_void_of_toVal? value) (fun _ live => ?_)
        (.of_move wired resolved value made)
      rw [phased.bound.2 live] at free
      cases free

/-- What can be got is of the type that it is got with. -/
theorem getGlobal_typed (wired : Wired contents s) (name : String) :
    (s.getGlobal name).2.type = (s.getGlobal name).1 := by
  cases found : s.imports.global? name with
  | none =>
    rw [getGlobal_of_unknown fun place g resolved => by
      rw [Imports.global?_eq_some_iff.2 resolved] at found
      cases found]
    rfl
  | some resolved =>
    obtain ⟨g, place⟩ := resolved
    have resolved := Imports.global?_eq_some_iff.1 found
    obtain ⟨c, there, type, _⟩ := (wired.global resolved.found).cell resolved.found
    rw [getGlobal_of_resolves resolved, valueAt?_eq resolved.found, there, Option.map_some, Option.map_some,
      Option.getD_some, Val.toValue_type c.typed, type]

/-! ## All sessions -/

/-- How a session answers a host that sets a global, and what it then changes. -/
structure SetsGlobal (s : Session) (name : String) (v : Value) : Prop where
  refused : (s.setGlobal name v).2 = .error (.immutableGlobal name) ↔ ∃ place g,
    Resolves s.globalImports name place g ∧ g.isMutable = false ∧ g.type ≠ .void ∧ s.phase = .instantiated
  answers : (s.setGlobal name v).2 = .error (.immutableGlobal name) ∧ (s.setGlobal name v).1 = s ∨
    (s.setGlobal name v).2 = .ok ()
  nothing : (∀ place g, Resolves s.globalImports name place g → g.type = .void) → (s.setGlobal name v).1 = s
  replaces : ∀ place g, Resolves s.globalImports name place g → g.type ≠ .void →
    (s.setGlobal name v).2 = .ok () → Replaces s place g v (s.setGlobal name v).1

/-- A name stands for one global at most. -/
theorem Resolves.unique {globals : List GlobalImport} {place' : Nat} {g' : GlobalImport}
    (h : Resolves globals name place g) (h' : Resolves globals name place' g') : place = place' ∧ g = g' := by
  obtain rfl := Nat.le_antisymm (h'.last place g h.found h.named) (h.last place' g' h'.found h'.named)
  have found := h.found
  rw [h'.found] at found
  cases found
  exact ⟨rfl, rfl⟩

theorem SetsTo.setsGlobal (h : SetsTo s name v (s.setGlobal name v)) : SetsGlobal s name v := by
  generalize eq : s.setGlobal name v = answer at h
  cases h with
  | nothing void =>
    refine ⟨?_, .inr (by rw [eq]), fun _ => by rw [eq], fun place g resolved type => ?_⟩
    · simp only [eq, reduceCtorEq, false_iff, not_exists, not_and]
      exact fun place g resolved _ type => absurd (void place g resolved) type
    · exact absurd (void place g resolved) type
  | @refused place g resolved type immutable live =>
    refine ⟨?_, .inl (by rw [eq]; exact ⟨rfl, rfl⟩), fun _ => by rw [eq], fun _ _ _ _ ok => ?_⟩
    · simp only [eq, true_iff]
      exact ⟨place, g, resolved, immutable, type, live⟩
    · rw [eq] at ok
      cases ok
  | @replaced place g s' resolved type free replaces =>
    refine ⟨?_, .inr (by rw [eq]), fun void => ?_, fun place' g' resolved' _ _ => ?_⟩
    · simp only [eq, reduceCtorEq, false_iff, not_exists, not_and]
      intro place' g' resolved' immutable _ live
      obtain ⟨-, rfl⟩ := resolved.unique resolved'
      exact free immutable live
    · exact absurd (void place g resolved) type
    · obtain ⟨rfl, rfl⟩ := resolved.unique resolved'
      rw [eq]
      exact replaces

/-- **Setting and getting globals.** Whatever operations a session has gone through: a host is refused to set
a global exactly if it is immutable, has a host value and is used by an instance, and nothing changes then;
in all other cases it is set to the bits of the value, at its own type, and nothing else changes. What can
be got always has the type that comes with it. -/
theorem run_setGlobal {c : Config} {bytes : List UInt8} {s : Session} (h : compile c bytes = .ok s)
    (ops : List Op) :
    (∀ name v, SetsGlobal (s.run ops) name v) ∧
      ∀ name, ((s.run ops).getGlobal name).2.type = ((s.run ops).getGlobal name).1 := by
  obtain ⟨r, m, compiles, rfl⟩ := compile_ok h
  obtain ⟨phased, wired, _⟩ :=
    run_wired compiles.coherent (ofModule_wellPhased m) (ofModule_wired r.contents m) ops
  exact ⟨fun name v => (setGlobal_setsTo wired phased name v).setsGlobal, getGlobal_typed wired⟩

/-- A module that imports an immutable global, a memory, a mutable global and one that has no host value. It
reads the first one for a global of its own and for the place of its data; its start function, which it also
exports, counts in the second one. -/
def sharingModule : List UInt8 :=
  Wasm.Sections.join
    [⟨Wasm.Section.typeId, [1, 0x60, 0, 0]⟩,
      ⟨Wasm.Section.importId, [4, 0, 1, 0x69, 3, 0x7f, 0, 0, 1, 0x6d, 2, 0, 1, 0, 1, 0x63, 3, 0x7e, 1,
        0, 1, 0x78, 3, 0x6f, 1]⟩,
      ⟨Wasm.Section.functionId, [1, 0]⟩,
      ⟨Wasm.Section.globalId, [1, 0x7f, 0, 0x23, 0, 0x0b]⟩,
      ⟨Wasm.Section.exportId, [1, 3, 0x72, 0x75, 0x6e, 0, 0]⟩,
      ⟨Wasm.Section.startId, [0]⟩,
      ⟨Wasm.Section.codeId, [1, 9, 0, 0x23, 1, 0x42, 1, 0x7c, 0x24, 1, 0x0b]⟩,
      ⟨Wasm.Section.dataId, [1, 0, 0x23, 0, 0x0b, 1, 0xaa]⟩]

/-- Sets all globals before the module is instantiated, and the immutable one again behind it. -/
def sharingRun : List Op :=
  [.declareGlobals, .setGlobal "i" (.i32 5), .declareMemory, .setGlobal "c" (.i64 1),
    .setGlobal "x" (.i64 1), .instantiate, .setGlobal "i" (.i32 6), .call "run" []]

theorem run_setGlobal_sharing : ∃ s, compile {} sharingModule = .ok s ∧
    ((s.run sharingRun).getGlobal "i" = (.i32, .i32 5) ∧ (s.run sharingRun).getGlobal "c" = (.i64, .i64 3)) ∧
      (∀ name v, SetsGlobal (s.run sharingRun) name v) ∧
        ∀ name, ((s.run sharingRun).getGlobal name).2.type = ((s.run sharingRun).getGlobal name).1 := by
  obtain ⟨s, compiled, values⟩ : ∃ s, compile {} sharingModule = .ok s ∧
      ((s.run sharingRun).getGlobal "i" = (.i32, .i32 5) ∧
        (s.run sharingRun).getGlobal "c" = (.i64, .i64 3)) := by decide +kernel
  exact ⟨s, compiled, values, run_setGlobal compiled sharingRun⟩

end WasmLens.Session
