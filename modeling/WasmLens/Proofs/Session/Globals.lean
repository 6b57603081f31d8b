import Mathlib.Data.List.Induction
import Mathlib.Data.List.Nodup
import WasmLens.Proofs.Module.Compiled
import WasmLens.Proofs.Session.Lifecycle
import WasmLens.Proofs.Session.Linking
import WasmLens.Proofs.Session.Moments

/-!
# Declared globals

What a host declares is a list of globals, each with a cell in the store. A name stands for the last global
that is declared under it (`Resolves`). Setting a global by its name writes to its cell, or gives it another
one; `Imports.Sets` lists **all that it can come to**, and `Provided` says what keeps it from going wrong:
every global has a cell of its own, of its own type.
-/
namespace WasmLens

open Wasm Machine

/-! ## Values of a type -/

theorem Value.toVal?_ofBits_eq_none_iff {t : ValueType} {bits : BitVec 64} :
    (ofBits t bits).toVal? = none ↔ t = .void := by
  cases t <;> simp [ofBits, toVal?]

theorem Value.ne_void_of_toVal? {t : ValueType} {bits : BitVec 64} {x : Val}
    (h : (ofBits t bits).toVal? = some x) : t ≠ .void := by
  intro void
  rw [toVal?_ofBits_eq_none_iff.2 void] at h
  cases h

theorem Value.hasType_of_toVal? {t : Wasm.ValType} {bits : BitVec 64} {x : Val}
    (h : (ofBits t.reflect bits).toVal? = some x) : x.hasType t := by
  cases t <;> cases h <;> rfl

theorem Machine.Val.toValue_type {v : Val} {t : Wasm.ValType} (h : v.hasType t) :
    v.toValue.type = t.reflect := by
  cases v <;> cases t <;> first | rfl | cases h

namespace Session

/-! ## Names -/

/-- **What a name stands for** among some globals: the last one that has it, and where that is. -/
structure Resolves (globals : List GlobalImport) (name : String) (place : Nat) (g : GlobalImport) : Prop where
  found : globals[place]? = some g
  named : g.name = name
  last : ∀ (other : Nat) g', globals[other]? = some g' → g'.name = name → other ≤ place

/-- The last element of a kind, and its place. -/
theorem getLast?_filter_zipIdx {α : Type} {p : α → Bool} {x : α} {k : Nat} (xs : List α) :
    (xs.zipIdx.filter fun y => p y.1).getLast? = some (x, k) ↔
      xs[k]? = some x ∧ p x ∧ ∀ (j : Nat) y, xs[j]? = some y → p y → j ≤ k := by
  induction xs using List.reverseRecOn with
  | nil => simp
  | append_singleton xs z ih =>
    have index (j : Nat) (y : α) :
        (xs ++ [z])[j]? = some y ↔ xs[j]? = some y ∨ j = xs.length ∧ y = z := by
      rcases Nat.lt_or_ge j xs.length with inside | outside
      · rw [List.getElem?_append_left inside]
        exact ⟨.inl, fun h => h.resolve_right fun ⟨eq, _⟩ => Nat.ne_of_lt inside eq⟩
      · rw [List.getElem?_append_right outside, List.getElem?_singleton, List.getElem?_eq_none outside]
        grind
    rw [List.zipIdx_append, List.filter_append, Nat.zero_add, List.zipIdx_singleton, List.filter_cons,
      List.filter_nil]
    cases holds : p z with
    | true =>
      simp only [if_true, List.getLast?_concat, Option.some.injEq, Prod.mk.injEq, index]
      constructor
      · rintro ⟨rfl, rfl⟩
        refine ⟨.inr ⟨rfl, rfl⟩, holds, ?_⟩
        rintro j y (inside | ⟨rfl, _⟩) _
        · exact Nat.le_of_lt (List.getElem?_eq_some_iff.1 inside).1
        · exact Nat.le_refl _
      · rintro ⟨inside | ⟨rfl, rfl⟩, _, last⟩
        · have later := last xs.length z (.inr ⟨rfl, rfl⟩) holds
          exact absurd (List.getElem?_eq_some_iff.1 inside).1 (Nat.not_lt.2 later)
        · exact ⟨rfl, rfl⟩
    | false =>
      simp only [Bool.false_eq_true, if_false, List.append_nil, ih, index]
      constructor
      · rintro ⟨found, is, last⟩
        refine ⟨.inl found, is, ?_⟩
        rintro j y (inside | ⟨_, rfl⟩) other
        · exact last j y inside other
        · rw [holds] at other
          cases other
      · rintro ⟨found | ⟨_, rfl⟩, is, last⟩
        · exact ⟨found, is, fun j y inside => last j y (.inl inside)⟩
        · rw [holds] at is
          cases is

namespace Imports

variable {i : Imports} {s : Store} {name : String} {v : Value}

theorem global?_eq_some_iff {g : GlobalImport} {place : Nat} :
    i.global? name = some (g, place) ↔ Resolves i.globalList name place g := by
  have last (k : Nat) (x : GlobalImport) :=
    getLast?_filter_zipIdx (p := fun g => g.name = name) (x := x) (k := k) i.globalList
  simp only [decide_eq_true_eq] at last
  unfold global? placeOf?
  constructor
  · intro h
    obtain ⟨k, place, found⟩ := Option.bind_eq_some_iff.1 h
    obtain ⟨⟨x, _⟩, here, rfl⟩ := Option.map_eq_some_iff.1 place
    obtain ⟨there, named, others⟩ := (last _ x).1 here
    rw [there] at found
    cases found
    exact ⟨there, named, others⟩
  · rintro ⟨found, named, others⟩
    rw [(last place g).2 ⟨found, named, others⟩, Option.map_some, Option.bind_some, found, Option.map_some]

/-! ## Setting a global -/

/-- All that setting a global can come to. -/
inductive Sets (i : Imports) (s : Store) (name : String) (v : Value) : Except Error (Imports × Store) → Prop
  | unknown (absent : i.global? name = none) : Sets i s name v (.ok (i, s))
  | void {g : GlobalImport} {place : Nat} (found : i.global? name = some (g, place)) (type : g.type = .void) :
      Sets i s name v (.ok (i, s))
  | writes {g : GlobalImport} {place : Nat} {x : Val} {c c' : Cell} (found : i.global? name = some (g, place))
      (value : (Value.ofBits g.type v.toBits).toVal? = some x) (mutable : g.isMutable)
      (cell : s.globals[g.cell]? = some c) (open_ : c.type.isMutable) (put : c.put? x = some c') :
      Sets i s name v (.ok (i, s.setCell g.cell c'))
  | moves {g : GlobalImport} {place : Nat} {x : Val} {c c' : Cell} (found : i.global? name = some (g, place))
      (value : (Value.ofBits g.type v.toBits).toVal? = some x) (immutable : g.isMutable = false)
      (free : i.isBound = false) (cell : s.globals[g.cell]? = some c) (made : Cell.ofVal? c.type x = some c') :
      Sets i s name v (.ok (i.moveGlobal place s.globals.size, { s with globals := s.globals.push c' }))
  | bound {g : GlobalImport} {place : Nat} (found : i.global? name = some (g, place)) (type : g.type ≠ .void)
      (immutable : g.isMutable = false) (bound : i.isBound) : Sets i s name v (.error (.immutableGlobal name))
  /-- The cell is not there, or not of the type of the global. -/
  | broken {g : GlobalImport} {place : Nat} {x : Val} {cause : Error}
      (found : i.global? name = some (g, place))
      (value : (Value.ofBits g.type v.toBits).toVal? = some x)
      (wrong : ∀ c, s.globals[g.cell]? = some c → c.type.isMutable = g.isMutable → c.put? x = none) :
      Sets i s name v (.error cause)

theorem sets (i : Imports) (s : Store) (name : String) (v : Value) : Sets i s name v (i.setGlobal s name v) := by
  unfold setGlobal
  cases found : i.global? name with
  | none => exact .unknown found
  | some resolved =>
    obtain ⟨g, place⟩ := resolved
    dsimp only
    cases value : (Value.ofBits g.type v.toBits).toVal? with
    | none => exact .void found (Value.toVal?_ofBits_eq_none_iff.1 value)
    | some x =>
      dsimp only
      cases mutability : g.isMutable with
      | true =>
        rw [if_pos rfl]
        cases set : s.setGlobal g.cell x with
        | ok s' =>
          obtain ⟨c, c', cell, open_, put, rfl⟩ := Store.setGlobal_eq_ok_iff.1 set
          exact .writes found value mutability cell open_ put
        | error fault =>
          refine .broken found value fun c cell same => ?_
          cases put : c.put? x with
          | none => rfl
          | some c' =>
            rw [Store.setGlobal_eq_ok_iff.2 ⟨c, c', cell, same.trans mutability, put, rfl⟩] at set
            cases set
      | false =>
        rw [if_neg Bool.false_ne_true]
        cases bound : i.isBound with
        | true => exact .bound found (Value.ne_void_of_toVal? value) mutability bound
        | false =>
          rw [if_neg Bool.false_ne_true]
          cases made : s.newLike g.cell x with
          | ok next =>
            obtain ⟨place', s'⟩ := next
            obtain ⟨c, c', cell, of, rfl, rfl⟩ := Store.newLike_eq_ok_iff.1 made
            exact .moves found value mutability bound cell of
          | error fault =>
            refine .broken found value fun c cell _ => ?_
            cases of : Cell.ofVal? c.type x with
            | none => exact of
            | some c' =>
              rw [Store.newLike_eq_ok_iff.2 ⟨c, c', cell, of, rfl, rfl⟩] at made
              cases made

end Imports

/-! ## Cells of their own -/

/-- **How declared globals belong to the imports of a binary**: they are the imported globals, one for one,
and each has a cell of its own, of its own type. -/
structure Provided (items : List Import) (globals : List GlobalImport) (s : Store) : Prop where
  names : globals.map (fun g => (g.module, g.name)) = items.filterMap (·.globalName?)
  infos : globals.map (fun g => (⟨g.type, g.isMutable⟩ : GlobalInfo)) =
    (items.filterMap (·.globalType?)).map Outline.globalInfo
  distinct : (globals.map (·.cell)).Nodup
  cells : ∀ (k : Nat) g, globals[k]? = some g →
    ∃ c, s.globals[g.cell]? = some c ∧ (items.filterMap (·.globalType?))[k]? = some c.type

namespace Provided

variable {items : List Import} {globals : List GlobalImport} {s s' : Store}

/-- Where nothing is imported nothing has to be declared. -/
theorem nil (none : (items.filterMap (·.globalType?)).length = 0) : Provided items [] s := by
  have names : (items.filterMap (·.globalName?)).length = 0 := by rw [Import.length_globalNames, none]
  rw [List.length_eq_zero_iff] at none names
  exact ⟨names.symm, by rw [none]; rfl, .nil, nofun⟩

theorem length (h : Provided items globals s) : globals.length = (items.filterMap (·.globalType?)).length := by
  simpa only [List.length_map] using congrArg List.length h.infos

/-- A cell has the type and the mutability that its global shows. -/
theorem cell (h : Provided items globals s) {k : Nat} {g : GlobalImport} (found : globals[k]? = some g) :
    ∃ c, s.globals[g.cell]? = some c ∧ c.type.content.reflect = g.type ∧ c.type.isMutable = g.isMutable := by
  obtain ⟨c, there, typed⟩ := h.cells k g found
  have info := congrArg (·[k]?) h.infos
  simp only [List.getElem?_map, found, typed, Option.map_some, Option.some.injEq] at info
  refine ⟨c, there, ?_, ?_⟩
  · exact (congrArg GlobalInfo.type info).symm
  · exact (congrArg GlobalInfo.isMutable info).symm

/-- Two globals never share a cell. -/
theorem eq_of_cell (h : Provided items globals s) {j k : Nat} {g g' : GlobalImport}
    (found : globals[j]? = some g) (found' : globals[k]? = some g') (same : g.cell = g'.cell) : j = k := by
  have inside : j < (globals.map (·.cell)).length := by
    rw [List.length_map]
    exact (List.getElem?_eq_some_iff.1 found).1
  refine (List.getElem?_inj inside h.distinct).1 ?_
  rw [List.getElem?_map, List.getElem?_map, found, found', Option.map_some, Option.map_some, same]

theorem descends (h : Provided items globals s) (descends : s.Descends s') : Provided items globals s' := by
  refine { h with cells := fun k g found => ?_ }
  obtain ⟨c, there, typed⟩ := h.cells k g found
  obtain ⟨c', there', type, _⟩ := descends g.cell c there
  exact ⟨c', there', type ▸ typed⟩

/-- What a global shows does not depend on its cell. -/
theorem map_moved {α : Type} (shown : GlobalImport → α) (place cell : Nat)
    (same : ∀ g : GlobalImport, shown { g with cell } = shown g) :
    (globals.modify place ({ · with cell })).map shown = globals.map shown := by
  refine List.ext_getElem? fun k => ?_
  simp only [List.getElem?_map, List.getElem?_modify, Option.map_eq_map, Option.map_map]
  congr 1
  funext g
  simp only [Function.comp_apply]
  split
  · exact same g
  · rfl

/-- A global may get a new cell, of the type of its old one. -/
theorem move (h : Provided items globals s) {place : Nat} {g : GlobalImport} {c c' : Cell}
    (found : globals[place]? = some g) (cell : s.globals[g.cell]? = some c) (type : c'.type = c.type) :
    Provided items (globals.modify place ({ · with cell := s.globals.size }))
      { s with globals := s.globals.push c' } where
  names := by rw [map_moved _ _ _ fun _ => rfl, h.names]
  infos := by rw [map_moved _ _ _ fun _ => rfl, h.infos]
  distinct := by
    have moved : (globals.modify place ({ · with cell := s.globals.size })).map (·.cell) =
        (globals.map (·.cell)).set place s.globals.size := by
      rw [List.modify_eq_set_getElem?, found, Option.map_eq_map, Option.map_some, Option.getD_some, List.map_set]
    rw [moved]
    refine h.distinct.set fun mem => ?_
    -- no global has had a cell behind the last one
    obtain ⟨g', among, eq⟩ := List.mem_map.1 mem
    obtain ⟨k, found'⟩ := List.getElem?_of_mem among
    obtain ⟨d, there, _⟩ := h.cells k g' found'
    rw [eq, Array.getElem?_size] at there
    cases there
  cells := by
    intro k g' found'
    simp only [List.getElem?_modify, Option.map_eq_map, Option.map_eq_some_iff] at found'
    obtain ⟨d, before, eq⟩ := found'
    by_cases here : place = k
    · rw [if_pos here] at eq
      subst here eq
      rw [found] at before
      cases before
      obtain ⟨c₀, there, typed⟩ := h.cells place g found
      rw [cell] at there
      cases there
      exact ⟨c', Array.getElem?_push_size, type ▸ typed⟩
    · rw [if_neg here] at eq
      subst eq
      obtain ⟨d', there, typed⟩ := h.cells k d before
      refine ⟨d', ?_, typed⟩
      rw [Array.getElem?_push, if_neg (Nat.ne_of_lt (Array.getElem?_eq_some_iff.1 there).1)]
      exact there

end Provided

/-- Globals are declared once, and then they are created. -/
theorem Imports.declareGlobals_creates {i i' : Imports} {s s' : Store} {m : CompiledModule}
    (h : i.declareGlobals s m = .ok (i', s')) :
    i' = i ∧ s' = s ∨ ∃ globals,
      Created s m.outline.imports m.outline.globals m.image.importedGlobals globals s' ∧
        i' = { i with globals := some globals } := by
  unfold declareGlobals at h
  split at h
  · cases h
    exact .inl ⟨rfl, rfl⟩
  · obtain ⟨⟨globals, store⟩, created, eq⟩ := bind_eq_ok_iff.1 h
    cases eq
    exact .inr ⟨globals, createGlobals_ok created, rfl⟩

open CompiledModule in
/-- What is created for the imports of a module are the globals of its binary. -/
theorem Imports.Created.provided {m : CompiledModule} {contents : List Content} {s s' : Store}
    {globals : List GlobalImport} (coherent : Coherent contents m)
    (created : Created s m.outline.imports m.outline.globals m.image.importedGlobals globals s') :
    Provided (contents.flatMap Content.importItems) globals s' := by
  have names := created.names.trans coherent.outline.imports.globalNames
  have length : globals.length = m.image.importedGlobals.length := by
    have lengths := congrArg List.length names
    rw [List.length_map, Import.length_globalNames] at lengths
    rw [lengths, coherent.importedGlobals]
  obtain ⟨cells, rfl, types⟩ := created.cells
  rw [length, List.take_length] at types
  refine ⟨names, ?_, ?_, fun k g found => ?_⟩
  · rw [created.infos, coherent.outline.globals, length, coherent.importedGlobals, List.map_append,
      List.take_left' (by rw [List.length_map])]
  · rw [created.places]
    exact List.nodup_range'
  · have place := congrArg (·[k]?) created.places
    obtain ⟨inside, _⟩ := List.getElem?_eq_some_iff.1 found
    simp only [List.getElem?_map, found, Option.map_some, List.getElem?_range' inside, Option.some.injEq,
      Nat.one_mul] at place
    rw [← coherent.importedGlobals, ← types, List.getElem?_map, place]
    have there : k < cells.length := by
      rw [← List.length_map (f := Cell.type), types, ← length]
      exact inside
    refine ⟨cells[k], ?_, by rw [List.getElem?_eq_getElem there, Option.map_some]⟩
    rw [← Array.getElem?_toList, Array.toList_appendList, ← Array.length_toList,
      List.getElem?_append_right (Nat.le_add_right _ _), Nat.add_sub_cancel_left, List.getElem?_eq_getElem there]

end Session

end WasmLens
