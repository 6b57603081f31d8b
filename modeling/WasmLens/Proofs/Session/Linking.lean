import WasmLens.Proofs.Module.IndexSpaces
import WasmLens.Proofs.Outcome
import WasmLens.Proofs.Wasm.Tables
import WasmLens.Session.Imports

/-!
# What imports are bound to

Declaring creates one cell for every imported global, and linking takes these cells in the same order again:
both go through the imports of the module and count on their own. They agree because **both take one global
for every import of a global** (`createGlobals_ok`, `externsFrom_ok`). The memory has to be the first one, so
a module whose imports can all be bound imports **at most one memory** (`externs_memories`).
-/
namespace WasmLens

open Wasm Machine Session

/-! ## Elements that a list is filtered for -/

/-- What the k-th element of a filtered list comes from: an element with k others in front that stay. -/
theorem exists_of_getElem?_filterMap {α β : Type} {f : α → Option β} : ∀ {xs : List α} {k : Nat} {y : β},
    (xs.filterMap f)[k]? = some y →
      ∃ (p : Nat) (x : α), xs[p]? = some x ∧ f x = some y ∧ ((xs.take p).filterMap f).length = k
  | [], _, _, h => nomatch h
  | x :: xs, k, y, h => by
    cases here : f x with
    | none =>
      rw [List.filterMap_cons_none here] at h
      obtain ⟨p, x', found, value, count⟩ := exists_of_getElem?_filterMap h
      exact ⟨p + 1, x', found, value, by rw [List.take_succ_cons, List.filterMap_cons_none here, count]⟩
    | some z =>
      rw [List.filterMap_cons_some here] at h
      cases k with
      | zero => exact ⟨0, x, rfl, here.trans h, rfl⟩
      | succ k =>
        obtain ⟨p, x', found, value, count⟩ := exists_of_getElem?_filterMap h
        refine ⟨p + 1, x', found, value, ?_⟩
        rw [List.take_succ_cons, List.filterMap_cons_some here, List.length_cons, count]

/-! ## Imported globals by name -/

/-- The names of a global among the imports of a module. -/
def ModuleImport.globalName? (m : ModuleImport) : Option (String × String) :=
  match m.entity with
  | .global _ => some (m.module, m.name)
  | _ => none

def Wasm.Import.globalName? (i : Import) : Option (String × String) :=
  i.globalType?.map fun _ => (i.module, i.name)

theorem Wasm.Import.length_globalNames (items : List Import) :
    (items.filterMap (·.globalName?)).length = (items.filterMap (·.globalType?)).length := by
  simp only [List.length_filterMap_eq_countP, globalName?, Option.isSome_map]

namespace Outline

theorem globalName?_of_reflect {memories globals : Nat} {i : Import} {m : ModuleImport}
    (h : i.reflect? memories globals = some m) : m.globalName? = i.globalName? := by
  obtain ⟨module, name, desc⟩ := i
  cases desc <;> cases h <;> rfl

/-- The imports of an outline show the globals among the imports of the binary. -/
theorem Reflected.globalNames {memories globals : Nat} {items : List Import} {shown : List ModuleImport}
    (h : Reflected memories globals items shown) :
    shown.filterMap (·.globalName?) = items.filterMap (·.globalName?) := by
  have same : shown.map (·.globalName?) = items.map (·.globalName?) := by
    refine List.ext_getElem (by simp [h.length]) fun p inShown inItems => ?_
    rw [List.length_map] at inShown inItems
    have each := h.each p
    rw [List.getElem?_eq_getElem inShown, List.getElem?_eq_getElem inItems, Option.bind_some] at each
    rw [List.getElem_map, List.getElem_map]
    exact globalName?_of_reflect each.symm
  have := congrArg (List.filterMap id) same
  simpa only [List.filterMap_map, Function.id_comp] using this

end Outline

namespace Session.Imports

/-! ## Declaring globals -/

/-- **What declaring the globals of a module makes**: a cell for each, behind all others. -/
structure Created (s : Store) (imports : List ModuleImport) (infos : List GlobalInfo)
    (types : List GlobalType) (globals : List GlobalImport) (s' : Store) : Prop where
  names : globals.map (fun g => (g.module, g.name)) = imports.filterMap (·.globalName?)
  infos : globals.map (fun g => (⟨g.type, g.isMutable⟩ : GlobalInfo)) = infos.take globals.length
  places : globals.map (·.cell) = List.range' s.globals.size globals.length
  cells : ∃ cells : List Cell, s' = { s with globals := s.globals ++ cells } ∧
    cells.map (·.type) = types.take globals.length

theorem newGlobal_ok {s s' : Store} {type : GlobalType} {v : Val} {place : Nat}
    (h : s.newGlobal type v = .ok (place, s')) :
    place = s.globals.size ∧ ∃ c : Cell, c.type = type ∧ c.value = v ∧
      s' = { s with globals := s.globals.push c } := by
  unfold Store.newGlobal at h
  split at h
  · rename_i c made
    cases h
    unfold Cell.ofVal? at made
    split at made <;> cases made
    exact ⟨rfl, _, rfl, rfl, rfl⟩
  · cases h

theorem createGlobals_ok : ∀ {imports : List ModuleImport} {infos : List GlobalInfo}
    {types : List GlobalType} {s s' : Store} {globals : List GlobalImport},
    createGlobals s imports infos types = .ok (globals, s') → Created s imports infos types globals s'
  | [], _, _, s, s', globals, h => by
    cases h
    exact ⟨rfl, rfl, rfl, [], by simp, rfl⟩
  | m :: imports, infos, types, s, s', globals, h => by
    unfold createGlobals at h
    split at h
    · rename_i index global
      split at h
      · rename_i info infos type types
        split at h
        · cases h
        · simp only [bind_eq_ok_iff, pure_eq_ok_iff] at h
          obtain ⟨⟨place, between⟩, new, ⟨others, last⟩, rest, eq⟩ := h
          cases eq
          obtain ⟨rfl, c, typed, _, rfl⟩ := newGlobal_ok (mapError_eq_ok new)
          obtain ⟨names, infosOf, places, cells, rfl, types⟩ := createGlobals_ok rest
          have name : m.globalName? = some (m.module, m.name) := by
            simp only [ModuleImport.globalName?, global]
          refine ⟨?_, ?_, ?_, c :: cells, ?_, ?_⟩
          · rw [List.filterMap_cons_some name, List.map_cons, names]
          · rw [List.map_cons, infosOf, List.length_cons, List.take_succ_cons]
          · rw [List.map_cons, places, Array.size_push, List.length_cons, List.range'_succ]
          · simp
          · rw [List.map_cons, types, typed, List.length_cons, List.take_succ_cons]
      · cases h
    all_goals
      rename_i other
      have created := createGlobals_ok h
      have none : m.globalName? = none := by simp only [ModuleImport.globalName?, other]
      exact { created with names := by rw [created.names, List.filterMap_cons_none none] }

/-! ## Binding -/

variable {i : Imports}

/-- What is bound: the next declared global for each import of a global, and the first memory. -/
structure Binds (i : Imports) (next : Nat) (imports : List ModuleImport) (externs : List Extern) : Prop where
  kinds : ∀ m ∈ imports, (∃ index, m.entity = .global index) ∨ m.entity = .memory 0 ∧ i.hasMemory
  cells : ∃ used rest, i.globalList.drop next = used ++ rest ∧
    used.length = (imports.filterMap (·.globalName?)).length ∧
      externs.filterMap Extern.cell? = used.map (·.cell)

theorem externsFrom_ok : ∀ {imports : List ModuleImport} {next : Nat} {externs : List Extern},
    i.externsFrom next imports = .ok externs → Binds i next imports externs
  | [], _, _, h => by
    cases h
    exact ⟨nofun, [], _, rfl, rfl, rfl⟩
  | m :: imports, next, externs, h => by
    unfold externsFrom at h
    split at h
    · rename_i index memory
      split at h
      · rename_i first
        obtain ⟨others, rest, rfl⟩ := map_eq_ok_iff.1 h
        obtain ⟨kinds, used, left, globals, length, cells⟩ := externsFrom_ok rest
        have name : m.globalName? = none := by simp only [ModuleImport.globalName?, memory]
        refine ⟨List.forall_mem_cons.2 ⟨.inr ?_, kinds⟩, used, left, globals, ?_, cells⟩
        · simp only [Bool.and_eq_true, decide_eq_true_eq] at first
          exact ⟨first.1 ▸ memory, first.2⟩
        · rw [List.filterMap_cons_none name, length]
      · cases h
    · rename_i index global
      split at h
      · rename_i g found
        obtain ⟨others, rest, rfl⟩ := map_eq_ok_iff.1 h
        obtain ⟨kinds, used, left, globals, length, cells⟩ := externsFrom_ok rest
        have name : m.globalName? = some (m.module, m.name) := by
          simp only [ModuleImport.globalName?, global]
        obtain ⟨inside, here⟩ := List.getElem?_eq_some_iff.1 found
        refine ⟨List.forall_mem_cons.2 ⟨.inl ⟨index, global⟩, kinds⟩, g :: used, left, ?_, ?_, ?_⟩
        · rw [List.drop_eq_getElem_cons inside, here, globals, List.cons_append]
        · rw [List.filterMap_cons_some name, List.length_cons, List.length_cons, length]
        · exact congrArg (g.cell :: ·) cells
      · cases h
    all_goals cases h

variable {o : Outline} {contents : List Content} {externs : List Extern}

/-- **All imported globals are bound** to the declared ones, in their order. -/
theorem externs_cells (h : i.externs o = .ok externs)
    (all : i.globalList.length ≤ (o.imports.filterMap (·.globalName?)).length) :
    externs.filterMap Extern.cell? = i.globalList.map (·.cell) ∧
      i.globalList.length = (o.imports.filterMap (·.globalName?)).length := by
  obtain ⟨used, rest, globals, length, cells⟩ := (externsFrom_ok h).cells
  rw [List.drop_zero] at globals
  have none : rest.length = 0 := by
    rw [globals, List.length_append] at all
    omega
  rw [List.length_eq_zero_iff.1 none, List.append_nil] at globals
  rw [globals]
  exact ⟨cells, length⟩

/-- **At most one memory can be bound**, and only if the host has created it. -/
theorem externs_memories (declared : o.Declared contents) (h : i.externs o = .ok externs) :
    o.importedMemories ≤ 1 ∧ (0 < o.importedMemories → i.hasMemory) := by
  have kinds := (externsFrom_ok h).kinds
  -- the k-th imported memory shows with index k
  have shows (k : Nat) (inside : k < o.importedMemories) :
      ∃ m ∈ o.imports, m.entity = .memory k := by
    rw [declared.importedMemories] at inside
    obtain ⟨p, x, found, memory, count⟩ :=
      exists_of_getElem?_filterMap (List.getElem?_eq_getElem inside)
    have shown := declared.imports.each p
    rw [found, Option.bind_some, count, Nat.zero_add, Nat.zero_add] at shown
    obtain ⟨module, name, desc⟩ := x
    cases desc <;> cases memory
    exact ⟨_, List.mem_of_getElem? shown, rfl⟩
  have first (k : Nat) (inside : k < o.importedMemories) : k = 0 ∧ i.hasMemory := by
    obtain ⟨m, mem, entity⟩ := shows k inside
    rcases kinds m mem with ⟨index, global⟩ | ⟨memory, has⟩
    · rw [entity] at global
      cases global
    · rw [entity] at memory
      cases memory
      exact ⟨rfl, has⟩
  refine ⟨?_, fun some => (first 0 some).2⟩
  rcases Nat.lt_or_ge 1 o.importedMemories with more | one
  · exact absurd (first 1 more).1 Nat.one_ne_zero
  · exact one

/-- **No function and no table can be bound.** -/
theorem externs_bindable (declared : o.Declared contents) (h : i.externs o = .ok externs) :
    ∀ x ∈ contents.flatMap Content.importItems, x.functionType? = none ∧ x.tableType? = none := by
  have kinds := (externsFrom_ok h).kinds
  intro x mem
  obtain ⟨p, found⟩ := List.mem_iff_getElem?.1 mem
  have shown := declared.imports.each p
  rw [found, Option.bind_some] at shown
  obtain ⟨module, name, desc⟩ := x
  cases desc with
  | func | table =>
    rcases kinds _ (List.mem_of_getElem? shown) with ⟨index, global⟩ | ⟨memory, _⟩
    · cases global
    · cases memory
  | _ => exact ⟨rfl, rfl⟩

/-- A module that is bound imports no function. -/
theorem externs_functions (declared : o.Declared contents) (h : i.externs o = .ok externs) :
    o.importedFunctions = 0 := by
  rw [declared.importedFunctions, List.length_eq_zero_iff, List.filterMap_eq_nil_iff]
  exact fun x mem => (externs_bindable declared h x mem).1

end Session.Imports

end WasmLens
