import WasmLens.Machine.Instantiate
import WasmLens.Proofs.Machine.Store
import WasmLens.Proofs.Outcome

/-!
# Cells that are shared

Cells are never taken away and never change their type, and whoever writes to one has to find it mutable:
a host is told, and a module has been validated. So over any part of a run **a store descends from the one
before** (`Store.Descends`): in particular no immutable cell ever gets another value.

For module code this rests on `Store.Binds`: the globals that the instance knows by index have the types
that validation went by.
-/
namespace WasmLens.Machine

open Wasm

/-- Operators that set no global but mutable ones. -/
def SetsMutable (types : List GlobalType) (op : Operator) : Prop :=
  ∀ index, op = .globalSet index → ∃ g, types[index]? = some g ∧ g.isMutable

/-- What is found in an array is found in one that starts like it. -/
theorem getElem?_of_front {α : Type} {xs ys : Array α} {i : Nat} {x : α} (h : xs.toList <+: ys.toList)
    (found : xs[i]? = some x) : ys[i]? = some x := by
  rw [← Array.getElem?_toList] at found ⊢
  obtain ⟨rest, eq⟩ := h
  rw [← eq]
  exact List.getElem?_append_left (List.getElem?_eq_some_iff.1 found).1 ▸ found

namespace Cell

theorem ofVal?_eq_some {type : GlobalType} {v : Val} {c : Cell} (h : ofVal? type v = some c) :
    c.type = type ∧ c.value = v := by
  unfold ofVal? at h
  split at h <;> cases h
  exact ⟨rfl, rfl⟩

theorem put?_eq_some {c c' : Cell} {v : Val} (h : c.put? v = some c') : c'.type = c.type ∧ c'.value = v :=
  ofVal?_eq_some h

end Cell

namespace Store

variable {s s' s'' : Store} {types : List GlobalType}

/-! ## Cells of a host -/

/-- A host writes to a mutable cell what is of its type. -/
theorem setGlobal_eq_ok_iff {place : Nat} {v : Val} : s.setGlobal place v = .ok s' ↔
    ∃ c c', s.globals[place]? = some c ∧ c.type.isMutable ∧ c.put? v = some c' ∧ s' = s.setCell place c' := by
  unfold setGlobal
  constructor
  · intro h
    split at h
    · rename_i c found
      obtain ⟨c', set, rfl⟩ := map_eq_ok_iff.1 h
      rcases ite_eq_ok_iff.1 set with ⟨_, refused⟩ | ⟨mutable, set⟩
      · cases refused
      · split at set <;> cases set
        rename_i put
        exact ⟨c, c', found, by simpa only [Bool.not_eq_true', Bool.not_eq_false] using mutable, put, rfl⟩
    · cases h
  · rintro ⟨c, c', found, mutable, put, rfl⟩
    simp only [found, Cell.set, mutable, put, Bool.not_true, Bool.false_eq_true, if_false]
    rfl

/-- A host creates a cell like another one with what is of its type. -/
theorem newLike_eq_ok_iff {place new : Nat} {v : Val} : s.newLike place v = .ok (new, s') ↔
    ∃ c c', s.globals[place]? = some c ∧ Cell.ofVal? c.type v = some c' ∧ new = s.globals.size ∧
      s' = { s with globals := s.globals.push c' } := by
  unfold newLike newGlobal
  constructor
  · intro h
    split at h
    · rename_i c found
      split at h <;> cases h
      rename_i c' made
      exact ⟨c, c', found, made, rfl, rfl⟩
    · cases h
  · rintro ⟨c, c', found, made, rfl, rfl⟩
    simp only [found, made]

/-! ## Descent -/

/-- Where cells are found again, and with which values. -/
def Descends (s s' : Store) : Prop :=
  ∀ (place : Nat) (c : Cell), s.globals[place]? = some c →
    ∃ c', s'.globals[place]? = some c' ∧ c'.type = c.type ∧ (c.type.isMutable = false → c' = c)

theorem Descends.refl (s : Store) : s.Descends s := fun _ c found => ⟨c, found, rfl, fun _ => rfl⟩

theorem Descends.trans (h : s.Descends s') (h' : s'.Descends s'') : s.Descends s'' := by
  intro place c found
  obtain ⟨c', found', type, frozen⟩ := h place c found
  obtain ⟨c'', found'', type', frozen'⟩ := h' place c' found'
  refine ⟨c'', found'', type'.trans type, fun immutable => ?_⟩
  rw [frozen' (type ▸ immutable), frozen immutable]

/-- Cells that are added leave those in front alone. -/
theorem Descends.of_front (h : s.globals.toList <+: s'.globals.toList) : s.Descends s' := by
  intro place c found
  exact ⟨c, getElem?_of_front h found, rfl, fun _ => rfl⟩

theorem Descends.of_eq (h : s'.globals = s.globals) : s.Descends s' := by
  intro place c found
  exact ⟨c, h ▸ found, rfl, fun _ => rfl⟩

/-- A cell that is mutable may be put another value. -/
theorem Descends.setCell {place : Nat} {c c' : Cell} (found : s.globals[place]? = some c)
    (type : c'.type = c.type) (mutable : c.type.isMutable) : s.Descends (s.setCell place c') := by
  intro other d there
  simp only [Store.setCell, Array.getElem?_setIfInBounds]
  split
  · rename_i here
    subst here
    rw [found] at there
    cases there
    rw [if_pos (Array.getElem?_eq_some_iff.1 found).1]
    refine ⟨c', rfl, type, fun immutable => ?_⟩
    rw [mutable] at immutable
    cases immutable
  · exact ⟨d, there, rfl, fun _ => rfl⟩

/-- **The globals of the instance** have the types that the module gives them. -/
def Binds (types : List GlobalType) (s : Store) : Prop :=
  ∀ (index place : Nat), s.bound[index]? = some place →
    ∃ c, s.globals[place]? = some c ∧ types[index]? = some c.type

theorem Binds.descends (h : s.Binds types) (bound : s'.bound = s.bound) (descends : s.Descends s') :
    s'.Binds types := by
  intro index place here
  rw [bound] at here
  obtain ⟨c, found, typed⟩ := h index place here
  obtain ⟨c', found', type, _⟩ := descends place c found
  exact ⟨c', found', type ▸ typed⟩

/-- **Validated code** leaves every cell its type, and every immutable cell its value. -/
theorem Changes.descends {op : Operator} (h : s.Changes op s') (binds : s.Binds types)
    (allowed : SetsMutable types op) : s.Descends s' := by
  cases h with
  | nothing => exact .refl s
  | writes | grows | tables | elements | data => exact .of_eq rfl
  | @sets index place v c c' bound found put =>
    obtain ⟨d, there, typed⟩ := binds index place bound
    rw [found] at there
    cases there
    obtain ⟨g, declared, mutable⟩ := allowed index rfl
    rw [typed] at declared
    cases declared
    exact .setCell found (Cell.put?_eq_some put).1 mutable

/-- A global of the instance is read from the cell that it is bound to. -/
theorem global?_of_bound {index place : Nat} (bound : s.bound[index]? = some place) :
    s.global? index = s.globals[place]?.map (·.value) := by
  rw [global?, cell?, bound, Option.bind_some]

/-! ## What the module defines -/

end Store

theorem cellOf_type (s : Store) (g : Global) : (cellOf s g).type = g.type := by
  unfold cellOf
  cases made : (constant? s g.init).bind (Cell.ofVal? g.type) with
  | none => rfl
  | some c =>
    obtain ⟨v, _, made⟩ := Option.bind_eq_some_iff.1 made
    exact (Cell.ofVal?_eq_some made).1

theorem addGlobals_binds : ∀ {defined : List Global} {s : Store} {types : List GlobalType},
    s.Binds types → s.bound.size = types.length →
      (addGlobals s defined).Binds (types ++ defined.map (·.type))
  | [], s, types, binds, _ => by
    rw [List.map_nil, List.append_nil]
    exact binds
  | g :: defined, s, types, binds, size => by
    rw [List.map_cons, List.append_cons]
    refine addGlobals_binds ?_ (by simp [define, size])
    intro index place bound
    simp only [define, Array.getElem?_push] at bound ⊢
    split at bound
    · rename_i last
      cases bound
      refine ⟨cellOf s g, if_pos rfl, ?_⟩
      rw [last, size, cellOf_type, List.getElem?_concat_length]
    · obtain ⟨c, found, typed⟩ := binds index place bound
      have old : place ≠ s.globals.size := Nat.ne_of_lt (Array.getElem?_eq_some_iff.1 found).1
      refine ⟨c, by rw [if_neg old]; exact found, ?_⟩
      rw [List.getElem?_append_left (List.getElem?_eq_some_iff.1 typed).1]
      exact typed

variable {s : Store} {externs : List Extern} {i : Image}

/-- **Once a module is allocated**, the instance is bound to the cells that are imported and then to those of
its own. -/
theorem allocate_binds {imported : List GlobalType}
    (size : (externs.filterMap Extern.cell?).length = imported.length)
    (cells : ∀ (index place : Nat), (externs.filterMap Extern.cell?)[index]? = some place →
      ∃ c, s.globals[place]? = some c ∧ imported[index]? = some c.type) :
    (allocate (bind s externs) i).Binds (imported ++ i.globals.map (·.type)) := by
  have bound : (bind s externs).Binds imported := by
    intro index place here
    rw [bind, List.getElem?_toArray] at here
    exact cells index place here
  exact addGlobals_binds bound (by rw [bind, List.size_toArray, size])

/-- Imported globals keep their places in the instance. -/
theorem addGlobals_bound : ∀ {defined : List Global} {s : Store} {index place : Nat},
    s.bound[index]? = some place → (addGlobals s defined).bound[index]? = some place
  | [], _, _, _, h => h
  | g :: defined, s, index, place, h => by
    refine addGlobals_bound (s := define s (cellOf s g)) ?_
    rw [define, Array.getElem?_push, if_neg (Nat.ne_of_lt (Array.getElem?_eq_some_iff.1 h).1)]
    exact h

theorem allocate_bound {index place : Nat} (h : (externs.filterMap Extern.cell?)[index]? = some place) :
    (allocate (bind s externs) i).bound[index]? = some place := by
  refine addGlobals_bound (s := bind s externs) ?_
  rw [bind, List.getElem?_toArray]
  exact h

end WasmLens.Machine
