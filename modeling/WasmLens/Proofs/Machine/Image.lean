import WasmLens.Machine.Image
import WasmLens.Proofs.Machine.Run
import WasmLens.Proofs.Module.IndexSpaces

/-!
# The image of a module

An image takes what it holds from the sections that come to it, and a later section of a kind would take
the place of an earlier one. In a valid module there is one of each kind, so **an image holds what all
sections give** (`ofContents_field`). Exports leave no trace in it (`ofContents_exports`).

The program of an image holds the code of its bodies, operator by operator (`program?_within`), and a function for
each body (`program?_makes`).
-/
namespace WasmLens

open Wasm

/-! ## What contents give -/

namespace Wasm.Content

def globalItems : Content → List Global
  | .globals items => items
  | _ => []

def bodyItems : Content → List Body
  | .code bodies => bodies
  | _ => []

/-- The tables that a module defines. -/
def tableItems : Content → List Table
  | .tables items => items
  | _ => []

theorem map_globalItems (contents : List Content) :
    (contents.flatMap globalItems).map (·.type) = contents.flatMap definedGlobals := by
  rw [List.map_flatMap]
  congr 1
  funext content
  cases content <;> rfl

end Wasm.Content

namespace Machine.Image

open Content

variable {contents : List Content}

/-! ## Fields -/

/-- How contents enter a field of an image: they add to it. Those at one place would replace what is there, but they
come before all others that add something. -/
structure Fills {α : Type} (place : Nat) (items : Content → List α) (get : Image → List α) : Prop where
  enters : ∀ i content, (content.place? = some place → get i = []) → get (add i content) = get i ++ items content
  behind : ∀ content, items content ≠ [] → ∃ late, content.place? = some late ∧ place ≤ late

variable {α : Type} {place : Nat} {items : Content → List α} {get : Image → List α}

/-- A field that is replaced at one place, and not touched by any other contents. -/
theorem Fills.of_replaced (here : ∀ i content, content.place? = some place → get (add i content) = items content)
    (elsewhere : ∀ i content, content.place? ≠ some place → get (add i content) = get i)
    (nothing : ∀ content, content.place? ≠ some place → items content = []) : Fills place items get where
  enters i content fresh := by
    rcases Decidable.em (content.place? = some place) with at_ | not
    · rw [here i content at_, fresh at_, List.nil_append]
    · rw [elsewhere i content not, nothing content not, List.append_nil]
  behind content some :=
    ⟨place, Decidable.of_not_not fun not => some (nothing content not), Nat.le_refl place⟩

theorem Fills.foldl_add (fills : Fills place items get) : ∀ {contents : List Content} {i : Image},
    Ordered contents → (get i = [] ∨ ∀ content ∈ contents, content.place? ≠ some place) →
      get (contents.foldl add i) = get i ++ contents.flatMap items
  | [], _, _, _ => (List.append_nil _).symm
  | content :: contents, i, ordered, fresh => by
    have entered := fills.enters i content fun at_ =>
      fresh.resolve_right fun none => none content List.mem_cons_self at_
    have still : get (add i content) = [] ∨ ∀ other ∈ contents, other.place? ≠ some place := by
      rcases Decidable.em (items content = []) with none | some
      · rw [entered, none, List.append_nil]
        exact fresh.imp_right fun none other mem => none other (List.mem_cons_of_mem _ mem)
      · -- nothing comes to the place again
        obtain ⟨late, at_, le⟩ := fills.behind content some
        exact .inr (ordered.not_behind (P := fun other => other.place? = Option.some place) at_ le fun _ => id)
    rw [List.foldl_cons, List.flatMap_cons, fills.foldl_add (List.pairwise_cons.1 ordered).2 still, entered,
      List.append_assoc]

/-- **A field of an image** that is filled at one place holds what all contents give to it. -/
theorem Fills.ofContents (fills : Fills place items get) (nil : get {} = []) (ordered : Ordered contents) :
    get (ofContents contents) = contents.flatMap items := by
  rw [Image.ofContents, fills.foldl_add ordered (.inl nil), nil, List.nil_append]

theorem fills_imports : Fills 2 importItems imports := by
  apply Fills.of_replaced <;> intros <;> rename_i content place <;> cases content <;>
    first | rfl | cases place | exact absurd rfl place

theorem fills_importedGlobals : Fills 2 (fun content => content.importItems.filterMap (·.globalType?))
    importedGlobals := by
  apply Fills.of_replaced <;> intros <;> rename_i content place <;> cases content <;>
    first | rfl | cases place | exact absurd rfl place

theorem fills_tables : Fills 4 tableItems tables := by
  apply Fills.of_replaced <;> intros <;> rename_i content place <;> cases content <;>
    first | rfl | cases place | exact absurd rfl place

theorem fills_memories : Fills 5 definedMemories memories := by
  apply Fills.of_replaced <;> intros <;> rename_i content place <;> cases content <;>
    first | rfl | cases place | exact absurd rfl place

theorem fills_globals : Fills 7 globalItems globals := by
  apply Fills.of_replaced <;> intros <;> rename_i content place <;> cases content <;>
    first | rfl | cases place | exact absurd rfl place

theorem fills_bodies : Fills 12 bodyItems bodies := by
  apply Fills.of_replaced <;> intros <;> rename_i content place <;> cases content <;>
    first | rfl | cases place | exact absurd rfl place

/-- Types are appended, wherever they stand. -/
theorem fills_types : Fills 1 (fun content => content.definedTypes.map SubType.funcType?) (·.types.toList) where
  enters i content _ := by
    cases content with
    | types groups => exact Array.toList_appendList ..
    | _ => exact (List.append_nil _).symm
  behind content some := by
    cases content with
    | types groups => exact ⟨1, rfl, Nat.le_refl 1⟩
    | _ => exact absurd rfl some

/-- Functions that are defined come behind those that are imported. -/
theorem fills_functionTypes : Fills 2 (·.entries.functions) (·.functionTypes.toList) where
  enters i content fresh := by
    cases content with
    | imports items => rw [fresh rfl]; rfl
    | functions types => exact Array.toList_appendList ..
    | _ => exact (List.append_nil _).symm
  behind content some := by
    cases content with
    | imports items => exact ⟨2, rfl, Nat.le_refl 2⟩
    | functions types => exact ⟨3, rfl, Nat.le_succ 2⟩
    | _ => exact absurd rfl some

/-- The functions that are imported are counted. -/
theorem importedFunctions_foldl {i : Image}
    (counted : i.importedFunctions = (i.imports.filterMap (·.functionType?)).length)
    (contents : List Content) : (contents.foldl add i).importedFunctions =
      ((contents.foldl add i).imports.filterMap (·.functionType?)).length := by
  induction contents generalizing i with
  | nil => exact counted
  | cons content contents ih =>
    refine ih ?_
    cases content with
    | imports items => rfl
    | _ => exact counted

theorem types_ofContents (ordered : Ordered contents) :
    (ofContents contents).types.toList = (entriesOf contents).types.map SubType.funcType? := by
  rw [fills_types.ofContents rfl ordered, types_entriesOf, List.map_flatMap]

theorem functionTypes_ofContents (ordered : Ordered contents) :
    (ofContents contents).functionTypes.toList = (entriesOf contents).functions := by
  rw [fills_functionTypes.ofContents rfl ordered, entriesOf_eq_flatMap (·.functions) rfl fun _ _ => rfl]

theorem importedFunctions_ofContents (ordered : Ordered contents) :
    (ofContents contents).importedFunctions =
      ((contents.flatMap importItems).filterMap (·.functionType?)).length := by
  rw [← fills_imports.ofContents rfl ordered]
  exact importedFunctions_foldl rfl contents

theorem bodies_ofContents (ordered : Ordered contents) : (ofContents contents).bodies = contents.flatMap bodyItems :=
  fills_bodies.ofContents rfl ordered

/-- **Exports leave no trace** in an image. -/
theorem ofContents_exports (front back : List Content) (exports : List Export) :
    ofContents (front ++ .exports exports :: back) = ofContents (front ++ back) := by
  simp only [ofContents, List.foldl_append, List.foldl_cons, add]

end Machine.Image

/-! ## Its program -/

namespace Machine

variable {P : Operator → Prop}

structure Scope.Within (P : Operator → Prop) (s : Scope) : Prop where
  before : ∀ c ∈ s.before, c.Within P
  opening : ∀ yes, s.opening = .otherwise yes → ∀ c ∈ yes, c.Within P

theorem Scope.Within.close {s : Scope} (within : s.Within P) {body : List Code}
    (inside : ∀ c ∈ body, c.Within P) : (s.close body).Within P := by
  unfold Scope.close
  split
  · exact .block inside
  · exact .loop inside
  · exact .branch inside nofun
  · rename_i yes opening
    exact .branch (within.opening yes opening) inside

/-- A block that is opened over code within a set of operators. -/
theorem Scope.Within.opened {opening : Opening} {arity : Arity} {before : List Code}
    (within : ∀ c ∈ before, c.Within P) (yet : ∀ yes, opening ≠ .otherwise yes) :
    Scope.Within P ⟨opening, arity, before⟩ :=
  ⟨within, fun yes eq => absurd eq (yet yes)⟩

/-- Assembling code uses the operators as they are. -/
theorem Code.assembleFrom_within {arityOf : BlockType → Option Arity} {ops : List Operator}
    {done code : List Code} {scopes : List Scope} (assembled : assembleFrom arityOf ops done scopes = some code)
    (allowed : ∀ op ∈ ops, P op) (doneWithin : ∀ c ∈ done, c.Within P)
    (scopesWithin : ∀ s ∈ scopes, s.Within P) : ∀ c ∈ code, c.Within P := by
  fun_induction assembleFrom arityOf ops done scopes with
  | case1 | case7 | case9 | case10 => cases assembled
  | case2 done =>
    cases assembled
    simpa only [List.mem_reverse] using doneWithin
  | case3 ops done scopes t _ ih | case4 ops done scopes t _ ih | case5 ops done scopes t _ ih =>
    obtain ⟨a, _, assembled⟩ := Option.bind_eq_some_iff.1 assembled
    refine ih a assembled (List.forall_mem_cons.1 allowed).2 nofun ?_
    exact List.forall_mem_cons.2 ⟨.opened doneWithin nofun, scopesWithin⟩
  | case6 ops done a before outer _ ih =>
    obtain ⟨branch, outerWithin⟩ := List.forall_mem_cons.1 scopesWithin
    refine ih assembled (List.forall_mem_cons.1 allowed).2 nofun ?_
    refine List.forall_mem_cons.2 ⟨⟨branch.before, fun yes eq => ?_⟩, outerWithin⟩
    cases eq
    simpa only [List.mem_reverse] using doneWithin
  | case8 ops done s outer _ ih =>
    obtain ⟨scope, outerWithin⟩ := List.forall_mem_cons.1 scopesWithin
    refine ih assembled (List.forall_mem_cons.1 allowed).2 ?_ outerWithin
    exact List.forall_mem_cons.2 ⟨scope.close (by simpa only [List.mem_reverse] using doneWithin), scope.before⟩
  | case11 ops done scopes op _ _ _ _ _ _ _ ih =>
    obtain ⟨here, later⟩ := List.forall_mem_cons.1 allowed
    exact ih assembled later (List.forall_mem_cons.2 ⟨.plain here, doneWithin⟩) scopesWithin

/-- What is made of each element stands where that element does. -/
theorem getElem?_of_mapM {α β : Type} {f : α → Option β} : ∀ {xs : List α} {ys : List β}, xs.mapM f = some ys →
    ys.length = xs.length ∧ ∀ (p : Nat) y, ys[p]? = some y → ∃ x, xs[p]? = some x ∧ f x = some y
  | [], ys, h => by
    cases h
    exact ⟨rfl, nofun⟩
  | x :: xs, ys, h => by
    simp only [List.mapM_cons, Option.bind_eq_bind, Option.bind_eq_some_iff, Option.pure_def,
      Option.some.injEq] at h
    obtain ⟨y, first, others, rest, rfl⟩ := h
    obtain ⟨length, each⟩ := getElem?_of_mapM rest
    refine ⟨congrArg (· + 1) length, fun p y' found => ?_⟩
    cases p with
    | zero =>
      cases found
      exact ⟨x, rfl, first⟩
    | succ p => exact each p y' found

theorem exists_bind {α β : Type} {x : Option α} {f : α → Option β} (first : ∃ a, x = some a)
    (next : ∀ a, ∃ b, f a = some b) : ∃ b, x.bind f = some b := by
  obtain ⟨a, rfl⟩ := first
  exact next a

theorem exists_mapM {α β : Type} {f : α → Option β} : ∀ {xs : List α}, (∀ x ∈ xs, ∃ y, f x = some y) →
    ∃ ys, xs.mapM f = some ys
  | [], _ => ⟨[], rfl⟩
  | x :: xs, each => by
    obtain ⟨⟨y, first⟩, rest⟩ := List.forall_mem_cons.1 each
    obtain ⟨ys, others⟩ := exists_mapM rest
    exact ⟨y :: ys, by rw [List.mapM_cons, first, others]; rfl⟩

/-- What a program has at the index of a function: the declared type, and the code of the body, if it has one. -/
inductive Image.Makes (i : Image) (func : Nat) (t : FuncType) : Function → Prop where
  | imported (inside : func < i.importedFunctions) : Makes i func t ⟨t, [], none⟩
  | defined {k : Nat} {b : Body} {code : List Code} (behind : func = i.importedFunctions + k)
      (body : i.bodies[k]? = some b) (assembled : Code.assemble i.arityOf? b.operators = some code) :
      Makes i func t ⟨t, localsOf b, some code⟩

/-- **The functions of the program of an image** are made in the order of their types, as far as there are bodies. -/
theorem Image.program?_makes {i : Image} {p : Program} (h : i.program? = some p) :
    p.types = i.types ∧ p.functions.size = min i.functionTypes.size (i.importedFunctions + i.bodies.length) ∧
      ∀ (func : Nat) g, p.functions[func]? = some g →
        ∃ type t, i.functionTypes[func]? = some type ∧ i.typeAt? type = some t ∧ i.Makes func t g := by
  simp only [Image.program?, Option.bind_eq_bind, Option.bind_eq_some_iff, Option.pure_def,
    Option.some.injEq] at h
  obtain ⟨imported, fromImports, defined, fromBodies, rfl⟩ := h
  obtain ⟨count, imports⟩ := getElem?_of_mapM fromImports
  obtain ⟨others, bodies⟩ := getElem?_of_mapM fromBodies
  simp only [List.length_take, List.length_zip, List.length_drop, Array.length_toList] at count others
  refine ⟨rfl, ?_, fun func g found => ?_⟩
  · rw [List.size_toArray, List.length_append, count, others]
    omega
  rw [List.getElem?_toArray, List.getElem?_append] at found
  split at found
  · rename_i inside
    rw [count] at inside
    obtain ⟨type, there, made⟩ := imports func g found
    obtain ⟨t, typed, made⟩ := Option.bind_eq_some_iff.1 made
    cases made
    rw [List.getElem?_take_of_lt (by omega), Array.getElem?_toList] at there
    exact ⟨type, t, there, typed, .imported (by omega)⟩
  · rename_i behind
    obtain ⟨⟨type, b⟩, there, made⟩ := bodies _ g found
    rw [List.getElem?_zip_eq_some, List.getElem?_drop, Array.getElem?_toList] at there
    obtain ⟨there, body⟩ := there
    have all : imported.length = i.importedFunctions := by
      have inside := (Array.getElem?_eq_some_iff.1 there).1
      omega
    have here : func = i.importedFunctions + (func - imported.length) := by omega
    rw [← here] at there
    simp only [Image.function?, Option.bind_eq_bind, Option.bind_eq_some_iff, Option.pure_def,
      Option.some.injEq] at made
    obtain ⟨t, typed, code, assembled, rfl⟩ := made
    exact ⟨type, t, there, typed, .defined here body assembled⟩

/-- **The program of an image** runs no operators but those of its bodies. -/
theorem Image.program?_within {i : Image} {p : Program} (h : i.program? = some p)
    (allowed : ∀ b ∈ i.bodies, ∀ op ∈ b.operators, P op) : p.Within P := by
  intro g mem body code
  obtain ⟨func, found⟩ := Array.getElem?_of_mem mem
  obtain ⟨type, t, _, _, makes⟩ := (program?_makes h).2.2 func g found
  cases makes with
  | imported => cases code
  | defined _ among assembled =>
    cases code
    exact Code.assembleFrom_within assembled (allowed _ (List.mem_of_getElem? among)) nofun nofun

end Machine

end WasmLens
