import WasmLens.Machine.Instantiate
import WasmLens.Proofs.Machine.Instantiate

/-!
# Literals in place of imported globals

Initializers and the offsets of segments read imported globals. As long as nothing but instantiation goes on
these have the values that the host has given them: **an instance is set up in the same way if every such
read is a literal of that value** (`prepare_inlined`).
-/
namespace WasmLens.Machine

open Wasm

/-! ## Putting literals in place -/

/-- The operator that gives a value. -/
def Val.literal : Val → Operator
  | .i32 b => .const (.i32 b)
  | .i64 b => .const (.i64 b)
  | .f32 b => .const (.f32 b)
  | .f64 b => .const (.f64 b)
  | .v128 b => .const (.v128 b)
  | .ref (some func) => .refFunc func
  | .ref none => .refNull (.abstract .func)

/-- An expression in which the first globals are given by their values. -/
def inlineConst (values : List Val) : ConstExpr → ConstExpr
  | [.globalGet index] =>
    match values[index]? with
    | some v => [v.literal]
    | none => [.globalGet index]
  | e => e

def inlineMode (values : List Val) : SegmentMode → SegmentMode
  | .active index offset => .active index (inlineConst values offset)
  | mode => mode

def inlineItems (values : List Val) : ElementItems → ElementItems
  | .functions indices => .functions indices
  | .expressions type items => .expressions type (items.map (inlineConst values))

/-- An image in which no initializer and no offset reads one of the first globals. -/
def Image.inlined (values : List Val) (i : Image) : Image := { i with
  tables := i.tables.map fun t => { t with init := t.init.map (inlineConst values) }
  globals := i.globals.map fun g => { g with init := inlineConst values g.init }
  elements := i.elements.map fun e => ⟨inlineMode values e.mode, inlineItems values e.items⟩
  data := i.data.map fun d => { d with mode := inlineMode values d.mode } }

/-- The first globals of the instance have these values. -/
def Store.Reads (values : List Val) (s : Store) : Prop :=
  ∀ (index : Nat) v, values[index]? = some v → s.global? index = some v

/-! ## Expressions -/

variable {values : List Val} {s s' : Store}

theorem Store.Reads.of_same (reads : s.Reads values) (globals : s'.globals = s.globals)
    (bound : s'.bound = s.bound) : s'.Reads values := by
  intro index v given
  rw [global?, cell?, globals, bound]
  exact reads index v given

theorem constant?_literal (s : Store) (v : Val) : constant? s [v.literal] = some v := by
  cases v with
  | ref target => cases target <;> rfl
  | _ => rfl

theorem constant?_inlineConst (reads : s.Reads values) (e : ConstExpr) :
    constant? s (inlineConst values e) = constant? s e := by
  unfold inlineConst
  split
  · rename_i index
    split
    · rename_i v given
      rw [constant?_literal, constant?, reads index v given]
    · rfl
  · rfl

theorem offset?_inlineConst (reads : s.Reads values) (e : ConstExpr) :
    offset? s (inlineConst values e) = offset? s e := by
  rw [offset?, offset?, constant?_inlineConst reads]

theorem referenceOf_inlineConst (reads : s.Reads values) (e : ConstExpr) :
    referenceOf s (inlineConst values e) = referenceOf s e := by
  rw [referenceOf, referenceOf, constant?_inlineConst reads]

theorem cellOf_inlineConst (reads : s.Reads values) (g : Global) :
    cellOf s { g with init := inlineConst values g.init } = cellOf s g := by
  simp only [cellOf, constant?_inlineConst reads]

theorem tableOf_inlineConst (reads : s.Reads values) (t : Wasm.Table) :
    tableOf s { t with init := t.init.map (inlineConst values) } = tableOf s t := by
  simp only [tableOf, Option.bind_map]
  congr 2
  funext e
  exact referenceOf_inlineConst reads e

theorem itemsOf_inlined (reads : s.Reads values) (e : Element) :
    itemsOf s ⟨inlineMode values e.mode, inlineItems values e.items⟩ = itemsOf s e := by
  obtain ⟨mode, items⟩ := e
  cases items with
  | functions indices => rfl
  | expressions type items =>
    simp only [itemsOf, inlineItems, List.map_map]
    congr 1
    funext e
    exact referenceOf_inlineConst reads e

/-! ## Setting up -/

/-- What is defined comes behind what is imported. -/
theorem Store.Reads.define (reads : s.Reads values) (c : Cell) : (define s c).Reads values := by
  intro index v given
  obtain ⟨c', there, value⟩ := Option.map_eq_some_iff.1 (reads index v given)
  obtain ⟨place, bound, cell⟩ := Option.bind_eq_some_iff.1 there
  have old := Nat.ne_of_lt (Array.getElem?_eq_some_iff.1 bound).1
  have kept := Nat.ne_of_lt (Array.getElem?_eq_some_iff.1 cell).1
  rw [global?, cell?, Machine.define, Array.getElem?_push, if_neg old, bound, Option.bind_some,
    Array.getElem?_push, if_neg kept, cell, Option.map_some, value]

theorem addGlobals_inlined : ∀ (defined : List Global) {s : Store}, s.Reads values →
    addGlobals s (defined.map fun g => { g with init := inlineConst values g.init }) = addGlobals s defined ∧
      (addGlobals s defined).Reads values
  | [], _, reads => ⟨rfl, reads⟩
  | g :: defined, s, reads => by
    rw [List.map_cons, addGlobals, cellOf_inlineConst reads]
    exact addGlobals_inlined defined (reads.define (cellOf s g))

variable {externs : List Extern} {i : Image}

theorem allocate_inlined (reads : s.Reads values) :
    allocate s (i.inlined values) = allocate s i ∧ (allocate s i).Reads values := by
  obtain ⟨globals, kept⟩ := addGlobals_inlined i.globals reads
  refine ⟨?_, kept.of_same rfl rfl⟩
  simp only [allocate, Image.inlined, globals, List.map_map]
  have tables : (tableOf (addGlobals s i.globals) ∘ fun t : Wasm.Table =>
      { t with init := t.init.map (inlineConst values) }) = tableOf (addGlobals s i.globals) :=
    funext fun t => tableOf_inlineConst kept t
  have elements : (itemsOf (addGlobals s i.globals) ∘ fun e : Element =>
      ⟨inlineMode values e.mode, inlineItems values e.items⟩) = itemsOf (addGlobals s i.globals) :=
    funext fun e => itemsOf_inlined kept e
  rw [tables, elements]
  rfl

theorem elementsFit_inlined (reads : s.Reads values) : elementsFit s (i.inlined values) = elementsFit s i := by
  simp only [elementsFit, Image.inlined, List.all_map]
  congr 1
  funext e
  have items := itemsOf_inlined reads e
  simp only [Function.comp_apply, items]
  cases e.mode with
  | active table offset => simp only [inlineMode, offset?_inlineConst reads]
  | passive | declared => rfl

theorem dataFits_inlined (reads : s.Reads values) : dataFits s (i.inlined values) = dataFits s i := by
  simp only [dataFits, Image.inlined, List.all_map]
  congr 1
  funext d
  simp only [Function.comp_apply]
  cases d.mode with
  | active memory offset => simp only [inlineMode, offset?_inlineConst reads]
  | passive | declared => rfl

/-! ## Segments -/

theorem placeElements_inlineMode (reads : s.Reads values) (segment : Nat) (mode : SegmentMode) :
    placeElements s segment (inlineMode values mode) = placeElements s segment mode := by
  cases mode with
  | active table offset => simp only [placeElements, inlineMode, offset?_inlineConst reads]
  | passive | declared => rfl

theorem placeData_inlineMode (reads : s.Reads values) (segment : Nat) (mode : SegmentMode) :
    placeData s segment (inlineMode values mode) = placeData s segment mode := by
  cases mode with
  | active memory offset => simp only [placeData, inlineMode, offset?_inlineConst reads]
  | passive | declared => rfl

/-- Placing segments changes contents only, so each of them finds the globals as they were. -/
theorem placeAll_inlineMode {place : Store → Nat → SegmentMode → Effect}
    (alike : ∀ (s : Store) segment mode, s.Alike (place s segment mode).store)
    (same : ∀ {s : Store} segment mode, s.Reads values →
      place s segment (inlineMode values mode) = place s segment mode) :
    ∀ {modes : List SegmentMode} {s : Store} {segment : Nat}, s.Reads values →
      placeAll place s segment (modes.map (inlineMode values)) = placeAll place s segment modes
  | [], _, _, _ => rfl
  | mode :: modes, s, segment, reads => by
    have kept := alike s segment mode
    rw [List.map_cons, placeAll, placeAll, same segment mode reads]
    split <;> rename_i placed <;> rw [placed] at kept
    exact placeAll_inlineMode alike same (reads.of_same kept.globals kept.bound)

theorem placeSegments_inlined (reads : s.Reads values) :
    placeSegments s (i.inlined values) = placeSegments s i := by
  have kept := placeAll_alike placeElements_alike (i.elements.map (·.mode)) s 0
  have elements : (i.inlined values).elements.map (·.mode) =
      (i.elements.map (·.mode)).map (inlineMode values) := by
    simp only [Image.inlined, List.map_map]
    rfl
  have data : (i.inlined values).data.map (·.mode) = (i.data.map (·.mode)).map (inlineMode values) := by
    simp only [Image.inlined, List.map_map]
    rfl
  unfold placeSegments
  rw [elements, data, placeAll_inlineMode placeElements_alike
    (fun segment mode reads => placeElements_inlineMode reads segment mode) reads]
  split <;> rename_i placed <;> rw [placed] at kept
  exact placeAll_inlineMode placeData_alike
    (fun segment mode reads => placeData_inlineMode reads segment mode)
    (reads.of_same kept.globals kept.bound)

/-- **Setting up an instance** comes to the same if the values of imported globals are literals. -/
theorem prepare_inlined (reads : (bind s externs).Reads values) (bulkMemory : Bool) :
    prepare s externs (i.inlined values) bulkMemory = prepare s externs i bulkMemory := by
  obtain ⟨allocated, kept⟩ := allocate_inlined (i := i) reads
  have memories : (i.inlined values).memories = i.memories := rfl
  simp only [prepare, memories, allocated, elementsFit_inlined kept, dataFits_inlined kept,
    placeSegments_inlined kept]

end WasmLens.Machine
