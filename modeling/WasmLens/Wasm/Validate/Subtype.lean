import WasmLens.Wasm.Validate.Context

/-!
# Subtyping

One value type may stand where another is expected. Numbers match only themselves. References match
along two lines: a non-null reference where a null one may be, and a heap type where one above it in
its hierarchy is. Types given by index are compared by the first type that equals them.
-/
namespace WasmLens.Wasm

/-- Whether one abstract heap type is below another. -/
def AbstractHeap.below : AbstractHeap → AbstractHeap → Bool
  | .bottom, b => b = .any || b = .eq || b = .i31 || b = .struct || b = .array || b = .bottom
  | .i31, b => b = .i31 || b = .eq || b = .any
  | .struct, b => b = .struct || b = .eq || b = .any
  | .array, b => b = .array || b = .eq || b = .any
  | .eq, b => b = .eq || b = .any
  | .noFunc, b => b = .noFunc || b = .func
  | .noExternal, b => b = .noExternal || b = .external
  | .noException, b => b = .noException || b = .exception
  | a, b => a = b

namespace Context

variable (c : Context)

/-- The first type that equals the type at an index. -/
def canonicalIndex (index : Nat) : Nat := c.canonical[index]?.getD index

/-- The abstract heap type right above a type of the module. -/
def kindOf (index : Nat) : AbstractHeap :=
  match c.types[index]?.map SubType.composite with
  | some (.struct _) => .struct
  | some (.array _) => .array
  | _ => .func

/-- The abstract heap type right below a type of the module. -/
def floorOf (index : Nat) : AbstractHeap :=
  match c.kindOf index with
  | .func => .noFunc
  | _ => .bottom

/-- Goes up the declared supertypes of `sub`, at most `steps` of them. -/
def reaches (super : Nat) : (steps : Nat) → (sub : Nat) → Bool
  | 0, _ => false
  | steps + 1, sub =>
    c.canonicalIndex sub = c.canonicalIndex super ||
      match c.types[sub]?.bind SubType.supertype with
      | some next => reaches super steps next
      | none => false

/-- The most types that a chain of supertypes may have above its lowest one. -/
def maxSubtypingDepth : Nat := 63

def heapBelow : HeapType → HeapType → Bool
  | .abstract a, .abstract b => a.below b
  | .concrete i, .abstract b => (c.kindOf i).below b
  | .abstract a, .concrete j => a = c.floorOf j
  | .concrete i, .concrete j => c.reaches j (maxSubtypingDepth + 2) i

def refBelow (a b : RefType) : Bool := (b.nullable || !a.nullable) && c.heapBelow a.heap b.heap

def isSubtype : ValType → ValType → Bool
  | .ref a, .ref b => c.refBelow a b
  | a, b => a = b

/-! ## Declared subtypes -/

def storageBelow : StorageType → StorageType → Bool
  | .value a, .value b => c.isSubtype a b
  | a, b => a = b

/-- A field that can be written must have the very same type. -/
def fieldBelow (a b : FieldType) : Bool :=
  a.isMutable = b.isMutable && c.storageBelow a.storage b.storage
    && (!b.isMutable || c.storageBelow b.storage a.storage)

/-- Whether a composite type may be declared below another: functions take more and give less,
structures add fields at the end. -/
def compositeBelow : CompositeType → CompositeType → Bool
  | .func a, .func b =>
    a.params.length = b.params.length && a.results.length = b.results.length
      && (b.params.zip a.params).all (fun (x, y) => c.isSubtype x y)
      && (a.results.zip b.results).all (fun (x, y) => c.isSubtype x y)
  | .struct a, .struct b =>
    b.length ≤ a.length && (a.zip b).all (fun (x, y) => c.fieldBelow x y)
  | .array a, .array b => c.fieldBelow a b
  | _, _ => false

/-- How many supertypes a type has above it. -/
def depthOf : (steps : Nat) → (index : Nat) → Nat
  | 0, _ => 0
  | steps + 1, index =>
    match c.types[index]?.bind SubType.supertype with
    | some next => depthOf steps next + 1
    | none => 0

end Context

/-! ## Equal types -/

/-- Replaces the indices in a type. -/
def HeapType.mapIndex (g : Nat → Nat) : HeapType → HeapType
  | .concrete i => .concrete (g i)
  | a => a

def ValType.mapIndex (g : Nat → Nat) : ValType → ValType
  | .ref t => .ref ⟨t.nullable, t.heap.mapIndex g⟩
  | t => t

def FieldType.mapIndex (g : Nat → Nat) (t : FieldType) : FieldType :=
  match t.storage with
  | .value v => { t with storage := .value (v.mapIndex g) }
  | _ => t

def CompositeType.mapIndex (g : Nat → Nat) : CompositeType → CompositeType
  | .func t => .func ⟨t.params.map (·.mapIndex g), t.results.map (·.mapIndex g)⟩
  | .struct fields => .struct (fields.map (·.mapIndex g))
  | .array field => .array (field.mapIndex g)

def SubType.mapIndex (g : Nat → Nat) (t : SubType) : SubType :=
  { t with supertype := t.supertype.map g, composite := t.composite.mapIndex g }

namespace Context

/-- Enters the types of a group, and for each of them the first type that equals it. A reference
inside the group counts from its first type, past all indices that a type can have. -/
def enterGroup (c : Context) (group : RecGroup) : Context :=
  let first := c.types.size
  let relative (i : Nat) : Nat := if first ≤ i then twoTo 32 + (i - first) else c.canonicalIndex i
  let rolled := group.types.map (·.mapIndex relative)
  let origin := match c.groups.find? (·.types = rolled) with
    | some earlier => earlier.first
    | none => first
  { c with
    types := c.types ++ group.types.toArray
    canonical := c.canonical ++ (List.range group.types.length).toArray.map (origin + ·)
    groups := if origin = first then c.groups ++ [⟨first, rolled⟩] else c.groups }

end Context

end WasmLens.Wasm
