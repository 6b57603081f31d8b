import WasmLens.Machine.Step
import WasmLens.Proofs.Machine.Cells
import WasmLens.Proofs.Machine.Memories

/-!
# Kinds of values

A stack at run time does not tell one reference type from another, and nothing that the machine does depends on it.
What is left of a type is its kind, and one value type stands where another is expected only if both are of one kind
(`Context.isSubtype_kind`). `Operator.Turns` lists what operators that neither branch nor call make of the kinds on
top of a stack: **wherever one of them runs to its end, this is what it has made** (`Step.simple_goesOn`), on a store
that suits the module's declarations (`Store.Suits`).
-/
namespace WasmLens

open Wasm Machine

/-! ## Kinds -/

namespace Machine

/-- What a value is, references of all types taken together. -/
inductive Kind where
  | i32
  | i64
  | f32
  | f64
  | v128
  | ref
  deriving Repr, DecidableEq

def Val.kind : Val → Kind
  | .i32 _ => .i32
  | .i64 _ => .i64
  | .f32 _ => .f32
  | .f64 _ => .f64
  | .v128 _ => .v128
  | .ref _ => .ref

end Machine

namespace Wasm

def ValType.kind : ValType → Kind
  | .i32 => .i32
  | .i64 => .i64
  | .f32 => .f32
  | .f64 => .f64
  | .v128 => .v128
  | .ref _ => .ref

/-- The kinds of operands on a stack, the last operand on top. -/
def stackOf (types : List ValType) : List Kind := (types.map ValType.kind).reverse

@[simp] theorem length_stackOf (types : List ValType) : (stackOf types).length = types.length := by
  simp [stackOf]

theorem Context.isSubtype_kind {c : Context} {a b : ValType} (h : c.isSubtype a b) : a.kind = b.kind := by
  cases a <;> cases b <;> first | rfl | cases h

end Wasm

namespace Machine

@[simp] theorem Val.kind_zero (t : ValType) : (Val.zero t).kind = t.kind := by
  cases t <;> rfl

@[simp] theorem Val.kind_ofConst (x : Const) : (Val.ofConst x).kind = x.type.kind := by
  cases x <;> rfl

theorem Val.exists_of_kind_i32 {v : Val} (h : v.kind = .i32) : ∃ b, v = .i32 b := by
  cases v <;> first | exact ⟨_, rfl⟩ | cases h

@[simp] theorem Val.kind_ofBool (b : Bool) : (Val.ofBool b).kind = .i32 := rfl

@[simp] theorem Val.kind_ofIndex (is64 : Bool) (n : Nat) : (Val.ofIndex is64 n).kind = (indexType is64).kind := by
  cases is64 <;> rfl

@[simp] theorem Val.kind_refused (is64 : Bool) : (Val.refused is64).kind = (indexType is64).kind := by
  cases is64 <;> rfl

/-- **A value may stand where a type is declared** if it is of the same kind. -/
theorem Val.hasType_iff {v : Val} {t : ValType} : v.hasType t ↔ v.kind = t.kind := by
  cases v <;> cases t <;> simp [hasType, kind, ValType.kind]

@[simp] theorem Val.kind_ofAccess (a : Access) (n : Nat) : (Val.ofAccess a n).kind = a.type.kind := by
  obtain ⟨type, _, _⟩ := a
  cases type <;> rfl

end Machine

/-! ## Numbers -/

namespace Wasm

@[simp] theorem kind_wordOfInt (w : Width) (n : Int) : (wordOfInt w n).kind = w.int.kind := by
  cases w <;> rfl

@[simp] theorem kind_floatOfBits (w : Width) (n : Nat) : (floatOfBits w n).kind = w.float.kind := by
  cases w <;> rfl

theorem kind_of_convertInteger {target : Width} {signed saturating : Bool} {d : Floating.Datum} {v : Val}
    (h : convert.integer target signed saturating d = .ok v) : v.kind = target.int.kind := by
  rcases ite_eq_ok_iff.1 h with ⟨_, saturated⟩ | ⟨_, truncated⟩
  · cases saturated
    exact kind_wordOfInt ..
  · obtain ⟨n, _, rfl⟩ := map_eq_ok_iff.1 truncated
    exact kind_wordOfInt ..

theorem kind_of_convert {op : Numeric} {a v : Val} (h : convert op a = .ok v) : v.kind = op.result.kind := by
  unfold convert at h
  split at h
  case h_3 | h_4 => exact kind_of_convertInteger h
  case h_13 => cases h
  all_goals
    cases h
    first | rfl | exact kind_wordOfInt .. | exact kind_floatOfBits ..

namespace Numeric

theorem kind_of_evalUnary {op : Numeric} {a v : Val} (h : op.evalUnary a = .ok v) : v.kind = op.result.kind := by
  unfold evalUnary at h
  split at h
  case h_7 => exact kind_of_convert h
  all_goals
    cases h
    rfl

theorem kind_of_evalBinary {op : Numeric} {a b v : Val} (h : op.evalBinary a b = .ok v) :
    v.kind = op.result.kind := by
  unfold evalBinary at h
  split at h
  case h_1 | h_2 =>
    obtain ⟨_, _, rfl⟩ := map_eq_ok_iff.1 h
    rfl
  all_goals
    cases h
    try rfl

/-- How many operands an operator takes. -/
theorem length_params (op : Numeric) : op.params.length = if op.isBinary then 2 else 1 := by
  cases op <;> rfl

/-- **A numeric operator** leaves its result in place of its operands. -/
theorem kinds_of_eval {op : Numeric} {stack after : List Val} {rest : List Kind} (h : op.eval stack = .ok after)
    (before : stack.map Val.kind = stackOf op.params ++ rest) :
    after.map Val.kind = op.result.kind :: rest := by
  have count := op.length_params
  unfold eval at h
  cases binary : op.isBinary with
  | true =>
    rw [binary, if_pos rfl] at h count
    match stack with
    | [] | [_] => cases h
    | b :: a :: below =>
      obtain ⟨v, evaluated, rfl⟩ := map_eq_ok_iff.1 h
      have same : [b, a].map Val.kind ++ below.map Val.kind = stackOf op.params ++ rest := before
      rw [List.map_cons, kind_of_evalBinary evaluated, List.append_inj_right same (by simp [count])]
  | false =>
    rw [binary, if_neg Bool.false_ne_true] at h count
    match stack with
    | [] => cases h
    | a :: below =>
      obtain ⟨v, evaluated, rfl⟩ := map_eq_ok_iff.1 h
      have same : [a].map Val.kind ++ below.map Val.kind = stackOf op.params ++ rest := before
      rw [List.map_cons, kind_of_evalUnary evaluated, List.append_inj_right same (by simp [count])]

end Numeric

/-! ## Vectors -/

theorem VectorTest.kind_eval (op : VectorTest) (v : BitVec 128) : (op.eval v).kind = .i32 := by
  cases op <;> rfl

theorem Shape.kind_valueOf (shape : Shape) (signed : Bool) (x : BitVec shape.bits) :
    (shape.valueOf signed x).kind = shape.scalar.kind := by
  cases shape with
  | int lane => cases lane <;> rfl
  | float w => exact kind_floatOfBits ..

/-- **A vector operator** leaves its result in place of its operands. -/
theorem VectorOp.kinds_of_eval {op : VectorOp} {stack after : List Val} {rest : List Kind}
    (h : op.eval stack = .ok after) (before : stack.map Val.kind = stackOf op.params ++ rest) :
    after.map Val.kind = op.result.kind :: rest := by
  unfold eval at h
  split at h
  case h_9 => cases h
  case h_5 op a below =>
    cases h
    cases before
    rw [List.map_cons, op.kind_eval]
    rfl
  case h_7 shape signed index a below =>
    cases h
    cases before
    rw [List.map_cons, shape.kind_valueOf]
    rfl
  -- what is put into lanes has to be a number
  case h_6 x _ =>
    cases number : x.number? <;> rw [number] at h <;> cases h
    exact congrArg (Kind.v128 :: ·) (List.cons.inj before).2
  case h_8 x _ _ =>
    cases number : x.number? <;> rw [number] at h <;> cases h
    exact congrArg (Kind.v128 :: ·) (List.cons.inj (List.cons.inj before).2).2
  all_goals
    cases h
    cases before
    rfl

/-! ## Single operators -/

/-- **What operators take** from the top of a stack and what they leave there, for all that neither branch nor
call. -/
inductive Operator.Turns (c : Context) (locals : List Kind) : Operator → (takes leaves : List Kind) → Prop where
  | nop : Turns c locals .nop [] []
  | drop {k : Kind} : Turns c locals .drop [k] []
  | select {k : Kind} : Turns c locals .select [.i32, k, k] [k]
  | selectTyped {t : ValType} : Turns c locals (.selectTyped t) [.i32, t.kind, t.kind] [t.kind]
  | const {x : Const} : Turns c locals (.const x) [] [x.type.kind]
  | refNull {heap : HeapType} : Turns c locals (.refNull heap) [] [.ref]
  | refFunc {func : Nat} : Turns c locals (.refFunc func) [] [.ref]
  | refIsNull : Turns c locals .refIsNull [.ref] [.i32]
  | numeric {op : Numeric} : Turns c locals (.numeric op) (stackOf op.params) [op.result.kind]
  | localGet {i : Nat} {k : Kind} (there : locals[i]? = some k) : Turns c locals (.localGet i) [] [k]
  | localSet {i : Nat} {k : Kind} (there : locals[i]? = some k) : Turns c locals (.localSet i) [k] []
  | localTee {i : Nat} {k : Kind} (there : locals[i]? = some k) : Turns c locals (.localTee i) [k] [k]
  | globalGet {i : Nat} {g : GlobalType} (there : c.globals[i]? = some g) :
      Turns c locals (.globalGet i) [] [g.content.kind]
  | globalSet {i : Nat} {k : Kind} : Turns c locals (.globalSet i) [k] []
  | load {a : Access} {arg : MemArg} {index : Kind} : Turns c locals (.load a arg) [index] [a.type.kind]
  | store {a : Access} {arg : MemArg} {v index : Kind} : Turns c locals (.store a arg) [v, index] []
  | vector {op : VectorOp} : Turns c locals (.vector op) (stackOf op.params) [op.result.kind]
  | vectorLoad {form : VectorLoad} {arg : MemArg} {index : Kind} :
      Turns c locals (.vectorLoad form arg) [index] [.v128]
  | laneLoad {lane : Lane} {i : Nat} {arg : MemArg} {index : Kind} :
      Turns c locals (.laneLoad lane i arg) [.v128, index] [.v128]
  | laneStore {lane : Lane} {i : Nat} {arg : MemArg} {index : Kind} :
      Turns c locals (.laneStore lane i arg) [.v128, index] []
  | memorySize {i : Nat} {m : MemoryType} (there : c.memories[i]? = some m) :
      Turns c locals (.memorySize i) [] [(indexType m.is64).kind]
  | memoryGrow {i : Nat} {m : MemoryType} {delta : Kind} (there : c.memories[i]? = some m) :
      Turns c locals (.memoryGrow i) [delta] [(indexType m.is64).kind]
  | memoryFill {i : Nat} {a b d : Kind} : Turns c locals (.memoryFill i) [a, b, d] []
  | memoryCopy {i j : Nat} {a b d : Kind} : Turns c locals (.memoryCopy i j) [a, b, d] []
  | memoryInit {i j : Nat} {a b d : Kind} : Turns c locals (.memoryInit i j) [a, b, d] []
  | dataDrop {i : Nat} : Turns c locals (.dataDrop i) [] []
  | tableGet {i : Nat} {index : Kind} : Turns c locals (.tableGet i) [index] [.ref]
  | tableSet {i : Nat} {v index : Kind} : Turns c locals (.tableSet i) [v, index] []
  | tableSize {i : Nat} {t : TableType} (there : c.tables[i]? = some t) :
      Turns c locals (.tableSize i) [] [(indexType t.is64).kind]
  | tableGrow {i : Nat} {t : TableType} {v delta : Kind} (there : c.tables[i]? = some t) :
      Turns c locals (.tableGrow i) [delta, v] [(indexType t.is64).kind]
  | tableFill {i : Nat} {a b d : Kind} : Turns c locals (.tableFill i) [a, b, d] []
  | tableCopy {i j : Nat} {a b d : Kind} : Turns c locals (.tableCopy i j) [a, b, d] []
  | tableInit {i j : Nat} {a b d : Kind} : Turns c locals (.tableInit i j) [a, b, d] []
  | elemDrop {i : Nat} : Turns c locals (.elemDrop i) [] []

end Wasm

namespace Machine

/-! ## The store -/

/-- What is left on the stack behind an operator, unless it has trapped. -/
def Effect.Leaves (kinds : List Kind) : Effect → Prop
  | .done _ stack => stack.map Val.kind = kinds
  | .trap .. => True

namespace Store

/-- **A store is what the declarations of a module say of it**: its globals, and the widths of its memories and
tables. -/
structure Suits (c : Context) (s : Store) : Prop where
  globals : ∀ (i : Nat) cell g, s.cell? i = some cell → c.globals[i]? = some g → cell.type = g
  memories : ∀ (i : Nat) m t, s.memories[i]? = some m → c.memories[i]? = some t → m.is64 = t.is64
  tables : ∀ (i : Nat) t type, s.tables[i]? = some t → c.tables[i]? = some type → t.is64 = type.is64

variable {c : Context} {s s' : Store}

/-- An operator may set a global, but not to a value of another type. -/
theorem Changes.cell? {op : Operator} (h : s.Changes op s') {i : Nat} {cell' : Cell}
    (found : s'.cell? i = some cell') : ∃ cell, s.cell? i = some cell ∧ cell.type = cell'.type := by
  cases h with
  | nothing | writes | grows | tables | elements | data => exact ⟨cell', found, rfl⟩
  | @sets index place v cell put bound there ofType =>
    obtain ⟨other, here, found⟩ := Option.bind_eq_some_iff.1 found
    have here : s.bound[i]? = some other := here
    rw [Store.cell?, here, Option.bind_some]
    simp only [setCell, Array.getElem?_setIfInBounds] at found
    by_cases same : place = other
    · subst same
      rw [if_pos rfl, if_pos (Array.getElem?_eq_some_iff.1 there).1] at found
      cases found
      exact ⟨cell, there, (Cell.put?_eq_some ofType).1.symm⟩
    · rw [if_neg same] at found
      exact ⟨cell', found, rfl⟩

/-- **No operator** makes a store unsuitable. -/
theorem Changes.suits {op : Operator} (h : s.Changes op s') (suits : s.Suits c) : s'.Suits c where
  globals i cell' g found declared := by
    obtain ⟨cell, before, type⟩ := h.cell? found
    rw [← type]
    exact suits.globals i cell g before declared
  memories i m' t found declared := by
    obtain ⟨m, before, becomes⟩ := h.memory found
    rw [becomes.is64]
    exact suits.memories i m t before declared
  tables i t' type found declared := by
    have same := congrArg (·[i]?) h.widths
    simp only [Array.getElem?_map, found, Option.map_some] at same
    obtain ⟨t, before, width⟩ := Option.map_eq_some_iff.1 same.symm
    rw [← width]
    exact suits.tables i t type before declared

variable {stack : List Val} {kinds : List Kind}

theorem load_leaves {arg : MemArg} {base bytes : Nat} {make : Nat → Val} {kind : Kind}
    (makes : ∀ n, (make n).kind = kind) (below : stack.map Val.kind = kinds) :
    (s.load arg base bytes make stack).Leaves (kind :: kinds) := by
  unfold load
  split
  · trivial
  · dsimp only
    split
    · rw [Effect.Leaves, List.map_cons, makes, below]
    · trivial

theorem write_leaves {memory address : Nat} {bytes : List UInt8} (below : stack.map Val.kind = kinds) :
    (s.write memory address bytes stack).Leaves kinds := by
  unfold write
  split
  · trivial
  · split
    · exact below
    · trivial

theorem memorySize_leaves (suits : s.Suits c) {i : Nat} {t : MemoryType} (there : c.memories[i]? = some t)
    (below : stack.map Val.kind = kinds) : (s.memorySize i stack).Leaves ((indexType t.is64).kind :: kinds) := by
  unfold memorySize
  cases found : s.memories[i]? with
  | none => trivial
  | some m => rw [Effect.Leaves, List.map_cons, Val.kind_ofIndex, suits.memories i m t found there, below]

theorem memoryGrow_leaves (suits : s.Suits c) {i delta : Nat} {t : MemoryType} (there : c.memories[i]? = some t)
    (below : stack.map Val.kind = kinds) :
    (s.memoryGrow i delta stack).Leaves ((indexType t.is64).kind :: kinds) := by
  unfold memoryGrow
  cases found : s.memories[i]? with
  | none => trivial
  | some m =>
    rw [← suits.memories i m t found there]
    dsimp only
    split <;> simp only [Effect.Leaves, List.map_cons, Val.kind_ofIndex, Val.kind_refused, below]

theorem memoryFill_leaves {memory address length : Nat} {byte : UInt8} (below : stack.map Val.kind = kinds) :
    (s.memoryFill memory address byte length stack).Leaves kinds := by
  unfold memoryFill
  split
  · exact write_leaves below
  · trivial

theorem memoryCopy_leaves {target source dest start length : Nat} (below : stack.map Val.kind = kinds) :
    (s.memoryCopy target source dest start length stack).Leaves kinds := by
  unfold memoryCopy
  split
  · split
    · trivial
    · exact write_leaves below
  · trivial

theorem memoryInit_leaves {segment memory dest start length : Nat} (below : stack.map Val.kind = kinds) :
    (s.memoryInit segment memory dest start length stack).Leaves kinds := by
  unfold memoryInit
  split
  · trivial
  · split
    · exact write_leaves below
    · trivial

theorem tableGet_leaves {table index : Nat} (below : stack.map Val.kind = kinds) :
    (s.tableGet table index stack).Leaves (.ref :: kinds) := by
  unfold tableGet
  split
  · trivial
  · split
    · rw [Effect.Leaves, List.map_cons, below]
      rfl
    · trivial

theorem tableWrite_leaves {table index : Nat} {targets : List (Option Nat)}
    (below : stack.map Val.kind = kinds) : (s.tableWrite table index targets stack).Leaves kinds := by
  unfold tableWrite
  split
  · trivial
  · split
    · exact below
    · trivial

theorem tableSize_leaves (suits : s.Suits c) {i : Nat} {type : TableType} (there : c.tables[i]? = some type)
    (below : stack.map Val.kind = kinds) : (s.tableSize i stack).Leaves ((indexType type.is64).kind :: kinds) := by
  unfold tableSize
  cases found : s.tables[i]? with
  | none => trivial
  | some t => rw [Effect.Leaves, List.map_cons, Val.kind_ofIndex, suits.tables i t type found there, below]

theorem tableGrow_leaves (suits : s.Suits c) {i delta : Nat} {target : Option Nat} {type : TableType}
    (there : c.tables[i]? = some type) (below : stack.map Val.kind = kinds) :
    (s.tableGrow i delta target stack).Leaves ((indexType type.is64).kind :: kinds) := by
  unfold tableGrow
  cases found : s.tables[i]? with
  | none => trivial
  | some t =>
    rw [← suits.tables i t type found there]
    dsimp only
    split <;> simp only [Effect.Leaves, List.map_cons, Val.kind_ofIndex, Val.kind_refused, below]

theorem tableFill_leaves {table index length : Nat} {target : Option Nat} (below : stack.map Val.kind = kinds) :
    (s.tableFill table index target length stack).Leaves kinds := by
  unfold tableFill
  split
  · exact tableWrite_leaves below
  · trivial

theorem tableCopy_leaves {target source dest start length : Nat} (below : stack.map Val.kind = kinds) :
    (s.tableCopy target source dest start length stack).Leaves kinds := by
  unfold tableCopy
  split
  · split
    · trivial
    · exact tableWrite_leaves below
  · trivial

theorem tableInit_leaves {segment table dest start length : Nat} (below : stack.map Val.kind = kinds) :
    (s.tableInit segment table dest start length stack).Leaves kinds := by
  unfold tableInit
  split
  · trivial
  · split
    · exact tableWrite_leaves below
    · trivial

theorem globalGet_leaves (suits : s.Suits c) {i : Nat} {g : GlobalType} (there : c.globals[i]? = some g)
    (below : stack.map Val.kind = kinds) : (s.globalGet i stack).Leaves (g.content.kind :: kinds) := by
  rw [globalGet, global?]
  cases found : s.cell? i with
  | none => trivial
  | some cell =>
    show (cell.value :: stack).map Val.kind = _
    rw [List.map_cons, Val.hasType_iff.1 cell.typed, suits.globals i cell g found there, below]

theorem globalSet_leaves {i : Nat} {v : Val} (below : stack.map Val.kind = kinds) :
    (s.globalSet i v stack).Leaves kinds := by
  unfold globalSet
  split
  · exact below
  · trivial

/-- **What an operator on the store leaves** on the stack. -/
theorem run_leaves (suits : s.Suits c) {locals takes leaves rest : List Kind} {op : Operator}
    (turns : op.Turns c locals takes leaves) (before : stack.map Val.kind = takes ++ rest) :
    (s.run op stack).Leaves (leaves ++ rest) := by
  unfold run
  split
  case h_22 => trivial
  all_goals
    cases turns
    simp only [List.map_cons, List.cons_append, List.nil_append, List.cons.injEq] at before ⊢
  case h_1.globalGet there => exact globalGet_leaves suits there before
  case h_2.globalSet => exact globalSet_leaves before.2
  case h_8.memorySize there => exact memorySize_leaves suits there before
  case h_13.dataDrop => exact before
  case h_16.tableSize there => exact tableSize_leaves suits there before
  case h_21.elemDrop => exact before
  -- all others read an index or a length first, which may not be one
  all_goals split
  all_goals first
    | exact load_leaves (Val.kind_ofAccess _) before.2
    | exact load_leaves (fun _ => rfl) before.2
    | exact load_leaves (fun _ => rfl) before.2.2
    | exact memoryGrow_leaves suits ‹_› before.2
    | exact tableGet_leaves before.2
    | exact write_leaves before.2.2
    | exact tableWrite_leaves before.2.2
    | exact tableGrow_leaves suits ‹_› before.2.2
    | exact memoryFill_leaves before.2.2.2
    | exact memoryCopy_leaves before.2.2.2
    | exact memoryInit_leaves before.2.2.2
    | exact tableFill_leaves before.2.2.2
    | exact tableCopy_leaves before.2.2.2
    | exact tableInit_leaves before.2.2.2
    | trivial

end Store

/-! ## Running one operator -/

namespace Step

/-- An operator has trapped, or the code behind it goes on over locals and operands of some kinds. -/
inductive GoesOn (c : Context) (f : Frame) (callers : List Frame) (depth : Nat) (locals stack : List Kind) :
    Step → Prop where
  | trapped {store : Store} {cause : Trap} : GoesOn c f callers depth locals stack (.ended (.trapped store cause))
  | running {store : Store} {values : Array Val} {operands : List Val} (suits : store.Suits c)
      (kept : values.toList.map Val.kind = locals) (left : operands.map Val.kind = stack) :
      GoesOn c f callers depth locals stack
        (.running ⟨store, { f with locals := values, stack := operands }, callers, depth⟩)

/-- Setting a local to a value of its kind keeps all kinds. -/
theorem kinds_modify {values : Array Val} {i : Nat} {v : Val}
    (there : (values.toList.map Val.kind)[i]? = some v.kind) :
    (values.modify i fun _ => v).toList.map Val.kind = values.toList.map Val.kind := by
  refine List.ext_getElem? fun j => ?_
  simp only [List.getElem?_map, Array.getElem?_toList, Array.getElem?_modify] at there ⊢
  by_cases here : i = j
  · subst here
    obtain ⟨old, found, -⟩ := Option.map_eq_some_iff.1 there
    rw [if_pos rfl, there, found]
    rfl
  · rw [if_neg here]

/-- **An operator that neither branches nor calls** traps, or turns the operands on top of the stack into what it
leaves. -/
theorem simple_goesOn {c : Context} {store : Store} {f : Frame} {op : Operator} {callers : List Frame} {depth : Nat}
    {takes leaves rest : List Kind} (suits : store.Suits c)
    (turns : op.Turns c (f.locals.toList.map Val.kind) takes leaves)
    (operands : f.stack.map Val.kind = takes ++ rest) :
    GoesOn c f callers depth (f.locals.toList.map Val.kind) (leaves ++ rest)
      (simple store f op callers depth) := by
  obtain ⟨values, labels, stack, code, results⟩ := f
  dsimp only at turns operands ⊢
  have ran := store.run_leaves suits turns operands
  have changed := (store.run_changes stack op).suits suits
  unfold simple
  dsimp only
  split
  case h_14 =>
    cases done : store.run op stack with
    | done after left =>
      rw [done] at ran changed
      exact .running changed rfl ran
    | trap => exact .trapped
  all_goals
    cases turns
    try simp only [List.map_cons, List.cons_append, List.nil_append, List.cons.injEq] at operands
  case h_1.nop => exact .running suits rfl operands
  case h_2.drop => exact .running suits rfl operands.2
  case h_3.localGet there =>
    rw [List.getElem?_map, Array.getElem?_toList] at there
    obtain ⟨v, found, rfl⟩ := Option.map_eq_some_iff.1 there
    rw [found]
    exact .running suits rfl (congrArg (v.kind :: ·) operands)
  case h_4.localSet there =>
    rw [← operands.1] at there
    exact .running suits (kinds_modify there) operands.2
  case h_5.localTee v _ _ there =>
    rw [← operands.1] at there ⊢
    exact .running suits (kinds_modify there) (congrArg (v.kind :: ·) operands.2)
  case h_6.const x _ =>
    refine .running suits rfl ?_
    rw [List.map_cons, Val.kind_ofConst, operands]
    rfl
  case h_7.refNull | h_8.refFunc => exact .running suits rfl (congrArg (Kind.ref :: ·) operands)
  case h_9.refIsNull => exact .running suits rfl (congrArg (Kind.i32 :: ·) operands.2)
  case h_10.select | h_11.selectTyped =>
    obtain ⟨_, second, first, below⟩ := operands
    refine .running suits rfl ?_
    rw [List.map_cons, below]
    split
    · rw [second]
      rfl
    · rw [first]
      rfl
  case h_12.numeric op =>
    cases evaluated : op.eval stack with
    | ok => exact .running suits rfl (Numeric.kinds_of_eval evaluated operands)
    | error => exact .trapped
  case h_13.vector op =>
    cases evaluated : op.eval stack with
    | ok => exact .running suits rfl (VectorOp.kinds_of_eval evaluated operands)
    | error => exact .trapped

end Step

end Machine

end WasmLens
