import WasmLens.Proofs.Machine.Kinds
import WasmLens.Proofs.Wasm.Bodies

/-!
# What the check of an operator knows of the stack

Where code can be reached, the check of a body knows every operand, up to its kind (`Checker.Knows`). Then the check
of an operator that neither branches nor calls takes from the operands what the machine will take, and adds what the
machine will leave (`Check.onStack_moves`). Where code cannot be reached it may take anything, and stays in its block.
-/
namespace WasmLens.Wasm

open Machine

/-- The kind of an operand, where its type is known. -/
def Operand.kind? : Operand → Option Kind
  | .known t => some t.kind
  | _ => none

/-- An operand that may stand where a type is expected is of that kind, if its kind is known. -/
theorem Context.operandBelow_kind {c : Context} {o : Operand} {expected : ValType} (h : c.operandBelow o expected)
    {kind : Kind} (known : o.kind? = some kind) : kind = expected.kind := by
  cases o with
  | unknown | someRef => cases known
  | known t =>
    cases known
    exact isSubtype_kind h

namespace Checker

/-- All operands at hand are known, and they are of these kinds. -/
structure Knows (k : Checker) (kinds : List Kind) : Prop where
  reachable : k.unreachable = false
  operands : k.operands.map Operand.kind? = kinds.map some

/-- A check has taken some operands and added others, inside one block. -/
structure Moves (k k' : Checker) (takes leaves : List Kind) : Prop where
  frame : k' = { k with operands := k'.operands, unset := k'.unset }
  known : ∀ kinds, k.Knows kinds → ∃ rest, kinds = takes ++ rest ∧ k'.Knows (leaves ++ rest)

/-- A check has stayed in its blocks. -/
structure Stays (k k' : Checker) : Prop where
  context : k'.context = k.context
  locals : k'.locals = k.locals
  blocks : k'.blocks = k.blocks

variable {k k' k'' : Checker}

theorem Moves.stays {takes leaves : List Kind} (h : k.Moves k' takes leaves) : k.Stays k' := by
  rw [h.frame]
  exact ⟨rfl, rfl, rfl⟩

/-- Where not all operands are known, any may be taken and left. -/
theorem Moves.of_unknown {takes leaves : List Kind} (frame : k' = { k with operands := k'.operands, unset := k'.unset })
    (unknown : ∀ kinds, ¬k.Knows kinds) : k.Moves k' takes leaves :=
  ⟨frame, fun kinds knows => absurd knows (unknown kinds)⟩

theorem Moves.refl (k : Checker) : k.Moves k [] [] := ⟨rfl, fun kinds knows => ⟨kinds, rfl, knows⟩⟩

/-- Taking operands, and then more. -/
theorem Moves.trans {takes takes' leaves : List Kind} (first : k.Moves k' takes [])
    (second : k'.Moves k'' takes' leaves) :
    k.Moves k'' (takes ++ takes') leaves where
  frame := by rw [second.frame, first.frame]
  known kinds knows := by
    obtain ⟨between, rfl, knowsBetween⟩ := first.known kinds knows
    obtain ⟨rest, rfl, knowsAfter⟩ := second.known between knowsBetween
    exact ⟨rest, (List.append_assoc ..).symm, knowsAfter⟩

end Checker

namespace Check

open Checker

variable {α β : Type} {k k' : Checker}

/-! ## The stack -/

theorem lift_ok {x : Context → Except Fault α} {a : α} (h : lift x k = .ok (a, k')) : x k.context = .ok a ∧ k = k' :=
  (lift_ok_iff.1 h).imp_right Eq.symm

theorem need_ok {feature : Features → Bool} {what : String} {a : Unit} (h : need feature what k = .ok (a, k')) :
    k = k' :=
  (lift_ok h).2

/-- A check that is made of another one only where something is wrong. -/
theorem guard_ok {c : Prop} [Decidable c] {f : Fault} {x : PUnit → Check α} {r : α × Checker}
    (h : (if c then fail f >>= x else x ⟨⟩) k = .ok r) : ¬c ∧ x ⟨⟩ k = .ok r := by
  by_cases wrong : c
  · rw [if_pos wrong] at h
    obtain ⟨_, _, failed, _⟩ := bind_ok_iff.1 h
    cases failed
  · rw [if_neg wrong] at h
    exact ⟨wrong, h⟩

/-- A feature that is asked for only where it is needed. -/
theorem needed_ok {c : Prop} [Decidable c] {feature : Features → Bool} {what : String} {x : PUnit → Check α}
    {r : α × Checker} (h : (if c then need feature what >>= x else x ⟨⟩) k = .ok r) : x ⟨⟩ k = .ok r := by
  split at h
  · obtain ⟨_, _, needed, h⟩ := bind_ok_iff.1 h
    obtain rfl := need_ok needed
    exact h
  · exact h

/-- An operand that is known is taken as what it is. -/
theorem popAny_ok {o : Operand} (h : popAny k = .ok (o, k')) :
    k.operands = o :: k'.operands ∧ k' = { k with operands := k'.operands } ∨
      k.unreachable ∧ k.operands = [] ∧ o = .unknown ∧ k' = k := by
  obtain ⟨context, locals, operands, unreachable, unset, blocks⟩ := k
  cases operands with
  | cons t rest =>
    cases h
    exact .inl ⟨rfl, rfl⟩
  | nil =>
    cases unreachable with
    | true =>
      cases h
      exact .inr ⟨rfl, rfl, rfl, rfl⟩
    | false => cases h

/-- Taking an operand takes its kind, and any kind where it is not known. -/
theorem popAny_moves {o : Operand} {kind : Kind} (h : popAny k = .ok (o, k'))
    (kinds : ∀ found, o.kind? = some found → found = kind) :
    k.Moves k' [kind] [] := by
  rcases popAny_ok h with ⟨operands, same⟩ | ⟨unreachable, _, _, rfl⟩
  · refine ⟨same ▸ rfl, fun known knows => ?_⟩
    have front := knows.operands
    rw [operands, List.map_cons] at front
    obtain ⟨first, rest, rfl, first_eq, rest_eq⟩ := List.map_eq_cons_iff.1 front.symm
    obtain rfl := kinds first first_eq.symm
    refine ⟨rest, rfl, ⟨?_, rest_eq.symm⟩⟩
    rw [same]
    exact knows.reachable
  · refine ⟨rfl, fun known knows => ?_⟩
    rw [knows.reachable] at unreachable
    cases unreachable

/-- Whatever is taken is of some kind. -/
theorem exists_popAny_moves {o : Operand} (h : popAny k = .ok (o, k')) :
    ∃ kind : Kind, (∀ found, o.kind? = some found → found = kind) ∧ k.Moves k' [kind] [] := by
  have ofKind : ∀ found, o.kind? = some found → found = o.kind?.getD .i32 := by
    intro found eq
    rw [eq]
    rfl
  exact ⟨_, ofKind, popAny_moves h ofKind⟩

/-- Where operands are known there is one to be taken. -/
theorem popAny_known {o : Operand} {kinds : List Kind} (h : popAny k = .ok (o, k')) (unknown : o.kind? = none) :
    ¬k.Knows kinds := by
  intro knows
  rcases popAny_ok h with ⟨operands, _⟩ | ⟨unreachable, _⟩
  · have front := knows.operands
    rw [operands, List.map_cons, unknown] at front
    obtain ⟨_, _, _, impossible, _⟩ := List.map_eq_cons_iff.1 front.symm
    cases impossible
  · rw [knows.reachable] at unreachable
    cases unreachable

theorem pop_moves {expected : ValType} {r : Unit × Checker} (h : pop expected k = .ok r) :
    k.Moves r.2 [expected.kind] [] := by
  obtain ⟨o, between, popped, rest⟩ := bind_ok_iff.1 h
  obtain ⟨_, _, ⟨⟩, rest⟩ := bind_ok_iff.1 rest
  by_cases below : between.context.operandBelow o expected
  · rw [if_pos below] at rest
    cases rest
    exact popAny_moves popped fun _ known => Context.operandBelow_kind below known
  · rw [if_neg below] at rest
    cases rest

theorem popRef_moves {o : Operand} (h : popRef k = .ok (o, k')) : k.Moves k' [.ref] [] := by
  obtain ⟨o', between, popped, rest⟩ := bind_ok_iff.1 h
  cases o' with
  | unknown | someRef =>
    cases rest
    exact popAny_moves popped nofun
  | known t =>
    cases t with
    | ref t =>
      cases rest
      refine popAny_moves popped ?_
      rintro _ ⟨⟩
      rfl
    | _ => cases rest

theorem forM_pop_moves : ∀ {ts : List ValType} {k : Checker} {r : Unit × Checker}, ts.forM pop k = .ok r →
    k.Moves r.2 (ts.map ValType.kind) []
  | [], k, r, h => by
    cases h
    exact .refl k
  | t :: ts, k, r, h => by
    obtain ⟨_, between, first, rest⟩ := bind_ok_iff.1 h
    exact (pop_moves first).trans (forM_pop_moves rest)

theorem popAll_moves {ts : List ValType} {r : Unit × Checker} (h : popAll ts k = .ok r) :
    k.Moves r.2 (stackOf ts) [] := by
  rw [stackOf, ← List.map_reverse]
  exact forM_pop_moves h

theorem push_moves {t : ValType} {r : Unit × Checker} (h : push (.known t) k = .ok r) : k.Moves r.2 [] [t.kind] := by
  cases h
  exact ⟨rfl, fun kinds knows => ⟨kinds, rfl, knows.reachable, congrArg (some t.kind :: ·) knows.operands⟩⟩

/-- Operands that have been pushed are known. -/
theorem map_kind_pushed (ts : List ValType) :
    (ts.map Operand.known).reverse.map Operand.kind? = (stackOf ts).map some := by
  simp only [stackOf, List.map_reverse, List.map_map]
  rfl

theorem pushAll_moves {ts : List ValType} {r : Unit × Checker} (h : pushAll ts k = .ok r) :
    k.Moves r.2 [] (stackOf ts) := by
  cases h
  refine ⟨rfl, fun kinds knows => ⟨kinds, rfl, knows.reachable, ?_⟩⟩
  rw [List.map_append, List.map_append, map_kind_pushed, knows.operands]

theorem apply_moves {params results : List ValType} {r : Unit × Checker} (h : apply params results k = .ok r) :
    k.Moves r.2 (stackOf params) (stackOf results) := by
  obtain ⟨_, between, popped, pushed⟩ := bind_ok_iff.1 h
  have moved := (popAll_moves popped).trans (pushAll_moves pushed)
  rwa [List.append_nil] at moved

/-! ## Looking things up -/

theorem localAt_ok {index : Nat} {t : ValType} (h : localAt index k = .ok (t, k')) :
    k.locals[index]? = some t ∧ k = k' := by
  obtain ⟨_, _, ⟨⟩, h⟩ := bind_ok_iff.1 h
  cases found : k.locals[index]? <;> rw [found] at h <;> cases h
  exact ⟨rfl, rfl⟩

theorem setLocal_moves {index : Nat} {r : Unit × Checker} (h : setLocal index k = .ok r) : k.Moves r.2 [] [] := by
  cases h
  exact ⟨rfl, fun kinds knows => ⟨kinds, rfl, knows.reachable, knows.operands⟩⟩

theorem address_ok {bytes : Nat} {arg : MemArg} {t : ValType} (h : address bytes arg k = .ok (t, k')) :
    k = k' := by
  obtain ⟨memory, _, looked, h⟩ := bind_ok_iff.1 h
  obtain ⟨_, rfl⟩ := lift_ok looked
  obtain ⟨_, h⟩ := guard_ok h
  obtain ⟨_, h⟩ := guard_ok h
  cases h
  rfl

theorem memoryIndexType_ok {memory : Nat} {t : ValType} (h : memoryIndexType memory k = .ok (t, k')) :
    (∃ m, k.context.memories[memory]? = some m ∧ t = indexType m.is64) ∧ k = k' := by
  obtain ⟨m, _, looked, h⟩ := bind_ok_iff.1 h
  obtain ⟨found, rfl⟩ := lift_ok looked
  cases h
  exact ⟨⟨m, Context.getElem?_of_lookUp found, rfl⟩, rfl⟩

theorem dataSegment_ok {segment : Nat} {a : Unit} (h : dataSegment segment k = .ok (a, k')) : k = k' := (lift_ok h).2

/-! ## Operators that neither branch nor call -/

/-- The check of an operator moves operands as the machine will. -/
def MovesAs (op : Operator) (k k' : Checker) : Prop :=
  ∃ takes leaves, op.Turns k.context (k.locals.toList.map ValType.kind) takes leaves ∧ k.Moves k' takes leaves

theorem getElem?_locals {index : Nat} {t : ValType} (h : k.locals[index]? = some t) :
    (k.locals.toList.map ValType.kind)[index]? = some t.kind := by
  rw [List.getElem?_map, Array.getElem?_toList, h, Option.map_some]

theorem onVariables?_moves {op : Operator} {x : Check Unit} {r : Unit × Checker} (h : onVariables? op = some x)
    (ran : x k = .ok r) : MovesAs op k r.2 := by
  cases op <;> simp only [onVariables?, reduceCtorEq, Option.some.injEq] at h <;> subst h
  case localGet i =>
    obtain ⟨t, _, looked, ran⟩ := bind_ok_iff.1 ran
    obtain ⟨found, rfl⟩ := localAt_ok looked
    obtain ⟨_, _, ⟨⟩, ran⟩ := bind_ok_iff.1 ran
    exact ⟨_, _, .localGet (getElem?_locals found), push_moves (guard_ok ran).2⟩
  case localSet i =>
    obtain ⟨t, _, looked, ran⟩ := bind_ok_iff.1 ran
    obtain ⟨found, rfl⟩ := localAt_ok looked
    obtain ⟨_, _, popped, set⟩ := bind_ok_iff.1 ran
    exact ⟨_, _, .localSet (getElem?_locals found), (pop_moves popped).trans (setLocal_moves set)⟩
  case localTee i =>
    obtain ⟨t, _, looked, ran⟩ := bind_ok_iff.1 ran
    obtain ⟨found, rfl⟩ := localAt_ok looked
    obtain ⟨_, _, popped, ran⟩ := bind_ok_iff.1 ran
    obtain ⟨_, _, set, pushed⟩ := bind_ok_iff.1 ran
    exact ⟨_, _, .localTee (getElem?_locals found),
      ((pop_moves popped).trans (setLocal_moves set)).trans (push_moves pushed)⟩
  case globalGet i =>
    obtain ⟨g, _, looked, pushed⟩ := bind_ok_iff.1 ran
    obtain ⟨found, rfl⟩ := lift_ok looked
    exact ⟨_, _, .globalGet (Context.getElem?_of_lookUp found), push_moves pushed⟩
  case globalSet i =>
    obtain ⟨g, _, looked, ran⟩ := bind_ok_iff.1 ran
    obtain ⟨_, rfl⟩ := lift_ok looked
    exact ⟨_, _, .globalSet, pop_moves (guard_ok ran).2⟩

theorem onTables?_moves {op : Operator} {x : Check Unit} {r : Unit × Checker} (h : onTables? op = some x)
    (ran : x k = .ok r) : MovesAs op k r.2 := by
  cases op <;> simp only [onTables?, reduceCtorEq, Option.some.injEq] at h <;> subst h
  all_goals
    obtain ⟨_, _, needed, ran⟩ := bind_ok_iff.1 ran
    obtain rfl := need_ok needed
    obtain ⟨t, _, looked, ran⟩ := bind_ok_iff.1 ran
    obtain ⟨found, rfl⟩ := lift_ok looked
  case tableGet => exact ⟨_, _, .tableGet, apply_moves ran⟩
  case tableSet => exact ⟨_, _, .tableSet, apply_moves ran⟩
  case tableSize => exact ⟨_, _, .tableSize (Context.getElem?_of_lookUp found), apply_moves ran⟩
  case tableGrow => exact ⟨_, _, .tableGrow (Context.getElem?_of_lookUp found), apply_moves ran⟩
  case tableFill => exact ⟨_, _, .tableFill, apply_moves ran⟩
  case tableCopy | tableInit =>
    obtain ⟨_, _, looked, ran⟩ := bind_ok_iff.1 ran
    obtain ⟨_, rfl⟩ := lift_ok looked
    obtain ⟨_, _, ⟨⟩, ran⟩ := bind_ok_iff.1 ran
    first
    | exact ⟨_, _, .tableCopy, apply_moves (guard_ok ran).2⟩
    | exact ⟨_, _, .tableInit, apply_moves (guard_ok ran).2⟩
  case elemDrop =>
    cases ran
    exact ⟨_, _, .elemDrop, .refl _⟩

theorem onMemories?_moves {op : Operator} {x : Check Unit} {r : Unit × Checker} (h : onMemories? op = some x)
    (ran : x k = .ok r) : MovesAs op k r.2 := by
  cases op <;> simp only [onMemories?, reduceCtorEq, Option.some.injEq] at h <;> subst h
  case load =>
    obtain ⟨_, _, looked, ran⟩ := bind_ok_iff.1 (needed_ok ran)
    obtain rfl := address_ok looked
    exact ⟨_, _, .load, apply_moves ran⟩
  case store =>
    obtain ⟨_, _, looked, ran⟩ := bind_ok_iff.1 (needed_ok ran)
    obtain rfl := address_ok looked
    exact ⟨_, _, .store, apply_moves ran⟩
  case memorySize =>
    obtain ⟨_, _, looked, ran⟩ := bind_ok_iff.1 ran
    obtain ⟨⟨m, found, rfl⟩, rfl⟩ := memoryIndexType_ok looked
    exact ⟨_, _, .memorySize found, apply_moves ran⟩
  case memoryGrow =>
    obtain ⟨_, _, looked, ran⟩ := bind_ok_iff.1 ran
    obtain ⟨⟨m, found, rfl⟩, rfl⟩ := memoryIndexType_ok looked
    exact ⟨_, _, .memoryGrow found, apply_moves ran⟩
  all_goals
    obtain ⟨_, _, needed, ran⟩ := bind_ok_iff.1 ran
    obtain rfl := need_ok needed
  case dataDrop =>
    obtain ⟨_, k'⟩ := r
    obtain rfl := dataSegment_ok ran
    exact ⟨_, _, .dataDrop, .refl _⟩
  all_goals
    obtain ⟨_, _, looked, ran⟩ := bind_ok_iff.1 ran
    obtain ⟨_, rfl⟩ := memoryIndexType_ok looked
  case memoryFill => exact ⟨_, _, .memoryFill, apply_moves ran⟩
  case memoryCopy =>
    obtain ⟨_, _, looked, ran⟩ := bind_ok_iff.1 ran
    obtain ⟨_, rfl⟩ := memoryIndexType_ok looked
    exact ⟨_, _, .memoryCopy, apply_moves ran⟩
  case memoryInit =>
    obtain ⟨_, _, there, ran⟩ := bind_ok_iff.1 ran
    obtain rfl := dataSegment_ok there
    exact ⟨_, _, .memoryInit, apply_moves ran⟩

theorem onVectors?_moves {op : Operator} {x : Check Unit} {r : Unit × Checker} (h : onVectors? op = some x)
    (ran : x k = .ok r) : MovesAs op k r.2 := by
  cases op <;> simp only [onVectors?, reduceCtorEq, Option.some.injEq] at h <;> subst h
  all_goals
    obtain ⟨_, _, needed, ran⟩ := bind_ok_iff.1 ran
    obtain rfl := need_ok needed
  case vector => exact ⟨_, _, .vector, apply_moves (guard_ok ran).2⟩
  case vectorLoad =>
    obtain ⟨_, _, looked, ran⟩ := bind_ok_iff.1 ran
    obtain rfl := address_ok looked
    exact ⟨_, _, .vectorLoad, apply_moves ran⟩
  all_goals
    obtain ⟨_, _, looked, ran⟩ := bind_ok_iff.1 (guard_ok ran).2
    obtain rfl := address_ok looked
  case laneLoad => exact ⟨_, _, .laneLoad, apply_moves ran⟩
  case laneStore => exact ⟨_, _, .laneStore, apply_moves ran⟩

/-- Of two operands of one kind one is left, unless some operand is not known. -/
theorem select_moves {r : Unit × Checker} (h : select k = .ok r) : MovesAs .select k r.2 := by
  obtain ⟨_, k₁, condition, h⟩ := bind_ok_iff.1 h
  obtain ⟨a, k₂, second, h⟩ := bind_ok_iff.1 h
  obtain ⟨b, k₃, first, h⟩ := bind_ok_iff.1 h
  obtain ⟨plain, pushed⟩ := guard_ok h
  obtain ⟨ka, ofA, taken⟩ := exists_popAny_moves second
  obtain ⟨kb, ofB, takenToo⟩ := exists_popAny_moves first
  have popped := ((pop_moves condition).trans taken).trans takenToo
  have unknown (missing : a.kind? = none ∨ b.kind? = none) (kinds : List Kind) : ¬k.Knows kinds := by
    intro knows
    obtain ⟨_, _, knows₁⟩ := (pop_moves condition).known kinds knows
    obtain ⟨_, _, knows₂⟩ := taken.known _ knows₁
    rcases missing with missing | missing
    · exact popAny_known second missing knows₁
    · exact popAny_known first missing knows₂
  have frame (o : Operand) (h : push o k₃ = .ok r) :
      r.2 = { k with operands := r.2.operands, unset := r.2.unset } := by
    cases h
    rw [popped.frame]
  have somehow (missing : a.kind? = none ∨ b.kind? = none) (o : Operand) (h : push o k₃ = .ok r) :
      MovesAs .select k r.2 :=
    ⟨_, _, .select (k := .i32), .of_unknown (frame o h) (unknown missing)⟩
  cases a with
  | unknown => exact somehow (.inl rfl) _ pushed
  | someRef => exact absurd rfl plain
  | known s =>
    cases b with
    | unknown => exact somehow (.inr rfl) _ pushed
    | someRef => exact absurd (Bool.or_true _) plain
    | known t =>
      obtain rfl := ofA _ rfl
      obtain rfl := ofB _ rfl
      dsimp only at pushed
      by_cases same : Operand.known s = .known t
      · cases same
        rw [if_pos rfl] at pushed
        exact ⟨_, _, .select, popped.trans (push_moves pushed)⟩
      · rw [if_neg same] at pushed
        cases pushed

theorem onValues?_moves {op : Operator} {x : Check Unit} {r : Unit × Checker} (h : onValues? op = some x)
    (ran : x k = .ok r) : MovesAs op k r.2 := by
  cases op <;> simp only [onValues?, reduceCtorEq, Option.some.injEq] at h <;> subst h
  case nop =>
    cases ran
    exact ⟨_, _, .nop, .refl _⟩
  case drop =>
    obtain ⟨o, _, popped, ran⟩ := bind_ok_iff.1 ran
    cases ran
    obtain ⟨_, _, moved⟩ := exists_popAny_moves popped
    exact ⟨_, _, .drop, moved⟩
  case select => exact select_moves ran
  case selectTyped t =>
    obtain ⟨_, _, needed, ran⟩ := bind_ok_iff.1 ran
    obtain rfl := need_ok needed
    obtain ⟨_, _, looked, ran⟩ := bind_ok_iff.1 ran
    obtain ⟨_, rfl⟩ := lift_ok looked
    exact ⟨_, _, .selectTyped, apply_moves ran⟩
  case const x => exact ⟨_, _, .const, push_moves (needed_ok ran)⟩
  case refNull heap =>
    obtain ⟨_, _, looked, ran⟩ := bind_ok_iff.1 ran
    obtain ⟨_, rfl⟩ := lift_ok looked
    exact ⟨_, _, .refNull, push_moves ran⟩
  case refIsNull =>
    obtain ⟨_, _, needed, ran⟩ := bind_ok_iff.1 ran
    obtain rfl := need_ok needed
    obtain ⟨_, _, popped, pushed⟩ := bind_ok_iff.1 ran
    exact ⟨_, _, .refIsNull, (popRef_moves popped).trans (push_moves pushed)⟩
  case refFunc func =>
    obtain ⟨_, _, needed, ran⟩ := bind_ok_iff.1 ran
    obtain rfl := need_ok needed
    obtain ⟨type, _, looked, ran⟩ := bind_ok_iff.1 ran
    obtain ⟨_, rfl⟩ := lift_ok looked
    obtain ⟨_, _, ⟨⟩, ran⟩ := bind_ok_iff.1 ran
    exact ⟨_, _, .refFunc, push_moves (guard_ok ran).2⟩
  case numeric op => exact ⟨_, _, .numeric, apply_moves ran⟩

/-- **The check of an operator** moves operands as the machine will, or it is the check of one that branches or
calls, or of one that the machine does not run. -/
theorem onStack_moves {op : Operator} {r : Unit × Checker} (ran : onStack op k = .ok r) :
    MovesAs op k r.2 ∨ control op k = .ok r ∨ ∃ p, op = .proposed p := by
  unfold onStack at ran
  cases found : (onVariables? op <|> onTables? op <|> onMemories? op <|> onVectors? op <|> onValues? op) with
  | some check =>
    rw [found] at ran
    simp only [Option.orElse_eq_orElse, Option.orElse_eq_or, Option.or_eq_some_iff] at found
    rcases found with found | ⟨-, found | ⟨-, found | ⟨-, found | ⟨-, found⟩⟩⟩⟩
    · exact .inl (onVariables?_moves found ran)
    · exact .inl (onTables?_moves found ran)
    · exact .inl (onMemories?_moves found ran)
    · exact .inl (onVectors?_moves found ran)
    · exact .inl (onValues?_moves found ran)
  | none =>
    rw [found] at ran
    dsimp only at ran
    split at ran
    · exact .inr (.inr ⟨_, rfl⟩)
    · exact .inr (.inl ran)

/-- An operator of a further proposal is checked only where the proposal is in force. -/
theorem proposed_enabled {op : Proposed} {r : Unit × Checker} (ran : onStack (.proposed op) k = .ok r) :
    op.isEnabled k.context.features = true := by
  obtain ⟨_, _, needed, _⟩ := bind_ok_iff.1 (show proposed op k = .ok r from ran)
  have required := (lift_ok needed).1
  unfold require at required
  split at required
  · assumption
  · cases required

theorem blockType_ok {t : BlockType} {a : Unit} (h : blockType t k = .ok (a, k')) : k = k' := by
  cases t with
  | empty =>
    cases h
    rfl
  | value v => exact (lift_ok (x := fun c => c.checkValue v) h).2
  | func index =>
    obtain ⟨_, _, needed, h⟩ := bind_ok_iff.1 h
    obtain rfl := need_ok needed
    obtain ⟨type, _, looked, h⟩ := bind_ok_iff.1 h
    obtain ⟨_, rfl⟩ := lift_ok looked
    exact (lift_ok h).2

/-- Only inside a block an operator is checked. -/
theorem operator_ok {op : Operator} {r : Unit × Checker} (h : operator op k = .ok r) :
    k.blocks ≠ [] ∧ onStack op k = .ok r := by
  obtain ⟨_, _, ⟨⟩, h⟩ := bind_ok_iff.1 h
  obtain ⟨inside, h⟩ := guard_ok h
  refine ⟨fun none => inside (by rw [none]; rfl), ?_⟩
  dsimp only at h
  split at h
  case h_4 => exact h
  all_goals
    obtain ⟨_, _, checked, h⟩ := bind_ok_iff.1 h
    obtain rfl := blockType_ok checked
    exact h

/-! ## Blocks -/

theorem openBlock_ok {kind : BlockKind} {type : FuncType} {r : Unit × Checker} (h : openBlock kind type k = .ok r) :
    r.2 = { k with
      operands := (type.params.map Operand.known).reverse
      unreachable := false
      blocks := ⟨kind, type, k.operands, k.unreachable, k.unset⟩ :: k.blocks } := by
  cases h
  dsimp only
  rw [List.append_nil]

/-- A block is closed over its results, and nothing else. -/
theorem closeBlock_ok {b : OpenBlock} (h : closeBlock k = .ok (b, k')) :
    ∃ blocks, k.blocks = b :: blocks ∧ (∀ kinds, k.Knows kinds → kinds = stackOf b.type.results) ∧
      k' = { k with
        operands := b.outer
        unreachable := b.outerUnreachable
        unset := b.outerUnset
        blocks } := by
  obtain ⟨_, _, ⟨⟩, h⟩ := bind_ok_iff.1 h
  cases blocks : k.blocks with
  | nil =>
    rw [blocks] at h
    cases h
  | cons innermost outer =>
    rw [blocks] at h
    obtain ⟨_, k₁, popped, h⟩ := bind_ok_iff.1 h
    obtain ⟨_, _, ⟨⟩, h⟩ := bind_ok_iff.1 h
    obtain ⟨full, h⟩ := guard_ok h
    obtain ⟨_, _, ⟨⟩, ⟨⟩⟩ := bind_ok_iff.1 h
    have moved := popAll_moves popped
    refine ⟨outer, rfl, fun kinds knows => ?_, ?_⟩
    · obtain ⟨rest, rfl, nothing⟩ := moved.known kinds knows
      have empty : k₁.operands = [] := by simpa using full
      have none := nothing.operands
      rw [empty] at none
      cases rest with
      | nil => exact List.append_nil _
      | cons => cases none
    · have frame := moved.frame
      dsimp only at frame ⊢
      rw [frame]

/-- What is left of a checker once it has opened a block over some operands. -/
def Opens (kind : BlockKind) (type : FuncType) (takes : List Kind) (k k' : Checker) : Prop :=
  ∃ k₁, k.Moves k₁ takes [] ∧ k' = { k₁ with
    operands := (type.params.map Operand.known).reverse
    unreachable := false
    blocks := ⟨kind, type, k₁.operands, k₁.unreachable, k₁.unset⟩ :: k₁.blocks }

theorem open_ok {kind : BlockKind} {type : FuncType} {r : Unit × Checker}
    (h : (do popAll type.params; openBlock kind type : Check Unit) k = .ok r) :
    Opens kind type (stackOf type.params) k r.2 := by
  obtain ⟨_, k₁, popped, h⟩ := bind_ok_iff.1 h
  exact ⟨k₁, popAll_moves popped, openBlock_ok h⟩

theorem control_block {t : BlockType} {r : Unit × Checker} (h : control (.block t) k = .ok r) :
    ∃ type, k.context.blockTypeAt t = .ok type ∧ Opens .block type (stackOf type.params) k r.2 := by
  obtain ⟨type, _, looked, h⟩ := bind_ok_iff.1 h
  obtain ⟨found, rfl⟩ := lift_ok looked
  exact ⟨type, found, open_ok h⟩

theorem control_loop {t : BlockType} {r : Unit × Checker} (h : control (.loop t) k = .ok r) :
    ∃ type, k.context.blockTypeAt t = .ok type ∧ Opens .loop type (stackOf type.params) k r.2 := by
  obtain ⟨type, _, looked, h⟩ := bind_ok_iff.1 h
  obtain ⟨found, rfl⟩ := lift_ok looked
  exact ⟨type, found, open_ok h⟩

theorem control_ifThen {t : BlockType} {r : Unit × Checker} (h : control (.ifThen t) k = .ok r) :
    ∃ type, k.context.blockTypeAt t = .ok type ∧ Opens .ifThen type (.i32 :: stackOf type.params) k r.2 := by
  obtain ⟨type, _, looked, h⟩ := bind_ok_iff.1 h
  obtain ⟨found, rfl⟩ := lift_ok looked
  obtain ⟨_, k₁, popped, h⟩ := bind_ok_iff.1 h
  obtain ⟨k₂, moved, opened⟩ := open_ok h
  exact ⟨type, found, k₂, (pop_moves popped).trans moved, opened⟩

/-- The first branch is closed, and the second one opened in its place. -/
theorem control_otherwise {r : Unit × Checker} (h : control .otherwise k = .ok r) :
    ∃ b blocks, k.blocks = b :: blocks ∧ (∀ kinds, k.Knows kinds → kinds = stackOf b.type.results) ∧
      b.kind = .ifThen ∧ r.2 = { k with
        operands := (b.type.params.map Operand.known).reverse
        unreachable := false
        unset := b.outerUnset
        blocks := { b with kind := .otherwise } :: blocks } := by
  obtain ⟨b, k₁, closed, h⟩ := bind_ok_iff.1 h
  obtain ⟨ifThen, h⟩ := guard_ok h
  obtain ⟨blocks, found, results, rfl⟩ := closeBlock_ok closed
  exact ⟨b, blocks, found, results, Decidable.of_not_not ifThen, openBlock_ok h⟩

/-- A block leaves its results, that of a body to nothing. If it is a branch without an alternative, its parameters
have to be its results. -/
theorem control_close {r : Unit × Checker} (h : control .close k = .ok r) :
    ∃ b blocks, k.blocks = b :: blocks ∧ (∀ kinds, k.Knows kinds → kinds = stackOf b.type.results) ∧
      (b.kind = .ifThen → stackOf b.type.params = stackOf b.type.results) ∧ r.2 = { k with
        operands := (if b.kind = .body then [] else (b.type.results.map Operand.known).reverse) ++ b.outer
        unreachable := b.outerUnreachable
        unset := b.outerUnset
        blocks } := by
  obtain ⟨b, k₁, closed, h⟩ := bind_ok_iff.1 h
  obtain ⟨blocks, found, results, rfl⟩ := closeBlock_ok closed
  have pushed {k₂ : Checker} (same : k₂ = { k with
      operands := b.outer, unreachable := b.outerUnreachable, unset := b.outerUnset, blocks })
      (h : (if b.kind ≠ .body then pushAll b.type.results else pure () : Check Unit) k₂ = .ok r) :
      r.2 = { k with
        operands := (if b.kind = .body then [] else (b.type.results.map Operand.known).reverse) ++ b.outer
        unreachable := b.outerUnreachable
        unset := b.outerUnset
        blocks } := by
    subst same
    by_cases body : b.kind = .body
    · rw [if_neg (not_not_intro body)] at h
      cases h
      rw [if_pos body, List.nil_append]
    · rw [if_pos body] at h
      cases h
      rw [if_neg body]
  dsimp only at h
  split at h
  · obtain ⟨_, k₂, opened, h⟩ := bind_ok_iff.1 h
    obtain ⟨b', k₃, closedToo, h⟩ := bind_ok_iff.1 h
    have opened := openBlock_ok opened
    dsimp only at opened
    obtain ⟨blocks', found', results', rfl⟩ := closeBlock_ok closedToo
    subst opened
    cases found'
    exact ⟨b, blocks, found, results, fun _ => results' _ ⟨rfl, map_kind_pushed _⟩, pushed rfl h⟩
  · rename_i other
    exact ⟨b, blocks, found, results, fun ifThen => absurd ifThen other, pushed rfl h⟩

/-- A check that is finished has closed all blocks. -/
theorem finished_ok {r : Unit × Checker} (h : finished k = .ok r) : k.blocks = [] := by
  obtain ⟨_, _, ⟨⟩, h⟩ := bind_ok_iff.1 h
  split at h
  · cases h
  · rename_i closed
    simpa using closed

theorem label_ok {index : Nat} {ts : List ValType} (h : label index k = .ok (ts, k')) :
    (∃ b, k.blocks[index]? = some b ∧ ts = b.labelTypes) ∧ k = k' := by
  obtain ⟨_, _, ⟨⟩, h⟩ := bind_ok_iff.1 h
  cases found : k.blocks[index]? <;> rw [found] at h <;> cases h
  exact ⟨⟨_, rfl, rfl⟩, rfl⟩

/-! ## Branches and calls -/

/-- What lies on top of the operands, where they are known. -/
def Demands (k : Checker) (takes : List Kind) : Prop := ∀ kinds, k.Knows kinds → ∃ rest, kinds = takes ++ rest

/-- The code behind an operator cannot be reached. -/
def Ends (k k' : Checker) : Prop := k' = { k with operands := [], unreachable := true, unset := k'.unset }

theorem Demands.of_moves {takes leaves : List Kind} (h : k.Moves k' takes leaves) : Demands k takes := by
  intro kinds knows
  obtain ⟨rest, eq, _⟩ := h.known kinds knows
  exact ⟨rest, eq⟩

/-- Behind operands that have been taken others are asked for. -/
theorem Demands.behind {takes takes' : List Kind} (first : k.Moves k' takes []) (second : Demands k' takes') :
    Demands k (takes ++ takes') := by
  intro kinds knows
  obtain ⟨between, rfl, knowsBetween⟩ := first.known kinds knows
  obtain ⟨rest, rfl⟩ := second between knowsBetween
  exact ⟨rest, (List.append_assoc ..).symm⟩

theorem Ends.stays (h : Ends k k') : k.Stays k' := by
  rw [h]
  exact ⟨rfl, rfl, rfl⟩

theorem setUnreachable_ends {r : Unit × Checker} (h : setUnreachable k = .ok r) : Ends k r.2 := by
  cases h
  rfl

theorem Ends.of_moves {k'' : Checker} {takes leaves : List Kind} (h : k.Moves k' takes leaves) (ends : Ends k' k'') :
    Ends k k'' := by
  unfold Ends at ends ⊢
  rw [ends, h.frame]

theorem peekAll_ok {ts : List ValType} {a : Unit} (h : peekAll ts k = .ok (a, k')) :
    Demands k (stackOf ts) ∧ k = k' := by
  obtain ⟨_, _, ⟨⟩, h⟩ := bind_ok_iff.1 h
  obtain ⟨_, _, popped, h⟩ := bind_ok_iff.1 h
  cases h
  exact ⟨.of_moves (popAll_moves popped), rfl⟩

/-- A loop over checks that leave all as it is. -/
theorem forIn_ok {Q : Nat → Prop} {f : Nat → PUnit → Check (ForInStep PUnit)}
    (each : ∀ l r, f l ⟨⟩ k = .ok r → Q l ∧ r = (.yield ⟨⟩, k)) : ∀ {ls : List Nat} {a : PUnit},
      forIn ls PUnit.unit f k = .ok (a, k') → (∀ l ∈ ls, Q l) ∧ k = k'
  | [], a, h => by
    cases h
    exact ⟨nofun, rfl⟩
  | l :: ls, a, h => by
    rw [List.forIn_cons] at h
    obtain ⟨step, _, first, h⟩ := bind_ok_iff.1 h
    obtain ⟨here, ⟨⟩⟩ := each l _ first
    obtain ⟨later, same⟩ := forIn_ok each h
    exact ⟨List.forall_mem_cons.2 ⟨here, later⟩, same⟩

/-- What a branch to a label asks for. -/
def Carries (k : Checker) (label : Nat) (above : List Kind) : Prop :=
  ∃ b, k.blocks[label]? = some b ∧ Demands k (above ++ stackOf b.labelTypes)

theorem Carries.behind {label : Nat} {takes : List Kind} (first : k.Moves k' takes []) (second : Carries k' label []) :
    Carries k label takes := by
  obtain ⟨b, found, demands⟩ := second
  rw [first.frame] at found
  exact ⟨b, found, demands.behind first⟩

theorem control_br {l : Nat} {r : Unit × Checker} (h : control (.br l) k = .ok r) : Carries k l [] ∧ Ends k r.2 := by
  obtain ⟨ts, _, looked, h⟩ := bind_ok_iff.1 h
  obtain ⟨⟨b, found, rfl⟩, rfl⟩ := label_ok looked
  obtain ⟨_, _, popped, h⟩ := bind_ok_iff.1 h
  have moved := popAll_moves popped
  exact ⟨⟨b, found, .of_moves moved⟩, .of_moves moved (setUnreachable_ends h)⟩

theorem control_brIf {l : Nat} {r : Unit × Checker} (h : control (.brIf l) k = .ok r) :
    ∃ b, k.blocks[l]? = some b ∧ k.Moves r.2 (.i32 :: stackOf b.labelTypes) (stackOf b.labelTypes) := by
  obtain ⟨_, k₁, popped, h⟩ := bind_ok_iff.1 h
  obtain ⟨ts, _, looked, h⟩ := bind_ok_iff.1 h
  obtain ⟨⟨b, found, rfl⟩, rfl⟩ := label_ok looked
  have moved : k.Moves k₁ _ _ := pop_moves popped
  rw [moved.frame] at found
  exact ⟨b, found, moved.trans (apply_moves h)⟩

theorem control_brTable {ls : List Nat} {default : Nat} {r : Unit × Checker}
    (h : control (.brTable ls default) k = .ok r) :
    (∀ l ∈ default :: ls, Carries k l [.i32]) ∧ Ends k r.2 := by
  obtain ⟨_, k₁, popped, h⟩ := bind_ok_iff.1 h
  obtain ⟨ts, _, looked, h⟩ := bind_ok_iff.1 h
  obtain ⟨⟨b, found, rfl⟩, rfl⟩ := label_ok looked
  obtain ⟨_, _, each, h⟩ := bind_ok_iff.1 h
  have moved : k.Moves k₁ _ _ := pop_moves popped
  obtain ⟨others, rfl⟩ := forIn_ok (Q := fun l => Carries k₁ l []) (fun l r step => by
    obtain ⟨ts', _, looked, step⟩ := bind_ok_iff.1 step
    obtain ⟨⟨b', found', rfl⟩, rfl⟩ := label_ok looked
    obtain ⟨_, _, peeked, ⟨⟩⟩ := bind_ok_iff.1 (guard_ok step).2
    obtain ⟨demands, rfl⟩ := peekAll_ok peeked
    exact ⟨⟨b', found', demands⟩, rfl⟩) each
  obtain ⟨_, _, poppedAll, h⟩ := bind_ok_iff.1 h
  have movedAll := popAll_moves poppedAll
  refine ⟨List.forall_mem_cons.2 ⟨?_, fun l mem => (others l mem).behind moved⟩,
    .of_moves moved (.of_moves movedAll (setUnreachable_ends h))⟩
  exact .behind moved ⟨b, found, .of_moves movedAll⟩

theorem control_ret {r : Unit × Checker} (h : control .ret k = .ok r) :
    (∃ b, k.blocks.getLast? = some b ∧ Demands k (stackOf b.type.results)) ∧ Ends k r.2 := by
  obtain ⟨_, _, ⟨⟩, h⟩ := bind_ok_iff.1 h
  cases found : k.blocks.getLast? with
  | none =>
    rw [found] at h
    cases h
  | some b =>
    rw [found] at h
    obtain ⟨_, _, popped, h⟩ := bind_ok_iff.1 h
    have moved := popAll_moves popped
    exact ⟨⟨b, rfl, .of_moves moved⟩, .of_moves moved (setUnreachable_ends h)⟩

theorem control_call {func : Nat} {r : Unit × Checker} (h : control (.call func) k = .ok r) :
    ∃ t, k.context.typeOfFunction func = .ok t ∧ k.Moves r.2 (stackOf t.params) (stackOf t.results) := by
  obtain ⟨t, _, looked, h⟩ := bind_ok_iff.1 h
  obtain ⟨found, rfl⟩ := lift_ok looked
  exact ⟨t, found, apply_moves h⟩

theorem control_callIndirect {type table : Nat} {r : Unit × Checker}
    (h : control (.callIndirect type table) k = .ok r) :
    ∃ t index, k.context.funcTypeAt type = .ok t ∧
      k.Moves r.2 (index :: stackOf t.params) (stackOf t.results) := by
  obtain ⟨_, _, looked, h⟩ := bind_ok_iff.1 h
  obtain ⟨_, rfl⟩ := lift_ok looked
  obtain ⟨_, _, ⟨⟩, h⟩ := bind_ok_iff.1 h
  obtain ⟨_, k₁, popped, h⟩ := bind_ok_iff.1 (guard_ok h).2
  obtain ⟨t, _, lookedUp, h⟩ := bind_ok_iff.1 h
  obtain ⟨found, rfl⟩ := lift_ok lookedUp
  have moved : k.Moves k₁ _ _ := pop_moves popped
  rw [moved.frame] at found
  exact ⟨t, _, found, moved.trans (apply_moves h)⟩

end Check

end WasmLens.Wasm
