import WasmLens.Proofs.Wasm.Entries

/-!
# What the check of a body is a check of

The operators of a body are checked one after another against a stack of types. Whatever they do to that
stack, the context they are checked in stays the one of the body (`operator_keeps`). So what the check of one
operator asks of the context holds of every operator of the body: **a body sets only globals that are
mutable** (`Context.checkBody_globalSet`).
-/
namespace WasmLens.Wasm

namespace Check

variable {α β : Type}

/-! ## Steps that keep the context -/

/-- A check that leaves the context as it is, wherever it succeeds. -/
def Keeps (x : Check α) : Prop := ∀ k a k', x k = .ok (a, k') → k'.context = k.context

theorem bind_ok_iff {x : Check α} {f : α → Check β} {k : Checker} {r : β × Checker} :
    (x >>= f) k = .ok r ↔ ∃ a k', x k = .ok (a, k') ∧ f a k' = .ok r := by
  show (x k >>= fun p => f p.1 p.2) = .ok r ↔ _
  rw [bind_eq_ok_iff, Prod.exists]

@[simp] theorem keeps_bind {x : Check α} {f : α → Check β} (first : Keeps x) (second : ∀ a, Keeps (f a)) :
    Keeps (x >>= f) := by
  intro k b k'' h
  obtain ⟨a, k', ran, rest⟩ := bind_ok_iff.1 h
  rw [second a k' b k'' rest, first k a k' ran]

@[simp] theorem keeps_pure (a : α) : Keeps (pure a : Check α) := by
  rintro k _ _ ⟨⟩
  rfl

@[simp] theorem keeps_fail (f : Fault) : Keeps (fail f : Check α) := by
  intro k a k' h
  have failed : Except.error f = Except.ok (a, k') := h
  cases failed

@[simp] theorem keeps_get : Keeps (get : Check Checker) := by
  rintro k _ _ ⟨⟩
  rfl

@[simp] theorem keeps_modify {f : Checker → Checker} (same : ∀ k, (f k).context = k.context) :
    Keeps (modify f : Check Unit) := by
  rintro k _ _ ⟨⟩
  exact same k

@[simp] theorem keeps_ite {c : Prop} [Decidable c] {x y : Check α} (yes : Keeps x) (no : Keeps y) :
    Keeps (if c then x else y) := by
  split
  · exact yes
  · exact no

@[simp] theorem keeps_forM {f : α → Check Unit} (each : ∀ a, Keeps (f a)) : ∀ xs : List α, Keeps (xs.forM f)
  | [] => keeps_pure ()
  | x :: xs => keeps_bind (each x) fun _ => keeps_forM each xs

theorem lift_ok_iff {x : Context → Except Fault α} {k : Checker} {r : α × Checker} :
    lift x k = .ok r ↔ x k.context = .ok r.1 ∧ r.2 = k := by
  obtain ⟨a, k'⟩ := r
  unfold lift
  rw [bind_ok_iff]
  constructor
  · rintro ⟨_, _, ⟨⟩, h⟩
    cases found : x k.context <;> rw [found] at h <;> cases h
    exact ⟨rfl, rfl⟩
  · rintro ⟨found, rfl⟩
    refine ⟨k', k', rfl, ?_⟩
    rw [found]
    rfl

@[simp] theorem keeps_lift (x : Context → Except Fault α) : Keeps (lift x) := by
  intro k a k' h
  exact congrArg Checker.context (lift_ok_iff.1 h).2

/-! ## The stack -/

@[simp] theorem keeps_push (t : Operand) : Keeps (push t) := keeps_modify fun _ => rfl

@[simp] theorem keeps_pushAll (ts : List ValType) : Keeps (pushAll ts) := keeps_modify fun _ => rfl

@[simp] theorem keeps_popAny : Keeps popAny := by
  rintro ⟨context, locals, operands, unreachable, unset, blocks⟩ a k' h
  cases operands with
  | cons t rest =>
    cases h
    rfl
  | nil =>
    cases unreachable with
    | true =>
      cases h
      rfl
    | false => cases h

@[simp] theorem keeps_pop (expected : ValType) : Keeps (pop expected) :=
  keeps_bind keeps_popAny fun _ => keeps_bind keeps_get fun _ => keeps_ite (keeps_pure ()) (keeps_fail _)

@[simp] theorem keeps_popAll (ts : List ValType) : Keeps (popAll ts) := keeps_forM keeps_pop _

@[simp] theorem keeps_setUnreachable : Keeps setUnreachable := keeps_modify fun _ => rfl

@[simp] theorem keeps_openBlock (kind : BlockKind) (type : FuncType) : Keeps (openBlock kind type) :=
  keeps_bind (keeps_modify fun _ => rfl) fun _ => keeps_pushAll _

@[simp] theorem keeps_closeBlock : Keeps closeBlock := by
  refine keeps_bind keeps_get fun k => ?_
  split
  · exact keeps_fail _
  · refine keeps_bind (keeps_popAll _) fun _ => keeps_bind keeps_get fun k' => ?_
    have rest : ∀ b : OpenBlock, ∀ blocks, Keeps (do
        modify fun k : Checker => { k with
          operands := b.outer, unreachable := b.outerUnreachable, unset := b.outerUnset, blocks }
        return b : Check OpenBlock) :=
      fun b blocks => keeps_bind (keeps_modify fun _ => rfl) fun _ => keeps_pure b
    exact keeps_ite (keeps_bind (keeps_fail _) fun _ => rest _ _) (rest _ _)

@[simp] theorem keeps_label (index : Nat) : Keeps (label index) := by
  refine keeps_bind keeps_get fun k => ?_
  split
  · exact keeps_pure _
  · exact keeps_fail _

/-! ## Operators -/

@[simp] theorem keeps_need (feature : Features → Bool) (what : String) : Keeps (need feature what) :=
  keeps_lift _

@[simp] theorem keeps_popRef : Keeps popRef := by
  refine keeps_bind keeps_popAny fun o => ?_
  split <;> simp

@[simp] theorem keeps_apply (params results : List ValType) : Keeps (apply params results) := by
  simp [apply]

@[simp] theorem keeps_localAt (index : Nat) : Keeps (localAt index) := by
  refine keeps_bind keeps_get fun k => ?_
  split <;> simp

@[simp] theorem keeps_setLocal (index : Nat) : Keeps (setLocal index) := keeps_modify fun _ => rfl

@[simp] theorem keeps_map {x : Check α} {f : α → β} (h : Keeps x) : Keeps (f <$> x) :=
  keeps_bind h fun _ => keeps_pure _

@[simp] theorem keeps_address (bytes : Nat) (arg : MemArg) : Keeps (address bytes arg) := by
  refine keeps_bind (keeps_lift _) fun memory => ?_
  repeat' first | simp | apply keeps_ite | apply keeps_bind

@[simp] theorem keeps_memoryIndexType (memory : Nat) : Keeps (memoryIndexType memory) :=
  keeps_bind (keeps_lift _) fun _ => keeps_pure _

@[simp] theorem keeps_dataSegment (segment : Nat) : Keeps (dataSegment segment) := keeps_lift _

/-- What is peeked at stays where it is. -/
@[simp] theorem keeps_peekAll (ts : List ValType) : Keeps (peekAll ts) := by
  intro k a k' h
  obtain ⟨_, _, ⟨⟩, h⟩ := bind_ok_iff.1 h
  obtain ⟨_, _, _, ⟨⟩⟩ := bind_ok_iff.1 h
  rfl

@[simp] theorem keeps_forIn {xs : List α} {b : β} {f : α → β → Check (ForInStep β)}
    (each : ∀ a b, Keeps (f a b)) : Keeps (forIn xs b f) := by
  induction xs generalizing b with
  | nil => exact keeps_pure b
  | cons x xs ih =>
    rw [List.forIn_cons]
    refine keeps_bind (each x b) fun step => ?_
    cases step with
    | done b => exact keeps_pure b
    | yield b => exact ih

@[simp] theorem keeps_brTable (labels : List Nat) (default : Nat) : Keeps (brTable labels default) := by
  refine keeps_bind (keeps_pop _) fun _ => keeps_bind (keeps_label _) fun types => ?_
  refine keeps_bind (keeps_forIn fun l _ => ?_) fun _ => by simp
  repeat' first | simp | apply keeps_ite | apply keeps_bind | intro _

@[simp] theorem keeps_select : Keeps select := by
  refine keeps_bind (keeps_pop _) fun _ => keeps_bind keeps_popAny fun a => keeps_bind keeps_popAny fun b =>
    keeps_ite (keeps_bind (keeps_fail _) fun _ => ?_) ?_
  all_goals
    dsimp only
    split
    case h_3 => exact keeps_ite (keeps_push _) (keeps_fail _)
    all_goals exact keeps_push _

theorem onVariables?_keeps {op : Operator} {x : Check Unit} (h : onVariables? op = some x) : Keeps x := by
  cases op <;> simp only [onVariables?, reduceCtorEq, Option.some.injEq] at h <;> subst h
  all_goals repeat' first | simp | apply keeps_ite | apply keeps_bind | intro _

theorem onTables?_keeps {op : Operator} {x : Check Unit} (h : onTables? op = some x) : Keeps x := by
  cases op <;> simp only [onTables?, reduceCtorEq, Option.some.injEq] at h <;> subst h
  all_goals repeat' first | simp | apply keeps_ite | apply keeps_bind | intro _

theorem onMemories?_keeps {op : Operator} {x : Check Unit} (h : onMemories? op = some x) : Keeps x := by
  cases op <;> simp only [onMemories?, reduceCtorEq, Option.some.injEq] at h <;> subst h
  all_goals repeat' first | simp | apply keeps_ite | apply keeps_bind

theorem onVectors?_keeps {op : Operator} {x : Check Unit} (h : onVectors? op = some x) : Keeps x := by
  cases op <;> simp only [onVectors?, reduceCtorEq, Option.some.injEq] at h <;> subst h
  all_goals repeat' first | simp | apply keeps_ite | apply keeps_bind

theorem onValues?_keeps {op : Operator} {x : Check Unit} (h : onValues? op = some x) : Keeps x := by
  cases op <;> simp only [onValues?, reduceCtorEq, Option.some.injEq] at h <;> subst h
  case nop => exact keeps_pure ()
  case drop => exact keeps_bind keeps_popAny fun _ => keeps_pure ()
  case select => exact keeps_select
  case selectTyped t =>
    exact keeps_bind (keeps_need _ _) fun _ => keeps_bind (keeps_lift _) fun _ => keeps_apply _ _
  case const c => exact keeps_ite (keeps_bind (keeps_need _ _) fun _ => keeps_push _) (keeps_push _)
  case refNull heap => exact keeps_bind (keeps_lift _) fun _ => keeps_push _
  case refIsNull => exact keeps_bind (keeps_need _ _) fun _ => keeps_bind keeps_popRef fun _ => keeps_push _
  case refFunc func =>
    refine keeps_bind (keeps_need _ _) fun _ => keeps_bind (keeps_lift _) fun type => ?_
    exact keeps_bind keeps_get fun k =>
      keeps_ite (keeps_bind (keeps_fail _) fun _ => keeps_push _) (keeps_push _)
  case numeric op => exact keeps_apply _ _

@[simp] theorem keeps_blockType (t : BlockType) : Keeps (blockType t) := by
  cases t with
  | empty => exact keeps_pure ()
  | value v => exact keeps_lift fun c => c.checkValue v
  | func _ =>
    exact keeps_bind (keeps_need _ _) fun _ => keeps_bind (keeps_lift _) fun _ => keeps_lift _

theorem control_keeps (op : Operator) : Keeps (control op) := by
  have opened : ∀ (kind : BlockKind) (type : FuncType), Keeps (do popAll type.params; openBlock kind type) :=
    fun _ _ => keeps_bind (keeps_popAll _) fun _ => keeps_openBlock _ _
  cases op <;> try exact keeps_fail _
  case unreachable => exact keeps_setUnreachable
  case block t => exact keeps_bind (keeps_lift _) fun _ => opened _ _
  case loop t => exact keeps_bind (keeps_lift _) fun _ => opened _ _
  case ifThen t => exact keeps_bind (keeps_lift _) fun _ => keeps_bind (keeps_pop _) fun _ => opened _ _
  case otherwise =>
    refine keeps_bind keeps_closeBlock fun b => ?_
    exact keeps_ite (keeps_bind (keeps_fail _) fun _ => keeps_openBlock _ _) (keeps_openBlock _ _)
  case close =>
    refine keeps_bind keeps_closeBlock fun b => ?_
    have rest : Keeps (if b.kind ≠ .body then pushAll b.type.results else pure ()) :=
      keeps_ite (keeps_pushAll _) (keeps_pure ())
    exact keeps_ite (keeps_bind (keeps_openBlock _ _) fun _ => keeps_bind keeps_closeBlock fun _ => rest) rest
  case br l =>
    exact keeps_bind (keeps_label _) fun _ => keeps_bind (keeps_popAll _) fun _ => keeps_setUnreachable
  case brIf l =>
    exact keeps_bind (keeps_pop _) fun _ => keeps_bind (keeps_label _) fun _ => keeps_apply _ _
  case brTable labels default => exact keeps_brTable _ _
  case ret =>
    refine keeps_bind keeps_get fun k => ?_
    split
    · exact keeps_bind (keeps_popAll _) fun _ => keeps_setUnreachable
    · exact keeps_fail _
  case call func => exact keeps_bind (keeps_lift _) fun _ => keeps_apply _ _
  case callIndirect type table =>
    refine keeps_bind (keeps_lift _) fun t => keeps_bind keeps_get fun k => ?_
    have rest : Keeps (do
        pop (indexType t.is64)
        let type ← lift (·.funcTypeAt type)
        apply type.params type.results) :=
      keeps_bind (keeps_pop _) fun _ => keeps_bind (keeps_lift _) fun _ => keeps_apply _ _
    exact keeps_ite (keeps_bind (keeps_fail _) fun _ => rest) rest

/-! ## Operators of further proposals -/

@[simp] theorem keeps_popRepeated (t : ValType) : ∀ count, Keeps (popRepeated t count)
  | 0 => keeps_pure ()
  | count + 1 => keeps_bind (keeps_pop t) fun _ => keeps_popRepeated t count

@[simp] theorem keeps_convert (source target : AbstractHeap) : Keeps (convert source target) := by
  refine keeps_bind keeps_popRef fun o => keeps_bind keeps_get fun k => ?_
  dsimp only
  split
  · exact keeps_bind (keeps_fail _) fun _ => by split <;> simp
  · split <;> simp

@[simp] theorem keeps_labelWithRef (index : Nat) : Keeps (labelWithRef index) := by
  refine keeps_bind (keeps_label _) fun ts => ?_
  split <;> simp

@[simp] theorem keeps_castBranch (label : Nat) (source carried left : RefType) :
    Keeps (castBranch label source carried left) := by
  refine keeps_bind (keeps_labelWithRef _) fun _ => ?_
  repeat' first | simp | apply keeps_ite | apply keeps_bind | intro _

@[simp] theorem keeps_checkCast (source target : RefType) : Keeps (checkCast source target) := by
  repeat' first | simp | apply keeps_ite | apply keeps_bind

@[simp] theorem keeps_carries (actual expected : List ValType) : Keeps (carries actual expected) := by
  repeat' first | simp | apply keeps_ite | apply keeps_bind

@[simp] theorem keeps_handler (h : Catch) : Keeps (handler h) := by
  cases h <;> repeat' first | simp | apply keeps_bind

@[simp] theorem keeps_returnTo (type : FuncType) : Keeps (returnTo type) := by
  have returned : Keeps (returns type.results) := by
    refine keeps_bind keeps_get fun k => ?_
    split <;> simp
  exact keeps_bind returned fun _ => keeps_bind (keeps_popAll _) fun _ => keeps_setUnreachable

theorem proposed_keeps (op : Proposed) : Keeps (proposed op) := by
  refine keeps_bind (keeps_need _ _) fun _ => ?_
  cases op
  case returnCall => exact keeps_bind (keeps_lift _) fun _ => keeps_returnTo _
  case returnCallIndirect type table =>
    refine keeps_bind (keeps_lift _) fun t => keeps_bind keeps_get fun k => ?_
    have rest : Keeps (do
        pop (indexType t.is64)
        returnTo (← lift (·.funcTypeAt type))) :=
      keeps_bind (keeps_pop _) fun _ => keeps_bind (keeps_lift _) fun _ => keeps_returnTo _
    exact keeps_ite (keeps_bind (keeps_fail _) fun _ => rest) rest
  case returnCallRef => exact keeps_bind (keeps_pop _) fun _ => keeps_bind (keeps_lift _) fun _ => keeps_returnTo _
  case refAsNonNull => exact keeps_bind keeps_popRef fun _ => keeps_push _
  case brOnNull =>
    exact keeps_bind keeps_popRef fun _ => keeps_bind (keeps_label _) fun _ =>
      keeps_bind (keeps_apply _ _) fun _ => keeps_push _
  case brOnNonNull =>
    exact keeps_bind (keeps_labelWithRef _) fun _ => keeps_bind (keeps_pop _) fun _ => keeps_apply _ _
  case throw => exact keeps_bind (keeps_lift _) fun _ => keeps_bind (keeps_popAll _) fun _ => keeps_setUnreachable
  case throwRef => exact keeps_bind (keeps_pop _) fun _ => keeps_setUnreachable
  case tryTable =>
    exact keeps_bind (keeps_blockType _) fun _ => keeps_bind (keeps_lift _) fun _ =>
      keeps_bind (keeps_popAll _) fun _ => keeps_bind (keeps_forM keeps_handler _) fun _ => keeps_openBlock _ _
  case arrayNewFixed =>
    exact keeps_bind (keeps_lift _) fun _ => keeps_bind (keeps_popRepeated _ _) fun _ => keeps_push _
  case brOnCast | brOnCastFail => exact keeps_bind (keeps_checkCast _ _) fun _ => keeps_castBranch _ _ _ _
  case anyConvertExtern | externConvertAny => exact keeps_convert _ _
  -- the others take and leave what their immediates say
  all_goals exact keeps_bind (keeps_lift _) fun _ => keeps_apply _ _

/-- What an operator does to the stack, behind the checks that are made for any. -/
def onStack (op : Operator) : Check Unit :=
  match onVariables? op <|> onTables? op <|> onMemories? op <|> onVectors? op <|> onValues? op with
  | some check => check
  | none =>
    match op with
    | .proposed op => proposed op
    | op => control op

theorem keeps_onStack (op : Operator) : Keeps (onStack op) := by
  unfold onStack
  cases found : (onVariables? op <|> onTables? op <|> onMemories? op <|> onVectors? op <|> onValues? op) with
  | some check =>
    simp only [Option.orElse_eq_orElse, Option.orElse_eq_or, Option.or_eq_some_iff] at found
    rcases found with found | ⟨-, found | ⟨-, found | ⟨-, found | ⟨-, found⟩⟩⟩⟩
    · exact onVariables?_keeps found
    · exact onTables?_keeps found
    · exact onMemories?_keeps found
    · exact onVectors?_keeps found
    · exact onValues?_keeps found
  | none =>
    dsimp only
    split
    · exact proposed_keeps _
    · exact control_keeps _

/-- **Every operator is checked in the context of its body.** -/
theorem operator_keeps (op : Operator) : Keeps (operator op) := by
  refine keeps_bind keeps_get fun k => keeps_ite (keeps_bind (keeps_fail _) fun _ => ?_) ?_
  all_goals
    dsimp only
    split
    case h_1 t => exact keeps_bind (keeps_blockType t) fun _ => keeps_onStack (.block t)
    case h_2 t => exact keeps_bind (keeps_blockType t) fun _ => keeps_onStack (.loop t)
    case h_3 t => exact keeps_bind (keeps_blockType t) fun _ => keeps_onStack (.ifThen t)
    case h_4 => exact keeps_onStack op

/-- A global that is set is there and mutable. -/
theorem operator_globalSet {index : Nat} {k : Checker} {r : Unit × Checker}
    (h : operator (.globalSet index) k = .ok r) :
    ∃ g, k.context.globals[index]? = some g ∧ g.isMutable := by
  obtain ⟨_, _, ⟨⟩, h⟩ := bind_ok_iff.1 h
  have onVariable : ((do
      let g ← lift (·.globalAt index)
      if !g.isMutable then fail .immutable
      pop g.content) : Check Unit) k = .ok r := by
    split at h
    · obtain ⟨_, _, failed, _⟩ := bind_ok_iff.1 h
      cases failed
    · exact h
  obtain ⟨g, k', found, rest⟩ := bind_ok_iff.1 onVariable
  refine ⟨g, Context.getElem?_of_lookUp (lift_ok_iff.1 found).1, ?_⟩
  cases mutable : g.isMutable with
  | true => rfl
  | false =>
    rw [mutable] at rest
    obtain ⟨_, _, failed, _⟩ := bind_ok_iff.1 rest
    cases failed

/-- Operators that are checked one after another are all checked in the same context. -/
theorem forM_operator : ∀ {ops : List Operator} {k : Checker} {r : Unit × Checker},
    ops.forM operator k = .ok r → ∀ op ∈ ops, ∃ k' r', k'.context = k.context ∧ operator op k' = .ok r'
  | [], _, _, _ => nofun
  | op :: ops, k, r, h => by
    obtain ⟨_, between, first, rest⟩ := bind_ok_iff.1 h
    refine List.forall_mem_cons.2 ⟨⟨k, _, rfl, first⟩, fun op' mem => ?_⟩
    obtain ⟨k', r', same, checked⟩ := forM_operator rest op' mem
    exact ⟨k', r', same.trans (operator_keeps op k _ between first), checked⟩

end Check

/-- **A body sets only globals that are mutable.** -/
theorem Context.checkBody_globalSet {c : Context} {type : FuncType} {body : Body}
    (h : c.checkBody type body = .ok ()) {index : Nat} (mem : .globalSet index ∈ body.operators) :
    ∃ g, c.globals[index]? = some g ∧ g.isMutable := by
  simp only [checkBody, bind_eq_ok_iff] at h
  obtain ⟨declared, _, r, checked, _⟩ := h
  obtain ⟨_, opened, first, checked⟩ := Check.bind_ok_iff.1 checked
  obtain ⟨_, _, operators, _⟩ := Check.bind_ok_iff.1 checked
  obtain ⟨k, r, same, set⟩ := Check.forM_operator operators _ mem
  have context : k.context = c := same.trans (Check.keeps_openBlock _ _ _ _ _ first)
  rw [← context]
  exact Check.operator_globalSet set

end WasmLens.Wasm
