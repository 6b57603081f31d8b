import WasmLens.Proofs.Machine.Image
import WasmLens.Proofs.Machine.Typing
import WasmLens.Proofs.Wasm.Operands

/-!
# Checked bodies are typed

Two walks go over the operators of a body: the check, against a stack of types, and the assembly into structured code.
Set against each other, **the code assembled so far leads to the operands that the check knows of**, at every level of
open blocks (`Code.Leads`, `Nested`). So a body that has been checked can be assembled, and its code is typed
(`Code.assembleFrom_typed`, `checkBody_typed`).
-/
namespace WasmLens.Machine

open Wasm Wasm.Check

/-! ## Where code leads -/

/-- **How far code has led**: to operands that are known, some taken off them, or to nowhere. -/
inductive Code.Leads (c : Context) (locals : List Kind) (labels : List (List Kind)) (start : List Kind)
    (done : List Code) (taken : List Kind) (operands : List Operand) : (unreachable : Bool) → Prop where
  | on {kinds : List Kind} (known : operands.map Operand.kind? = kinds.map some)
      (typed : Code.Typed c locals labels done.reverse start (taken ++ kinds)) :
      Leads c locals labels start done taken operands false
  | nowhere (typed : ∀ rest after, Code.Typed c locals labels (done.reverse ++ rest) start after) :
      Leads c locals labels start done taken operands true

variable {c : Context} {locals start results : List Kind} {labels : List (List Kind)} {k k' : Checker}
  {done : List Code} {returns : List ValType}

namespace Code

theorem Leads.taken {takes : List Kind} (h : Leads c locals labels start done [] k.operands k.unreachable)
    (moves : k.Moves k' takes []) : Leads c locals labels start done takes k'.operands k'.unreachable := by
  have unreachable : k'.unreachable = k.unreachable := by rw [moves.frame]
  generalize reached : k.unreachable = u at h unreachable
  rw [unreachable]
  cases h with
  | on known typed =>
    obtain ⟨rest, rfl, knows⟩ := moves.known _ ⟨reached, known⟩
    exact .on knows.operands typed
  | nowhere typed => exact .nowhere typed

/-- Code that turns what has been taken into something else goes on from there. -/
theorem Leads.then {takes leaves : List Kind} {operands : List Operand} {u : Bool} {piece : Code}
    (h : Leads c locals labels start done takes operands u)
    (typed : ∀ rest, Code.Typed c locals labels [piece] (takes ++ rest) (leaves ++ rest)) :
    Leads c locals labels start (piece :: done) leaves operands u := by
  cases h with
  | on known before =>
    refine .on known ?_
    rw [List.reverse_cons]
    exact before.append (typed _)
  | nowhere before =>
    refine .nowhere fun rest after => ?_
    rw [List.reverse_cons, List.append_assoc]
    exact before _ _

/-- Operands that are left come on top of the others. -/
theorem Leads.left {types : List ValType} {operands : List Operand} {u : Bool}
    (h : Leads c locals labels start done (stackOf types) operands u) :
    Leads c locals labels start done [] ((types.map Operand.known).reverse ++ operands) u := by
  cases h with
  | @on kinds known typed =>
    have together : ((types.map Operand.known).reverse ++ operands).map Operand.kind? =
        (stackOf types ++ kinds).map some := by
      rw [List.map_append, List.map_append, map_kind_pushed, known]
    exact .on together typed
  | nowhere typed => exact .nowhere typed

/-- An operator has led from one stack to another. -/
theorem Leads.moved {takes leaves : List Kind} {piece : Code}
    (h : Leads c locals labels start done [] k.operands k.unreachable) (moves : k.Moves k' takes leaves)
    (typed : ∀ rest, Code.Typed c locals labels [piece] (takes ++ rest) (leaves ++ rest)) :
    Leads c locals labels start (piece :: done) [] k'.operands k'.unreachable := by
  have unreachable : k'.unreachable = k.unreachable := by rw [moves.frame]
  generalize reached : k.unreachable = u at h unreachable
  rw [unreachable]
  cases h with
  | on known before =>
    obtain ⟨rest, rfl, knows⟩ := moves.known _ ⟨reached, known⟩
    refine .on knows.operands ?_
    rw [List.reverse_cons]
    exact before.append (typed rest)
  | nowhere before =>
    refine .nowhere fun rest after => ?_
    rw [List.reverse_cons, List.append_assoc]
    exact before _ _

/-- An operator has led nowhere. -/
theorem Leads.ended {piece : Code} (h : Leads c locals labels start done [] k.operands k.unreachable) (ends : Ends k k')
    (typed : ∀ kinds, k.Knows kinds → ∀ code after, Code.Typed c locals labels (piece :: code) kinds after) :
    Leads c locals labels start (piece :: done) [] k'.operands k'.unreachable := by
  rw [show k'.unreachable = true by rw [ends]]
  refine .nowhere fun code after => ?_
  rw [List.reverse_cons, List.append_assoc]
  generalize reached : k.unreachable = u at h
  cases h with
  | on known before => exact before.append (typed _ ⟨reached, known⟩ code after)
  | nowhere before => exact before _ _

end Code

/-! ## Blocks that are open -/

/-- What a branch to each of the open blocks carries. -/
def labelsOf (blocks : List OpenBlock) : List (List Kind) := blocks.map fun b => stackOf b.labelTypes

/-- What a block takes besides its parameters. -/
def Opening.condition : Opening → List Kind
  | .block | .loop => []
  | .ifThen | .otherwise _ => [.i32]

/-- Both walks have opened the same kind of block, and a first branch that is complete is typed. -/
inductive Opened (c : Context) (locals : List Kind) (labels : List (List Kind)) (t : FuncType) :
    Opening → BlockKind → Prop where
  | block : Opened c locals labels t .block .block
  | loop : Opened c locals labels t .loop .loop
  | ifThen : Opened c locals labels t .ifThen .ifThen
  | otherwise {yes : List Code}
      (first : Code.Typed c locals (stackOf t.results :: labels) yes (stackOf t.params) (stackOf t.results)) :
      Opened c locals labels t (.otherwise yes) .otherwise

/-- **Both walks are inside the same blocks**, and at every level the code before the block has led to its
parameters. The operands at the start of the innermost block are the index. -/
inductive Nested (c : Context) (locals : List Kind) (results : List ValType) :
    List Scope → List OpenBlock → (start : List Kind) → Prop where
  | body {b : OpenBlock} (kind : b.kind = .body) (type : b.type = ⟨[], results⟩) :
      Nested c locals results [] [b] []
  | inner {s : Scope} {b : OpenBlock} {scopes : List Scope} {blocks : List OpenBlock} {start : List Kind}
      (opened : Opened c locals (labelsOf blocks) b.type s.opening b.kind) (arity : s.arity = .ofType b.type)
      (before : Code.Leads c locals (labelsOf blocks) start s.before (s.opening.condition ++ stackOf b.type.params)
        b.outer b.outerUnreachable)
      (outer : Nested c locals results scopes blocks start) :
      Nested c locals results (s :: scopes) (b :: blocks) (stackOf b.type.params)

theorem labelsOf_getElem? {blocks : List OpenBlock} {l : Nat} {b : OpenBlock} (h : blocks[l]? = some b) :
    (labelsOf blocks)[l]? = some (stackOf b.labelTypes) := by
  rw [labelsOf, List.getElem?_map, h, Option.map_some]

/-- A closed block is typed if the code inside it is. -/
theorem Opened.close {t : FuncType} {s : Scope} {kind : BlockKind} (h : Opened c locals labels t s.opening kind)
    (arity : s.arity = .ofType t) {carried : List ValType}
    (carries : carried = if kind = .loop then t.params else t.results) {body : List Code}
    (inside : Code.Typed c locals (stackOf carried :: labels) body (stackOf t.params) (stackOf t.results))
    (alone : kind = .ifThen → stackOf t.params = stackOf t.results) (rest : List Kind) :
    Code.Typed c locals labels [s.close body] (s.opening.condition ++ stackOf t.params ++ rest)
      (stackOf t.results ++ rest) := by
  obtain ⟨opening, _, before⟩ := s
  dsimp only at h arity ⊢
  subst arity carries
  cases h with
  | block => exact .block inside .nil
  | loop => exact .loop inside .nil
  | ifThen =>
    refine .branch inside ?_ .nil
    rw [alone rfl]
    exact .nil
  | otherwise first => exact .branch first inside .nil

/-- The code of a block that can be closed has led to its results. -/
theorem Code.Leads.closed (h : Code.Leads c locals labels start done [] k.operands k.unreachable)
    (finished : ∀ kinds, k.Knows kinds → kinds = results) : Code.Typed c locals labels done.reverse start results := by
  generalize reached : k.unreachable = u at h
  cases h with
  | on known typed =>
    rw [← finished _ ⟨reached, known⟩]
    exact typed
  | nowhere typed =>
    have typed := typed [] results
    rwa [List.append_nil] at typed

/-- The outermost block is that of the body. -/
theorem Nested.outermost {scopes : List Scope} {blocks : List OpenBlock}
    (nested : Nested c locals returns scopes blocks start) {b : OpenBlock} (last : blocks.getLast? = some b) :
    b.kind = .body := by
  induction nested with
  | body kind =>
    cases last
    exact kind
  | inner _ _ _ outer ih =>
    cases outer with
    | body => exact ih last
    | inner => exact ih last

/-! ## Both walks -/

/-- **Both walks have come to the same place** of a body. -/
structure Together (c : Context) (locals : List Kind) (returns : List ValType) (scopes : List Scope) (done : List Code)
    (k : Checker) : Prop where
  context : k.context = c
  values : k.locals.toList.map ValType.kind = locals
  walks : ∃ start, Code.Leads c locals (labelsOf k.blocks) start done [] k.operands k.unreachable ∧
    Nested c locals returns scopes k.blocks start

namespace Together

variable {scopes : List Scope} {r : Unit × Checker}

/-- Both walks open a block of one type. -/
theorem opened {arityOf : BlockType → Option Arity} {opening : Opening} {kind : BlockKind} {t : BlockType}
    (h : Together c locals returns scopes done k)
    (agree : ∀ type, c.blockTypeAt t = .ok type → arityOf t = some (.ofType type))
    (opens : ∃ type, k.context.blockTypeAt t = .ok type ∧
      Opens kind type (opening.condition ++ stackOf type.params) k k')
    (same : ∀ type, Opened c locals (labelsOf k.blocks) type opening kind) :
    ∃ a, arityOf t = some a ∧ Together c locals returns (⟨opening, a, done⟩ :: scopes) [] k' := by
  obtain ⟨type, blockType, k₁, moves, rfl⟩ := opens
  obtain ⟨context, values, start, leads, nested⟩ := h
  have opened := same type
  obtain ⟨sameContext, sameLocals, sameBlocks⟩ := moves.stays
  refine ⟨.ofType type, agree type (context ▸ blockType), sameContext.trans context, ?_, stackOf type.params,
    .on (map_kind_pushed _) .nil, ?_⟩
  · rw [← values, ← sameLocals]
  · have before := leads.taken moves
    rw [← sameBlocks] at before nested opened
    exact .inner opened rfl before nested

/-- Both walks close a block. -/
theorem closed {s : Scope} (h : Together c locals returns (s :: scopes) done k) (ran : control .close k = .ok r) :
    Together c locals returns scopes (s.close done.reverse :: s.before) r.2 := by
  obtain ⟨context, values, start, leads, nested⟩ := h
  obtain ⟨b, blocks, found, finished, alone, after⟩ := control_close ran
  rw [found] at nested leads
  cases nested with
  | @inner _ _ _ _ outer opened arity before around =>
    have inner : b.kind ≠ .body := by
      intro body
      rw [body] at opened
      generalize s.opening = opening at opened
      cases opened
    rw [after, if_neg inner]
    exact ⟨context, values, outer, (before.then (opened.close arity rfl (leads.closed finished) alone)).left, around⟩

/-- Both walks turn to the second branch. -/
theorem turned {a : Arity} {before : List Code} (h : Together c locals returns (⟨.ifThen, a, before⟩ :: scopes) done k)
    (ran : control .otherwise k = .ok r) :
    Together c locals returns (⟨.otherwise done.reverse, a, before⟩ :: scopes) [] r.2 := by
  obtain ⟨context, values, start, leads, nested⟩ := h
  obtain ⟨b, blocks, found, finished, ifThen, after⟩ := control_otherwise ran
  rw [found] at nested leads
  rw [after]
  cases nested with
  | inner opened arity before around =>
    have first := leads.closed finished
    have carries : stackOf b.labelTypes = stackOf b.type.results := by
      rw [OpenBlock.labelTypes, ifThen]
      rfl
    rw [labelsOf, List.map_cons, carries] at first
    exact ⟨context, values, _, .on (map_kind_pushed _) .nil,
      .inner (b := { b with kind := .otherwise }) (.otherwise first) arity before around⟩

/-- Where the check turns to a second branch, there is a first one to turn from. -/
theorem turns (h : Together c locals returns scopes done k) (ran : control .otherwise k = .ok r) :
    ∃ a before outer, scopes = ⟨.ifThen, a, before⟩ :: outer := by
  obtain ⟨_, _, start, _, nested⟩ := h
  obtain ⟨b, blocks, found, _, ifThen, _⟩ := control_otherwise ran
  rw [found] at nested
  cases nested with
  | body kind =>
    rw [ifThen] at kind
    cases kind
  | @inner s _ scopes _ _ opened =>
    obtain ⟨opening, a, before⟩ := s
    rw [ifThen] at opened
    cases opened
    exact ⟨a, before, scopes, rfl⟩

/-- Both walks are inside the body until it is closed. -/
theorem inside (h : Together c locals returns scopes done k) : k.blocks ≠ [] := by
  obtain ⟨_, _, start, _, nested⟩ := h
  intro none
  rw [none] at nested
  cases nested

/-- Behind the end of the body, no block is open. -/
theorem left (h : Together c locals returns [] done k) (ran : control .close k = .ok r) : r.2.blocks = [] := by
  obtain ⟨_, _, start, _, nested⟩ := h
  obtain ⟨b, blocks, found, _, _, after⟩ := control_close ran
  rw [found] at nested
  rw [after]
  cases nested
  rfl

/-- **An operator that opens and closes no block** has led somewhere else in the same blocks, or nowhere. -/
theorem operator {op : Operator} (h : Together c locals returns scopes done k) (ran : onStack op k = .ok r)
    (other : ∀ t, op ≠ .block t ∧ op ≠ .loop t ∧ op ≠ .ifThen t)
    (inside : op ≠ .otherwise ∧ op ≠ .close) (runs : ∀ p, op ≠ .proposed p) :
    Together c locals returns scopes (.plain op :: done) r.2 := by
  obtain ⟨context, values, start, leads, nested⟩ := h
  have led (stays : k.Stays r.2)
      (onward : Code.Leads c locals (labelsOf k.blocks) start (.plain op :: done) [] r.2.operands r.2.unreachable) :
      Together c locals returns scopes (.plain op :: done) r.2 := by
    refine ⟨stays.context.trans context, ?_, start, ?_, ?_⟩
    · rw [stays.locals, values]
    · rwa [stays.blocks]
    · rwa [stays.blocks]
  rcases onStack_moves ran with ⟨takes, leaves, turns, moves⟩ | ran | ⟨p, rfl⟩
  · rw [context, values] at turns
    exact led moves.stays (leads.moved moves fun rest => .plain turns .nil)
  · cases op with
    | block t => exact absurd rfl (other t).1
    | loop t => exact absurd rfl (other t).2.1
    | ifThen t => exact absurd rfl (other t).2.2
    | otherwise => exact absurd rfl inside.1
    | close => exact absurd rfl inside.2
    | unreachable =>
      have ends := setUnreachable_ends ran
      exact led ends.stays (leads.ended ends fun _ _ _ _ => .unreachable)
    | br l =>
      obtain ⟨⟨b, found, demands⟩, ends⟩ := control_br ran
      refine led ends.stays (leads.ended ends fun kinds knows code after => ?_)
      obtain ⟨rest, rfl⟩ := demands kinds knows
      exact .br (labelsOf_getElem? found)
    | brIf l =>
      obtain ⟨b, found, moves⟩ := control_brIf ran
      exact led moves.stays (leads.moved moves fun _ => .brIf (labelsOf_getElem? found) .nil)
    | brTable ls default =>
      obtain ⟨carries, ends⟩ := control_brTable ran
      refine led ends.stays (leads.ended ends fun kinds knows code after => ?_)
      obtain ⟨b, _, demands⟩ := carries default List.mem_cons_self
      obtain ⟨rest, rfl⟩ := demands kinds knows
      refine .brTable fun l mem => ?_
      obtain ⟨b', found, demandsToo⟩ := carries l mem
      obtain ⟨rest', same⟩ := demandsToo _ knows
      exact ⟨_, rest', labelsOf_getElem? found, List.tail_eq_of_cons_eq same⟩
    | ret =>
      obtain ⟨⟨b, found, demands⟩, ends⟩ := control_ret ran
      refine led ends.stays (leads.ended ends fun kinds knows code after => ?_)
      obtain ⟨rest, rfl⟩ := demands kinds knows
      refine .ret ?_
      rw [labelsOf, List.getLast?_map, found, Option.map_some, OpenBlock.labelTypes, nested.outermost found]
      rfl
    | call func =>
      obtain ⟨t, callee, moves⟩ := control_call ran
      rw [context] at callee
      exact led moves.stays (leads.moved moves fun _ => .call callee .nil)
    | callIndirect type table =>
      obtain ⟨t, index, callee, moves⟩ := control_callIndirect ran
      rw [context] at callee
      exact led moves.stays (leads.moved moves fun _ => .callIndirect callee .nil)
    | _ => cases ran
  · exact absurd rfl (runs p)

end Together

/-- **Checked operators can be assembled, and their code is typed**, once all blocks are closed. Operators of further
proposals cannot be assembled; where no such proposal is in force, none of them is checked. -/
theorem Code.assembleFrom_typed {arityOf : BlockType → Option Arity} {ops : List Operator} {scopes : List Scope}
    {r : Unit × Checker} (agree : ∀ t type, c.blockTypeAt t = .ok type → arityOf t = some (.ofType type))
    (disabled : ∀ op : Proposed, op.isEnabled c.features = false) (checked : ops.forM Check.operator k = .ok r)
    (finished : r.2.blocks = []) (h : Together c locals returns scopes done k) :
    ∃ code, assembleFrom arityOf ops done scopes = some code ∧
      Code.Typed c locals [stackOf returns] code [] (stackOf returns) := by
  fun_induction assembleFrom arityOf ops done scopes generalizing k with
  | case1 =>
    cases checked
    exact absurd finished h.inside
  | case2 done =>
    obtain ⟨_, _, first, _⟩ := bind_ok_iff.1 checked
    obtain ⟨b, blocks, found, results, _⟩ := control_close (operator_ok first).2
    obtain ⟨_, _, start, leads, nested⟩ := h
    rw [found] at nested leads
    cases nested with
    | body kind type =>
      have typed := leads.closed results
      rw [labelsOf, List.map_cons, OpenBlock.labelTypes, kind, type] at typed
      exact ⟨_, rfl, typed⟩
  | case3 ops done scopes t _ ih =>
    obtain ⟨_, k', first, rest⟩ := bind_ok_iff.1 checked
    obtain ⟨a, found, inside⟩ := h.opened (agree t) (control_block (operator_ok first).2) fun _ => .block
    rw [found]
    exact ih a rest inside
  | case4 ops done scopes t _ ih =>
    obtain ⟨_, k', first, rest⟩ := bind_ok_iff.1 checked
    obtain ⟨a, found, inside⟩ := h.opened (agree t) (control_loop (operator_ok first).2) fun _ => .loop
    rw [found]
    exact ih a rest inside
  | case5 ops done scopes t _ ih =>
    obtain ⟨_, k', first, rest⟩ := bind_ok_iff.1 checked
    obtain ⟨a, found, inside⟩ := h.opened (agree t) (control_ifThen (operator_ok first).2) fun _ => .ifThen
    rw [found]
    exact ih a rest inside
  | case6 ops done a before outer _ ih =>
    obtain ⟨_, k', first, rest⟩ := bind_ok_iff.1 checked
    exact ih rest (h.turned (operator_ok first).2)
  | case7 ops done scopes other =>
    obtain ⟨_, _, first, _⟩ := bind_ok_iff.1 checked
    obtain ⟨a, before, outer, rfl⟩ := h.turns (operator_ok first).2
    exact absurd rfl (other a before outer)
  | case8 ops done s outer _ ih =>
    obtain ⟨_, k', first, rest⟩ := bind_ok_iff.1 checked
    exact ih rest (h.closed (operator_ok first).2)
  | case9 ops done more =>
    -- the body is closed, so nothing else is checked
    obtain ⟨_, k', first, rest⟩ := bind_ok_iff.1 checked
    cases ops with
    | nil => exact (more rfl rfl rfl).elim
    | cons op ops =>
      obtain ⟨_, _, second, _⟩ := bind_ok_iff.1 rest
      exact absurd (h.left (operator_ok first).2) (operator_ok second).1
  | case10 ops done scopes op =>
    obtain ⟨_, _, first, _⟩ := bind_ok_iff.1 checked
    have enabled := proposed_enabled (operator_ok first).2
    rw [h.context, disabled op] at enabled
    cases enabled
  | case11 ops done scopes op block loop ifThen otherwise close runs _ ih =>
    obtain ⟨_, k', first, rest⟩ := bind_ok_iff.1 checked
    have plain := h.operator (operator_ok first).2 (fun t => ⟨block t, loop t, ifThen t⟩) ⟨otherwise, close⟩ runs
    exact ih rest plain

/-- What locals start out with is of the kinds of their types. -/
theorem kinds_expandLocals : ∀ {groups : List LocalGroup} {taken : Nat} {types : List ValType},
    expandLocals c taken groups = .ok types →
      types.map ValType.kind = kindsOf (groups.flatMap fun g => List.replicate g.count (Val.zero g.type))
  | [], taken, types, h => by
    cases h
    rfl
  | g :: groups, taken, types, h => by
    simp only [expandLocals, bind_eq_ok_iff, pure_eq_ok_iff] at h
    obtain ⟨_, _, _, _, later, expanded, rfl⟩ := h
    rw [List.flatMap_cons, kindsOf_append, ← kinds_expandLocals expanded, List.map_append, kindsOf]
    simp only [List.map_replicate, Val.kind_zero]

/-- **A checked body has code**, which takes nothing and leaves the results of its function. -/
theorem checkBody_typed {type : FuncType} {b : Body} {arityOf : BlockType → Option Arity}
    (checked : c.checkBody type b = .ok ()) (disabled : ∀ op : Proposed, op.isEnabled c.features = false)
    (agree : ∀ t type, c.blockTypeAt t = .ok type → arityOf t = some (.ofType type)) :
    ∃ code, Code.assemble arityOf b.operators = some code ∧
      Code.Typed c (type.params.map ValType.kind ++ kindsOf (Image.localsOf b)) [stackOf type.results] code []
        (stackOf type.results) := by
  simp only [Context.checkBody, bind_eq_ok_iff] at checked
  obtain ⟨declared, expanded, r, ran, _⟩ := checked
  obtain ⟨_, k, opened, ran⟩ := bind_ok_iff.1 ran
  obtain ⟨_, k', operators, closed⟩ := bind_ok_iff.1 ran
  have opened := openBlock_ok opened
  dsimp only at opened
  subst opened
  refine Code.assembleFrom_typed agree disabled operators (finished_ok closed)
    ⟨rfl, ?_, [], .on (show _ = List.map some [] from rfl) .nil, .body rfl rfl⟩
  rw [Image.localsOf, ← kinds_expandLocals expanded, ← List.map_append]

end WasmLens.Machine
