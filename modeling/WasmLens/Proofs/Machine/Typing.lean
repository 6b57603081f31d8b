import WasmLens.Proofs.Machine.Kinds

/-!
# Typed code

`Code.Typed` says what structured code makes of the kinds on a stack. A state is typed if the code that it runs is,
with the operands at hand, and the code that waits in its blocks and in its callers is typed over what will come to
it (`State.Typed`). **A step leads from typed states to typed states** (`step_typed`), so a call that returns gives
results of the kinds that its function declares (`run_typed`, `call_typed`).
-/
namespace WasmLens.Machine

open Wasm

/-! ## Code -/

/-- **What code makes of the operands of its block.** Each label stands for what a branch to it carries; the last one
is that of the function. Behind what never goes on there may be any code. -/
inductive Code.Typed (c : Context) (locals : List Kind) :
    (labels : List (List Kind)) → List Code → (before after : List Kind) → Prop where
  | nil {labels : List (List Kind)} {kinds : List Kind} : Typed c locals labels [] kinds kinds
  | plain {labels : List (List Kind)} {op : Operator} {code : List Code} {takes leaves rest after : List Kind}
      (turns : op.Turns c locals takes leaves) (behind : Typed c locals labels code (leaves ++ rest) after) :
      Typed c locals labels (.plain op :: code) (takes ++ rest) after
  | unreachable {labels : List (List Kind)} {code : List Code} {before after : List Kind} :
      Typed c locals labels (.plain .unreachable :: code) before after
  | br {labels : List (List Kind)} {l : Nat} {code : List Code} {carried rest after : List Kind}
      (target : labels[l]? = some carried) : Typed c locals labels (.plain (.br l) :: code) (carried ++ rest) after
  | brIf {labels : List (List Kind)} {l : Nat} {code : List Code} {carried rest after : List Kind}
      (target : labels[l]? = some carried) (behind : Typed c locals labels code (carried ++ rest) after) :
      Typed c locals labels (.plain (.brIf l) :: code) (.i32 :: (carried ++ rest)) after
  | brTable {labels : List (List Kind)} {ls : List Nat} {default : Nat} {code : List Code} {before after : List Kind}
      (targets : ∀ l ∈ default :: ls, ∃ carried rest, labels[l]? = some carried ∧ before = carried ++ rest) :
      Typed c locals labels (.plain (.brTable ls default) :: code) (.i32 :: before) after
  | ret {labels : List (List Kind)} {code : List Code} {results rest after : List Kind}
      (outermost : labels.getLast? = some results) :
      Typed c locals labels (.plain .ret :: code) (results ++ rest) after
  | call {labels : List (List Kind)} {func : Nat} {t : FuncType} {code : List Code} {rest after : List Kind}
      (callee : c.typeOfFunction func = .ok t)
      (behind : Typed c locals labels code (stackOf t.results ++ rest) after) :
      Typed c locals labels (.plain (.call func) :: code) (stackOf t.params ++ rest) after
  | callIndirect {labels : List (List Kind)} {type table : Nat} {index : Kind} {t : FuncType} {code : List Code}
      {rest after : List Kind} (callee : c.funcTypeAt type = .ok t)
      (behind : Typed c locals labels code (stackOf t.results ++ rest) after) :
      Typed c locals labels (.plain (.callIndirect type table) :: code) (index :: (stackOf t.params ++ rest)) after
  | block {labels : List (List Kind)} {t : FuncType} {body code : List Code} {rest after : List Kind}
      (inside : Typed c locals (stackOf t.results :: labels) body (stackOf t.params) (stackOf t.results))
      (behind : Typed c locals labels code (stackOf t.results ++ rest) after) :
      Typed c locals labels (.block t.params.length t.results.length body :: code) (stackOf t.params ++ rest) after
  | loop {labels : List (List Kind)} {t : FuncType} {body code : List Code} {rest after : List Kind}
      (inside : Typed c locals (stackOf t.params :: labels) body (stackOf t.params) (stackOf t.results))
      (behind : Typed c locals labels code (stackOf t.results ++ rest) after) :
      Typed c locals labels (.loop t.params.length body :: code) (stackOf t.params ++ rest) after
  | branch {labels : List (List Kind)} {t : FuncType} {yes no code : List Code} {rest after : List Kind}
      (first : Typed c locals (stackOf t.results :: labels) yes (stackOf t.params) (stackOf t.results))
      (second : Typed c locals (stackOf t.results :: labels) no (stackOf t.params) (stackOf t.results))
      (behind : Typed c locals labels code (stackOf t.results ++ rest) after) :
      Typed c locals labels (.branch t.params.length t.results.length yes no :: code)
        (.i32 :: (stackOf t.params ++ rest)) after

namespace Code

variable {c : Context} {locals : List Kind} {labels : List (List Kind)}

/-- Code goes on where the code before it has led to. -/
theorem Typed.append {first second : List Code} {before between after : List Kind}
    (h : Typed c locals labels first before between) (behind : Typed c locals labels second between after) :
    Typed c locals labels (first ++ second) before after := by
  induction h with
  | nil => exact behind
  | plain turns _ ih => exact .plain turns (ih behind)
  | unreachable => exact .unreachable
  | br target => exact .br target
  | brIf target _ ih => exact .brIf target (ih behind)
  | brTable targets => exact .brTable targets
  | ret outermost => exact .ret outermost
  | call callee _ ih => exact .call callee (ih behind)
  | callIndirect callee _ ih => exact .callIndirect callee (ih behind)
  | block inside _ _ ih => exact .block inside (ih behind)
  | loop inside _ _ ih => exact .loop inside (ih behind)
  | branch first second _ _ _ ih => exact .branch first second (ih behind)

end Code

/-! ## States -/

def kindsOf (values : List Val) : List Kind := values.map Val.kind

/-- **The blocks that are being run**, with the labels of their code. The code of the innermost one will end with some
operands; what the outermost one ends with are the results of the function. -/
inductive Labels (c : Context) (locals results : List Kind) : List Label → List (List Kind) → List Kind → Prop where
  | outermost : Labels c locals results [] [results] results
  | inside {l : Label} {ls : List Label} {labels : List (List Kind)} {carried ends after : List Kind}
      (arity : l.arity = carried.length)
      (target : Code.Typed c locals labels l.target (carried ++ kindsOf l.below) after)
      (rest : Code.Typed c locals labels l.rest (ends ++ kindsOf l.below) after)
      (outer : Labels c locals results ls labels after) : Labels c locals results (l :: ls) (carried :: labels) ends

/-- **A frame is typed** once some operands have come on top of its stack. -/
structure Frame.Typed (c : Context) (f : Frame) (results coming : List Kind) : Prop where
  arity : f.results = results.length
  runs : ∃ labels after, Labels c (kindsOf f.locals.toList) results f.labels labels after ∧
    Code.Typed c (kindsOf f.locals.toList) labels f.code (coming ++ kindsOf f.stack) after

/-- The callers wait for the results of the function above them; the last one gives those of the whole call. -/
inductive Callers (c : Context) (final : List Kind) : List Frame → (coming : List Kind) → Prop where
  | none : Callers c final [] final
  | caller {f : Frame} {callers : List Frame} {coming results : List Kind} (waits : f.Typed c results coming)
      (outer : Callers c final callers results) : Callers c final (f :: callers) coming

/-- **A state is typed** for what its call will give. -/
structure State.Typed (c : Context) (final : List Kind) (s : State) : Prop where
  suits : s.store.Suits c
  runs : ∃ results, s.frame.Typed c results [] ∧ Callers c final s.callers results

/-- What comes of a typed state. -/
inductive Step.Typed (c : Context) (final : List Kind) : Step → Prop where
  | running {s : State} (typed : s.Typed c final) : Typed c final (.running s)
  | trapped {store : Store} {cause : Trap} : Typed c final (.ended (.trapped store cause))
  | returned {store : Store} {results : List Val} (typed : kindsOf results = final) :
      Typed c final (.ended (.returned store results))

/-- **A program is typed** if the code of its functions is, and functions and types are what the declarations say. -/
structure Program.Typed (c : Context) (p : Program) : Prop where
  functions : ∀ (func : Nat) g body, p.functions[func]? = some g → g.code = some body →
    Code.Typed c (g.type.params.map ValType.kind ++ kindsOf g.locals) [stackOf g.type.results] body []
      (stackOf g.type.results)
  declared : ∀ (func : Nat) g t, p.functions[func]? = some g → c.typeOfFunction func = .ok t → g.type = t
  types : ∀ (type : Nat) t expected, c.funcTypeAt type = .ok t → p.types[type]? = some expected → expected = some t

/-! ## Leaving blocks and functions -/

section

variable {c : Context} {final : List Kind} {store : Store} {f : Frame} {callers : List Frame} {depth : Nat}

theorem kindsOf_append (values others : List Val) : kindsOf (values ++ others) = kindsOf values ++ kindsOf others :=
  List.map_append

/-- What is taken from the top of a stack, if so much is known of it. -/
theorem kindsOf_take {stack : List Val} {kinds rest : List Kind} (h : kindsOf stack = kinds ++ rest) :
    kindsOf (stack.take kinds.length) = kinds ∧ kindsOf (stack.drop kinds.length) = rest := by
  constructor
  · rw [kindsOf, List.map_take, ← kindsOf, h, List.take_left]
  · rw [kindsOf, List.map_drop, ← kindsOf, h, List.drop_left]

theorem Labels.getLast? {locals results ends : List Kind} {ls : List Label} {labels : List (List Kind)}
    (h : Labels c locals results ls labels ends) : labels.getLast? = some results := by
  induction h with
  | outermost => rfl
  | inside _ _ _ _ ih => rw [List.getLast?_cons, ih, Option.getD_some]

/-- **Where a branch goes**: to a block with all blocks around it, or out of the function. -/
theorem Labels.target {locals results ends carried : List Kind} {ls : List Label} {labels : List (List Kind)}
    (h : Labels c locals results ls labels ends) {i : Nat} (found : labels[i]? = some carried) :
    (∃ l outer outerLabels after, ls.drop i = l :: outer ∧ l.arity = carried.length ∧
      Code.Typed c locals outerLabels l.target (carried ++ kindsOf l.below) after ∧
        Labels c locals results outer outerLabels after) ∨
      ls.drop i = [] ∧ carried = results := by
  induction h generalizing i with
  | outermost =>
    refine .inr ⟨List.drop_nil, ?_⟩
    rcases i with _ | i
    · exact (Option.some.inj found).symm
    · cases found
  | inside arity target _ outer ih =>
    rcases i with _ | i
    · cases found
      exact .inl ⟨_, _, _, _, rfl, arity, target, outer⟩
    · exact ih found

namespace Step

theorem leave_typed (suits : store.Suits c) {results : List Kind} (waiting : Callers c final callers results)
    {values : List Val} (given : kindsOf values = results) : Typed c final (leave store values callers depth) := by
  cases waiting with
  | none => exact .returned given
  | @caller waiter outer _ results' waits further =>
    obtain ⟨arity, labels, after, blocks, code⟩ := waits
    refine .running ⟨suits, results', ⟨arity, labels, after, blocks, ?_⟩, further⟩
    rw [List.nil_append, kindsOf_append, given]
    exact code

theorem branch_typed (suits : store.Suits c) {results ends carried rest : List Kind} {labels : List (List Kind)}
    (arity : f.results = results.length) (blocks : Labels c (kindsOf f.locals.toList) results f.labels labels ends)
    (waiting : Callers c final callers results) {l : Nat} (target : labels[l]? = some carried)
    (operands : kindsOf f.stack = carried ++ rest) : Typed c final (branch store f l callers depth) := by
  unfold branch
  rcases blocks.target target with ⟨block, outer, outerLabels, after, here, count, code, around⟩ | ⟨here, rfl⟩
  · rw [here]
    refine .running ⟨suits, results, ⟨arity, outerLabels, after, around, ?_⟩, waiting⟩
    rw [List.nil_append, kindsOf_append, count, (kindsOf_take operands).1]
    exact code
  · rw [here, arity]
    exact leave_typed suits waiting (kindsOf_take operands).1

/-! ## Entering blocks and functions -/

theorem enter_typed (suits : store.Suits c) {results takes carried given rest : List Kind}
    {labels : List (List Kind)} (arity : f.results = results.length) (waiting : Callers c final callers results)
    (operands : kindsOf f.stack = takes ++ rest) {body : List Code} {label : List Val → Label}
    (inside : Code.Typed c (kindsOf f.locals.toList) (carried :: labels) body takes given)
    (opened : ∀ below, kindsOf below = rest →
      Labels c (kindsOf f.locals.toList) results (label below :: f.labels) (carried :: labels) given) :
    Typed c final (enter store f takes.length body label callers depth) := by
  obtain ⟨args, below⟩ := kindsOf_take operands
  unfold enter
  rw [List.splitAt_eq]
  refine .running ⟨suits, results, ⟨arity, carried :: labels, given, opened _ below, ?_⟩, waiting⟩
  rw [List.nil_append, args]
  exact inside

variable {p : Program}

theorem call_typed (program : p.Typed c) (suits : store.Suits c) {results rest : List Kind} {func : Nat} {t : FuncType}
    (callee : ∀ g, p.functions[func]? = some g → g.type = t) (waiting : Callers c final callers results)
    (operands : kindsOf f.stack = stackOf t.params ++ rest)
    (waits : ∀ stack, kindsOf stack = rest → Frame.Typed c { f with stack } results (stackOf t.results)) :
    Typed c final (call p store f func callers depth) := by
  unfold call
  split
  · exact .trapped
  · rename_i g found
    split
    · exact .trapped
    · rename_i body code
      split
      · exact .trapped
      · obtain rfl := callee g found
        have taken := kindsOf_take operands
        rw [length_stackOf] at taken
        rw [List.splitAt_eq]
        refine .running ⟨suits, stackOf g.type.results, ⟨?_, _, _, .outermost, ?_⟩, .caller ?_ waiting⟩
        · exact (length_stackOf _).symm
        · have values : kindsOf (((f.stack.take g.type.params.length).reverse ++ g.locals).toArray.toList) =
              g.type.params.map ValType.kind ++ kindsOf g.locals := by
            rw [kindsOf_append, kindsOf, List.map_reverse, ← kindsOf, taken.1, stackOf, List.reverse_reverse]
          rw [values]
          exact program.functions func g body found code
        · exact waits _ taken.2

theorem callIndirect_typed (program : p.Typed c) (suits : store.Suits c) {results rest : List Kind}
    {type table index : Nat} {t : FuncType} (callee : c.funcTypeAt type = .ok t)
    (waiting : Callers c final callers results) (operands : kindsOf f.stack = stackOf t.params ++ rest)
    (waits : ∀ stack, kindsOf stack = rest → Frame.Typed c { f with stack } results (stackOf t.results)) :
    Typed c final (callIndirect p store f type table index callers depth) := by
  unfold callIndirect
  split
  · rename_i expected _ declared
    obtain rfl := program.types type t expected callee declared
    split
    · split
      · exact .trapped
      · split
        · rename_i same
          refine call_typed program suits (fun g found => ?_) waiting operands waits
          rw [found] at same
          exact Option.some.inj same
        · exact .trapped
    · exact .trapped
  · exact .trapped

/-! ## One step -/

/-- Whatever is on the stack, an operator that neither branches nor calls is run as one. -/
theorem plain_of_turns {locals takes leaves : List Kind} {op : Operator} (turns : op.Turns c locals takes leaves) :
    plain p store f op callers depth = simple store f op callers depth := by
  cases turns <;> rfl

theorem plain_typed (program : p.Typed c) (suits : store.Suits c) {results ends before : List Kind} {op : Operator}
    {labels : List (List Kind)} (arity : f.results = results.length)
    (blocks : Labels c (kindsOf f.locals.toList) results f.labels labels ends)
    (waiting : Callers c final callers results) (operands : kindsOf f.stack = before)
    (typed : Code.Typed c (kindsOf f.locals.toList) labels (.plain op :: f.code) before ends) :
    Typed c final (plain p store f op callers depth) := by
  have goesOn {coming : List Kind} (stack : List Val)
      (behind : Code.Typed c (kindsOf f.locals.toList) labels f.code (coming ++ kindsOf stack) ends) :
      Frame.Typed c { f with stack } results coming := ⟨arity, labels, ends, blocks, behind⟩
  cases typed with
  | unreachable => exact .trapped
  | br target => exact branch_typed suits arity blocks waiting target operands
  | ret outermost =>
    obtain rfl := Option.some.inj (outermost.symm.trans blocks.getLast?)
    rw [plain, arity]
    exact leave_typed suits waiting (kindsOf_take operands).1
  | call callee behind =>
    refine call_typed program suits (fun g found => program.declared _ g _ found callee) waiting operands ?_
    rintro stack rfl
    exact goesOn stack behind
  | callIndirect callee behind =>
    obtain ⟨index, stack, onStack, _, operands⟩ := List.map_eq_cons_iff.1 operands
    unfold plain
    rw [onStack]
    dsimp only
    split
    · refine callIndirect_typed program suits callee waiting operands ?_
      rintro stack rfl
      exact goesOn stack behind
    · exact .trapped
  | brIf target behind =>
    obtain ⟨v, stack, onStack, number, operands⟩ := List.map_eq_cons_iff.1 operands
    obtain ⟨b, rfl⟩ := Val.exists_of_kind_i32 number
    unfold plain
    rw [onStack]
    dsimp only
    split
    · refine .running ⟨suits, results, goesOn stack ?_, waiting⟩
      rw [List.nil_append, show kindsOf stack = _ from operands]
      exact behind
    · exact branch_typed (f := { f with stack }) suits arity blocks waiting target operands
  | @brTable _ ls default _ _ _ targets =>
    obtain ⟨v, stack, onStack, number, operands⟩ := List.map_eq_cons_iff.1 operands
    obtain ⟨b, rfl⟩ := Val.exists_of_kind_i32 number
    unfold plain
    rw [onStack]
    dsimp only
    have mem : ls[b.toNat]?.getD default ∈ default :: ls := by
      cases found : ls[b.toNat]? with
      | none => exact List.mem_cons_self
      | some l => exact List.mem_cons_of_mem _ (List.mem_of_getElem? found)
    obtain ⟨carried, rest, target, rfl⟩ := targets _ mem
    exact branch_typed (f := { f with stack }) suits arity blocks waiting target operands
  | plain turns behind =>
    rw [plain_of_turns turns]
    have went : GoesOn c f callers depth _ _ _ := simple_goesOn suits turns operands
    generalize simple store f op callers depth = next at went
    cases went with
    | trapped => exact .trapped
    | @running store' values operands' suits' kept left =>
      refine .running ⟨suits', results, ⟨arity, labels, ends, ?_, ?_⟩, waiting⟩
      · rw [show kindsOf values.toList = _ from kept]
        exact blocks
      · rw [show kindsOf values.toList = _ from kept, List.nil_append, show kindsOf operands' = _ from left]
        exact behind

end Step

/-- **A step** leads from typed states to typed states, or to results of the right kinds. -/
theorem step_typed {p : Program} (program : p.Typed c) {s : State} (typed : s.Typed c final) :
    (step p s).Typed c final := by
  obtain ⟨store, ⟨locals, labels, stack, code, results⟩, callers, depth⟩ := s
  obtain ⟨suits, out, ⟨arity, contents, ends, blocks, runs⟩, waiting⟩ := typed
  dsimp only at suits arity blocks runs waiting
  rw [List.nil_append] at runs
  cases code with
  | nil =>
    cases runs
    cases blocks with
    | outermost => exact Step.leave_typed suits waiting rfl
    | @inside l ls outer carried _ after count target rest around =>
      refine .running ⟨suits, out, ⟨arity, outer, after, around, ?_⟩, waiting⟩
      rw [List.nil_append, kindsOf_append]
      exact rest
  | cons piece rest =>
    generalize operands : kindsOf stack = before at runs
    cases piece with
    | plain op => exact Step.plain_typed program suits arity blocks waiting operands runs
    | block params count body =>
      cases runs with
      | @block _ t _ _ below _ inside behind =>
        rw [← length_stackOf t.params, ← length_stackOf t.results]
        refine Step.enter_typed suits arity waiting operands inside ?_
        rintro below rfl
        exact .inside rfl behind behind blocks
    | loop params body =>
      cases runs with
      | @loop _ t _ _ below _ inside behind =>
        rw [← length_stackOf t.params]
        refine Step.enter_typed suits arity waiting operands inside ?_
        rintro below rfl
        refine .inside rfl ?_ behind blocks
        rw [length_stackOf]
        exact .loop inside behind
    | branch params count yes no =>
      cases runs with
      | @branch _ t _ _ _ below _ first second behind =>
        obtain ⟨v, others, onStack, number, params⟩ := List.map_eq_cons_iff.1 operands
        obtain ⟨b, rfl⟩ := Val.exists_of_kind_i32 number
        subst onStack
        rw [← length_stackOf t.params, ← length_stackOf t.results]
        have chosen : Code.Typed c (kindsOf locals.toList) (stackOf t.results :: contents) (if b = 0 then no else yes)
            (stackOf t.params) (stackOf t.results) := by
          split
          · exact second
          · exact first
        refine Step.enter_typed (f := ⟨locals, labels, others, rest, results⟩) suits arity waiting params chosen ?_
        rintro below rfl
        exact .inside rfl behind behind blocks

/-! ## Whole calls -/

variable {p : Program}

/-- What comes of a call: it traps, or it gives results of some kinds. -/
def Outcome.Gives (kinds : List Kind) : Outcome → Prop
  | .returned _ results => kindsOf results = kinds
  | .trapped .. => True

/-- **A run** from a typed state gives what the state is typed for, or traps. -/
theorem State.Ends.gives (program : p.Typed c) {s : State} {o : Outcome} (ends : Ends p s o)
    (typed : s.Typed c final) : o.Gives final := by
  induction ends with
  | now last =>
    have stepped := step_typed program typed
    rw [last] at stepped
    cases stepped with
    | trapped => trivial
    | returned typed => exact typed
  | later first _ ih =>
    have stepped := step_typed program typed
    rw [first] at stepped
    cases stepped with
    | running typed => exact ih typed

/-- Arguments of the declared types are of their kinds. -/
theorem kindsOf_args {args : List Val} {types : List ValType} (count : args.length = types.length)
    (each : (args.zip types).all fun (v, t) => v.hasType t) : kindsOf args = types.map ValType.kind := by
  refine List.ext_getElem (by simpa [kindsOf] using count) fun i inArgs inTypes => ?_
  simp only [kindsOf, List.length_map] at inArgs inTypes
  have here := List.all_eq_true.1 each (args[i], types[i]) (List.mem_iff_getElem?.2 ⟨i, by
    rw [List.getElem?_zip_eq_some]
    exact ⟨List.getElem?_eq_getElem inArgs, List.getElem?_eq_getElem inTypes⟩⟩)
  simpa [kindsOf] using Val.hasType_iff.1 here

/-- **A call of a function** gives results of the types that it declares, or traps. -/
theorem call_gives (program : p.Typed c) (suits : store.Suits c) {func : Nat} {g : Function}
    (found : p.functions[func]? = some g) {args : List Val} {o : Outcome}
    (called : call p store func args = some o) : o.Gives (stackOf g.type.results) := by
  unfold call at called
  cases entered : firstState? p store func args with
  | some first =>
    rw [entered] at called
    simp only [firstState?, Option.bind_eq_bind, Option.bind_eq_some_iff, Option.ite_none_right_eq_some,
      Option.some.injEq, Bool.and_eq_true, decide_eq_true_eq] at entered
    obtain ⟨g', found', body, code, ⟨count, each⟩, rfl⟩ := entered
    obtain rfl := Option.some.inj (found.symm.trans found')
    refine (run_eq_some_iff.1 called).gives program ⟨suits, _, ⟨?_, _, _, .outermost, ?_⟩, .none⟩
    · exact (length_stackOf _).symm
    · rw [kindsOf_append, kindsOf_args count each]
      exact program.functions func g body found code
  | none =>
    rw [entered] at called
    cases called
    trivial

end

end WasmLens.Machine
