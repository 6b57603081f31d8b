import WasmLens.Machine.Step
import WasmLens.Proofs.Machine.Store

/-!
# What running code does to the store

A call runs operators of the code that its program holds, and no others: code that lies `Within` a set of
operators leads to code within it, step after step (`step_leads`). So **what every operator of a program
keeps, a whole call keeps**, at its end (`call_keeps`) and at every moment before (`Calls.keeps`).

A run has an outcome exactly if one of its steps ends it (`run_eq_some_iff`), and has none exactly if every step
leads to another one (`run_eq_none_iff`).
-/
namespace WasmLens.Machine

open Wasm

/-! ## Code within a set of operators -/

variable {P : Operator → Prop}

/-- All operators of structured code are of a kind. -/
inductive Code.Within (P : Operator → Prop) : Code → Prop where
  | plain {op : Operator} (allowed : P op) : Within P (.plain op)
  | block {params results : Nat} {body : List Code} (inside : ∀ c ∈ body, Within P c) :
      Within P (.block params results body)
  | loop {params : Nat} {body : List Code} (inside : ∀ c ∈ body, Within P c) : Within P (.loop params body)
  | branch {params results : Nat} {yes no : List Code} (first : ∀ c ∈ yes, Within P c)
      (second : ∀ c ∈ no, Within P c) : Within P (.branch params results yes no)

structure Label.Within (P : Operator → Prop) (l : Label) : Prop where
  target : ∀ c ∈ l.target, c.Within P
  rest : ∀ c ∈ l.rest, c.Within P

structure Frame.Within (P : Operator → Prop) (f : Frame) : Prop where
  code : ∀ c ∈ f.code, c.Within P
  labels : ∀ l ∈ f.labels, l.Within P

structure State.Within (P : Operator → Prop) (s : State) : Prop where
  frame : s.frame.Within P
  callers : ∀ f ∈ s.callers, f.Within P

def Function.Within (P : Operator → Prop) (g : Function) : Prop :=
  ∀ body, g.code = some body → ∀ c ∈ body, c.Within P

def Program.Within (P : Operator → Prop) (p : Program) : Prop := ∀ g ∈ p.functions, g.Within P

/-! ## Single steps -/

/-- A store and the one that an operator of a kind makes of it, if any is run. -/
def Store.Touched (P : Operator → Prop) (s s' : Store) : Prop := s' = s ∨ ∃ op, P op ∧ s.Changes op s'

def Outcome.store : Outcome → Store
  | .returned s _ | .trapped s _ => s

/-- Where a step may lead. -/
inductive Step.Leads (P : Operator → Prop) (s : Store) : Step → Prop where
  | running {next : State} (code : next.Within P) (store : s.Touched P next.store) : Leads P s (.running next)
  | ended {o : Outcome} (store : s.Touched P o.store) : Leads P s (.ended o)

namespace Step

variable {s s' : Store} {f : Frame} {callers : List Frame} {depth : Nat} {p : Program}

theorem trap_leads (store : s.Touched P s') (cause : Trap) : Leads P s (trap s' cause) := .ended store

theorem leave_leads (store : s.Touched P s') (callersWithin : ∀ f ∈ callers, f.Within P)
    (results : List Val) : Leads P s (leave s' results callers depth) := by
  cases callers with
  | nil => exact .ended store
  | cons caller callers =>
    rw [List.forall_mem_cons] at callersWithin
    exact .running ⟨⟨callersWithin.1.code, callersWithin.1.labels⟩, callersWithin.2⟩ store

theorem branch_leads (within : f.Within P) (callersWithin : ∀ f ∈ callers, f.Within P) (label : Nat) :
    Leads P s (branch s f label callers depth) := by
  unfold branch
  split
  · rename_i l labels outer
    have labelsWithin : ∀ x ∈ l :: labels, x.Within P := by
      intro x mem
      rw [← outer] at mem
      exact within.labels x (List.mem_of_mem_drop mem)
    rw [List.forall_mem_cons] at labelsWithin
    exact .running ⟨⟨labelsWithin.1.target, labelsWithin.2⟩, callersWithin⟩ (.inl rfl)
  · exact leave_leads (.inl rfl) callersWithin _

theorem enter_leads (within : f.Within P) (callersWithin : ∀ f ∈ callers, f.Within P) {body : List Code}
    (inside : ∀ c ∈ body, c.Within P) {label : List Val → Label} (labelWithin : ∀ below, (label below).Within P)
    (params : Nat) : Leads P s (enter s f params body label callers depth) := by
  refine .running ⟨⟨inside, ?_⟩, callersWithin⟩ (.inl rfl)
  exact List.forall_mem_cons.2 ⟨labelWithin _, within.labels⟩

theorem call_leads (program : p.Within P) (within : f.Within P)
    (callersWithin : ∀ f ∈ callers, f.Within P) (func : Nat) :
    Leads P s (call p s f func callers depth) := by
  unfold call
  split
  · exact trap_leads (.inl rfl) _
  · rename_i g found
    split
    · exact trap_leads (.inl rfl) _
    · rename_i body code
      split
      · exact trap_leads (.inl rfl) _
      · have inside := program g (Array.mem_of_getElem? found) body code
        refine .running ⟨⟨inside, nofun⟩, ?_⟩ (.inl rfl)
        exact List.forall_mem_cons.2 ⟨⟨within.code, within.labels⟩, callersWithin⟩

theorem callIndirect_leads (program : p.Within P) (within : f.Within P)
    (callersWithin : ∀ f ∈ callers, f.Within P) (type table index : Nat) :
    Leads P s (callIndirect p s f type table index callers depth) := by
  unfold callIndirect
  split
  · split
    · split
      · exact trap_leads (.inl rfl) _
      · split
        · exact call_leads program within callersWithin _
        · exact trap_leads (.inl rfl) _
    · exact trap_leads (.inl rfl) _
  · exact trap_leads (.inl rfl) _

/-- An operator that neither branches nor calls leads to the code behind it. -/
theorem simple_leads (within : f.Within P) (callersWithin : ∀ f ∈ callers, f.Within P) {op : Operator}
    (allowed : P op) : Leads P s (simple s f op callers depth) := by
  obtain ⟨locals, labels, stack, code, results⟩ := f
  have goesOn (locals : Array Val) (stack : List Val) {store : Store} (touched : s.Touched P store) :
      Leads P s (.running ⟨store, ⟨locals, labels, stack, code, results⟩, callers, depth⟩) :=
    .running ⟨⟨within.code, within.labels⟩, callersWithin⟩ touched
  have touched := s.run_changes stack op
  unfold simple
  dsimp only
  split
  case h_3 | h_12 | h_13 =>
    split
    · exact goesOn _ _ (.inl rfl)
    · exact trap_leads (.inl rfl) _
  case h_14 =>
    split <;> rename_i done <;> rw [done] at touched
    · exact goesOn _ _ (.inr ⟨_, allowed, touched⟩)
    · exact trap_leads (.inr ⟨_, allowed, touched⟩) _
  all_goals exact goesOn _ _ (.inl rfl)

theorem plain_leads (program : p.Within P) (within : f.Within P)
    (callersWithin : ∀ f ∈ callers, f.Within P) {op : Operator} (allowed : P op) :
    Leads P s (plain p s f op callers depth) := by
  have onStack (stack : List Val) : Frame.Within P { f with stack } := ⟨within.code, within.labels⟩
  unfold plain
  split
  · exact trap_leads (.inl rfl) _
  · exact branch_leads within callersWithin _
  · split
    · exact .running ⟨onStack _, callersWithin⟩ (.inl rfl)
    · exact branch_leads (onStack _) callersWithin _
  · exact branch_leads (onStack _) callersWithin _
  · exact leave_leads (.inl rfl) callersWithin _
  · exact call_leads program within callersWithin _
  · split
    · exact callIndirect_leads program (onStack _) callersWithin _ _ _
    · exact trap_leads (.inl rfl) _
  · exact simple_leads within callersWithin allowed

end Step

/-- **One step** runs at most one operator of the code at hand. -/
theorem step_leads {p : Program} {s : State} (program : p.Within P) (within : s.Within P) :
    (step p s).Leads P s.store := by
  obtain ⟨store, ⟨locals, labels, stack, code, results⟩, callers, depth⟩ := s
  obtain ⟨⟨codeWithin, labelsWithin⟩, callersWithin⟩ := within
  cases code with
  | nil =>
    cases labels with
    | nil => exact Step.leave_leads (.inl rfl) callersWithin _
    | cons l labels =>
      obtain ⟨l, labelsWithin⟩ := List.forall_mem_cons.1 labelsWithin
      exact .running ⟨⟨l.rest, labelsWithin⟩, callersWithin⟩ (.inl rfl)
  | cons piece rest =>
    obtain ⟨inside, restWithin⟩ := List.forall_mem_cons.1 codeWithin
    have behind (stack : List Val) : Frame.Within P ⟨locals, labels, stack, rest, results⟩ :=
      ⟨restWithin, labelsWithin⟩
    have around (arity : Nat) (below : List Val) : Label.Within P ⟨arity, rest, rest, below⟩ :=
      ⟨restWithin, restWithin⟩
    cases inside with
    | plain allowed => exact Step.plain_leads program (behind _) callersWithin allowed
    | block inside => exact Step.enter_leads (behind _) callersWithin inside (around _) _
    | @loop params body inside =>
      have again (below : List Val) : Label.Within P ⟨params, .loop params body :: rest, rest, below⟩ :=
        ⟨codeWithin, restWithin⟩
      exact Step.enter_leads (behind _) callersWithin inside again _
    | @branch params results' yes no first second =>
      unfold step
      dsimp only
      split
      · refine Step.enter_leads (behind _) callersWithin ?_ (around _) _
        split
        · exact second
        · exact first
      · exact Step.trap_leads (.inl rfl) _

/-! ## Whole calls -/

/-- A state and those that the steps from it lead to. -/
inductive State.Reaches (p : Program) : State → State → Prop where
  | here {s : State} : Reaches p s s
  | next {s s' s'' : State} (first : step p s = .running s') (later : Reaches p s' s'') : Reaches p s s''

section

variable {p : Program} {s s' : State} {o : Outcome}

theorem State.Reaches.ends (reached : Reaches p s s') (ends : Ends p s' o) : Ends p s o := by
  induction reached with
  | here => exact ends
  | next first _ ih => exact .later first (ih ends)

theorem State.Ends.last (ends : Ends p s o) : ∃ last, Reaches p s last ∧ step p last = .ended o := by
  induction ends with
  | now last => exact ⟨_, .here, last⟩
  | later first _ ih =>
    obtain ⟨last, reached, ended⟩ := ih
    exact ⟨last, .next first reached, ended⟩

/-- Counting some steps first makes no difference to how a state ends. -/
theorem State.ends_iff_advance : ∀ (steps : Nat) (s : State),
    s.Ends p o ↔ match advance p steps s with
      | .running s => s.Ends p o
      | .ended o' => o' = o
  | 0, _ => .rfl
  | steps + 1, s => by
    rw [advance]
    cases moved : step p s with
    | running s' => exact (Ends.of_running moved).trans (ends_iff_advance steps s')
    | ended o' => exact Ends.of_ended moved

/-- **A run has the outcome that one of its steps ends it with.** -/
theorem run_eq_some_iff : run p s = some o ↔ s.Ends p o := by
  rw [State.ends_iff_advance burst s, run]
  cases advance p burst s with
  | running s' => exact (runOn p s').exact o
  | ended o' => exact Option.some_inj

/-- **A run has no outcome exactly if each of its steps leads to another one.** -/
theorem run_eq_none_iff : run p s = none ↔ ∀ s', s.Reaches p s' → ∃ s'', step p s' = .running s'' := by
  constructor
  · intro endless s' reached
    cases moved : step p s' with
    | running s'' => exact ⟨s'', rfl⟩
    | ended o =>
      have ended := run_eq_some_iff.2 (reached.ends (.now moved))
      rw [endless] at ended
      cases ended
  · intro onward
    rw [Option.eq_none_iff_forall_ne_some]
    intro o ended
    obtain ⟨last, reached, ended⟩ := (run_eq_some_iff.1 ended).last
    obtain ⟨_, moved⟩ := onward last reached
    rw [ended] at moved
    cases moved

/-- **Where every step leads on, nothing ends.** -/
theorem run_eq_none_of_progress {I : State → Prop} (onward : ∀ s, I s → ∃ s', step p s = .running s' ∧ I s')
    (start : I s) : run p s = none := by
  rw [run_eq_none_iff]
  intro now reached
  have holds : I now := by
    induction reached with
    | here => exact start
    | next first _ ih =>
      obtain ⟨next, moved, holds⟩ := onward _ start
      rw [first] at moved
      cases moved
      exact ih holds
  obtain ⟨next, moved, _⟩ := onward now holds
  exact ⟨next, moved⟩

/-- A loop that branches to its own start never ends. -/
example (p : Program) (store : Store) :
    run p ⟨store, ⟨#[], [], [], [.loop 0 [.plain (.br 0)]], 0⟩, [], 1⟩ = none := by
  let outside : State := ⟨store, ⟨#[], [], [], [.loop 0 [.plain (.br 0)]], 0⟩, [], 1⟩
  let inside : State := ⟨store, ⟨#[], [⟨0, [.loop 0 [.plain (.br 0)]], [], []⟩], [], [.plain (.br 0)], 0⟩, [], 1⟩
  refine run_eq_none_of_progress (I := fun s => s = outside ∨ s = inside) ?_ (.inl rfl)
  rintro _ (rfl | rfl)
  · exact ⟨inside, rfl, .inr rfl⟩
  · exact ⟨outside, rfl, .inl rfl⟩

end

/-- The stores that there are while a function is called. -/
inductive Calls (p : Program) (s : Store) (func : Nat) (args : List Val) : Store → Prop where
  | during {first now : State} (entered : firstState? p s func args = some first)
      (reached : State.Reaches p first now) : Calls p s func args now.store

section

variable {p : Program} {I : Store → Prop}

/-- What every operator of a kind keeps is kept where one is run or none is. -/
theorem Store.Touched.keeps (keeps : ∀ {op s s'}, P op → I s → s.Changes op s' → I s') {s s' : Store}
    (touched : s.Touched P s') (before : I s) : I s' := by
  rcases touched with rfl | ⟨op, allowed, changes⟩
  · exact before
  · exact keeps allowed before changes

theorem State.Reaches.keeps (keeps : ∀ {op s s'}, P op → I s → s.Changes op s' → I s')
    (program : p.Within P) {s s' : State} (reached : Reaches p s s') (within : s.Within P)
    (before : I s.store) : s'.Within P ∧ I s'.store := by
  induction reached with
  | here => exact ⟨within, before⟩
  | next first _ ih =>
    have led := step_leads program within
    rw [first] at led
    cases led with
    | running code touched => exact ih code (touched.keeps keeps before)

/-- What every operator of a kind keeps, a run of such operators keeps to its end. -/
theorem State.Ends.keeps (keeps : ∀ {op s s'}, P op → I s → s.Changes op s' → I s') (program : p.Within P)
    {s : State} {o : Outcome} (ends : Ends p s o) (within : s.Within P) (before : I s.store) : I o.store := by
  induction ends with
  | now last =>
    have led := step_leads program within
    rw [last] at led
    cases led with
    | ended touched => exact touched.keeps keeps before
  | later first _ ih =>
    have led := step_leads program within
    rw [first] at led
    cases led with
    | running code touched => exact ih code (touched.keeps keeps before)

theorem firstState?_within {s : Store} {func : Nat} {args : List Val} {first : State} (program : p.Within P)
    (entered : firstState? p s func args = some first) : first.Within P ∧ first.store = s := by
  simp only [firstState?, Option.bind_eq_bind, Option.bind_eq_some_iff, Option.ite_none_right_eq_some,
    Option.some.injEq] at entered
  obtain ⟨g, found, body, code, _, rfl⟩ := entered
  exact ⟨⟨⟨program g (Array.mem_of_getElem? found) body code, nofun⟩, nofun⟩, rfl⟩

/-- **What every operator of a program keeps, a call keeps at every moment.** -/
theorem Calls.keeps (keeps : ∀ {op s s'}, P op → I s → s.Changes op s' → I s') (program : p.Within P)
    {s s' : Store} {func : Nat} {args : List Val} (calls : Calls p s func args s') (before : I s) : I s' := by
  cases calls with
  | during entered reached =>
    obtain ⟨within, rfl⟩ := firstState?_within program entered
    exact (reached.keeps keeps program within before).2

/-- **What every operator of a program keeps, a call keeps.** -/
theorem call_keeps (keeps : ∀ {op s s'}, P op → I s → s.Changes op s' → I s') (program : p.Within P)
    {s : Store} {func : Nat} {args : List Val} {o : Outcome} (called : call p s func args = some o)
    (before : I s) : I o.store := by
  unfold call at called
  cases entered : firstState? p s func args with
  | some first =>
    rw [entered] at called
    obtain ⟨within, rfl⟩ := firstState?_within program entered
    exact (run_eq_some_iff.1 called).keeps keeps program within before
  | none =>
    rw [entered] at called
    cases called
    exact before

end

end WasmLens.Machine
