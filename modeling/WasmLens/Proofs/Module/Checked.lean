import WasmLens.Proofs.Machine.Cells
import WasmLens.Proofs.Machine.Image
import WasmLens.Proofs.Wasm.Bodies

/-!
# What is known of a valid module

Validation checks every entry when it comes to it, against what was there by then. Index spaces only grow,
so what was found is still there at the end: of a whole module it holds that **every memory has limits in
order** (`run_memories`), that **the type of every function is one of a function** (`run_functions`), that
**no body sets a global that is immutable** (`run_bodies`), that there are **as many bodies as functions
to have one** (`run_bodies_length`), and that **every imported global has a value to start out with**
(`run_importedGlobals`).
-/
namespace WasmLens.Wasm

/-! ## Entries that are checked -/

/-- The limits of a memory are in order and within what its addresses reach. One that is shared has a
maximum. -/
structure MemoryType.Sound (t : MemoryType) : Prop where
  minimum : t.limits.minimum ≤ Context.maxPages t.is64
  maximum : ∀ n, t.limits.maximum = some n → t.limits.minimum ≤ n ∧ n ≤ Context.maxPages t.is64
  shared : t.limits.maximum = none → t.isShared = false

namespace Context

variable {c c' : Context}

theorem checkLimits_ok {l : Limits} (h : checkLimits l = .ok ()) {n : Nat} (maximum : l.maximum = some n) :
    l.minimum ≤ n := by
  simp only [checkLimits, maximum, ite_eq_ok_iff, reduceCtorEq, and_false, or_false] at h
  exact h.1

theorem checkMemory_ok {t : MemoryType} (h : c.checkMemory t = .ok ()) : t.Sound := by
  obtain ⟨_, limits, h⟩ := bind_eq_ok_iff.1 h
  have h := ok_behind (ok_behind (ok_behind h))
  rcases ite_eq_ok_iff.1 h with ⟨_, failed⟩ | ⟨reach, h⟩
  · cases failed
  · simp only [Bool.or_eq_true, decide_eq_true_eq, Option.any_eq_true, not_or, not_exists, not_and,
      Nat.not_lt] at reach
    refine ⟨reach.1, fun n maximum => ⟨checkLimits_ok limits maximum, reach.2 n maximum⟩, fun none => ?_⟩
    rcases ite_eq_ok_iff.1 h with ⟨_, failed⟩ | ⟨bounded, _⟩
    · cases failed
    · simpa only [none, Option.isNone_none, Bool.and_true, Bool.not_eq_true] using bounded

theorem addMemory_ok {t : MemoryType} (h : c.addMemory t = .ok c') : t.Sound := by
  simp only [addMemory, bind_eq_ok_iff] at h
  obtain ⟨_, checked, _⟩ := h
  exact checkMemory_ok checked

theorem require_ok {enabled : Bool} {what : String} (h : require enabled what = .ok ()) : enabled := by
  cases enabled with
  | true => rfl
  | false => cases h

/-- Without the proposals that bring other references, a reference can be null. -/
theorem checkRef_nullable (features : c.features.gc = false ∧ c.features.exceptions = false) {t : RefType}
    (h : c.checkRef t = .ok ()) : t.nullable := by
  obtain ⟨noGc, noExceptions⟩ := features
  obtain ⟨_, _, h⟩ := bind_eq_ok_iff.1 h
  cases heap : t.heap with
  | concrete index =>
    simp only [heap, bind_eq_ok_iff] at h
    obtain ⟨_, enabled, _⟩ := h
    rw [noGc] at enabled
    cases enabled
  | abstract a =>
    simp only [heap, checkAbstract, noGc, noExceptions, Bool.or_false] at h
    cases a with
    | func | external => exact require_ok h
    | exception | noException | any | eq | i31 | struct | array | noFunc | noExternal | bottom => cases h

theorem checkValue_default (features : c.features.gc = false ∧ c.features.exceptions = false) {t : ValType}
    (h : c.checkValue t = .ok ()) : (Machine.Val.default? t).isSome := by
  cases t with
  | ref t => rw [Machine.Val.default?, if_pos (checkRef_nullable features h)]; rfl
  | i32 | i64 | f32 | f64 | v128 => rfl

theorem funcTypeAt_eq {type : Nat} {t : FuncType} (h : c.funcTypeAt type = .ok t) :
    ∃ sub, c.types[type]? = some sub ∧ sub.funcType? = some t := by
  obtain ⟨sub, found, h⟩ := bind_eq_ok_iff.1 h
  refine ⟨sub, getElem?_of_lookUp found, ?_⟩
  cases function : sub.funcType? with
  | some f =>
    rw [function] at h
    exact congrArg some (pure_eq_ok_iff.1 h)
  | none =>
    rw [function] at h
    cases h

/-- **Every body is checked** against the type of its function, which is one of the last ones. -/
theorem checkCode_getElem? {bodies : List Body} (h : c.checkCode bodies = .ok ()) {k : Nat} {body : Body}
    (found : bodies[k]? = some body) :
    ∃ type, c.typeOfFunction (c.functions.size - bodies.length + k) = .ok type ∧ c.checkBody type body = .ok () := by
  have h : (bodies.zipIdx (c.functions.size - bodies.length)).forM
      (fun p => do c.checkBody (← c.typeOfFunction p.2) p.1) = .ok () := by
    unfold checkCode at h
    dsimp only at h
    split at h
    · exact ok_behind h
    · exact ok_behind h
  have among : (body, c.functions.size - bodies.length + k) ∈
      bodies.zipIdx (c.functions.size - bodies.length) := by
    rw [List.mk_add_mem_zipIdx_iff_getElem?]
    exact found
  exact bind_eq_ok_iff.1 (forM_mem h _ among)

end Context

/-! ## Index spaces that grow -/

namespace Context.Grows

variable {c c' : Context} {added : Entries}

theorem types (h : c.Grows added c') : c.types.toList <+: c'.types.toList := by
  have entries := congrArg (·.types) h.entries
  simp only [Context.entries, Entries.types_append] at entries
  rw [entries]
  exact List.prefix_append ..

theorem globals (h : c.Grows added c') : c.globals.toList <+: c'.globals.toList := by
  have entries := congrArg (·.globals) h.entries
  simp only [Context.entries, Entries.globals_append] at entries
  rw [entries]
  exact List.prefix_append ..

/-- Types stay where they are while items are added that let the index spaces grow. -/
theorem foldlM_types {α : Type} {f : Context → α → Except Fault Context}
    (each : ∀ c x c', f c x = .ok c' → ∃ added, c.Grows added c') {xs : List α} (run : xs.foldlM f c = .ok c') :
    c.types.toList <+: c'.types.toList := by
  refine run_related (R := fun c c' : Context => c.types.toList <+: c'.types.toList) (fun _ => List.prefix_rfl)
    List.IsPrefix.trans (fun c x _ c' step => ?_) run
  obtain ⟨added, grown⟩ := each c x c' step
  exact grown.types

end Context.Grows

/-! ## Whole modules -/

namespace Validator

variable {v v' : Validator} {contents : List Content}

/-- The contents of each section were added to what was there by then, which is still there at the end. -/
theorem run_added (run : contents.foldlM step v = .ok v') {content : Content} (mem : content ∈ contents) :
    ∃ c c' : Context, c.add content = .ok c' ∧ c'.types.toList <+: v'.context.types.toList ∧
      c'.globals.toList <+: v'.context.globals.toList := by
  obtain ⟨_, _, before, after, _, _, here, last⟩ := run_mem run mem
  obtain ⟨context, _, added, _, _, rfl⟩ := step_ok_iff.1 here
  have grown := run_grows last
  exact ⟨before.context, context, added, grown.types, grown.globals⟩

/-- **Every memory** of a module has limits in order. -/
theorem run_memories (run : contents.foldlM step v = .ok v') :
    ∀ t ∈ (Content.entriesOf contents).memories, t.Sound := by
  rw [Content.entriesOf_eq_flatMap (·.memories) rfl fun _ _ => rfl]
  intro t mem
  obtain ⟨content, mem, here⟩ := List.mem_flatMap.1 mem
  obtain ⟨c, c', added, _⟩ := run_added run mem
  unfold Context.add at added
  obtain ⟨advanced, _, added⟩ := bind_eq_ok_iff.1 added
  cases content <;> simp only [Content.entries, List.not_mem_nil] at here
  case imports items =>
    obtain ⟨i, among, memory⟩ := List.mem_filterMap.1 here
    obtain ⟨_, _, added⟩ := bind_eq_ok_iff.1 added
    obtain ⟨_, _, _, _, _, _, imported, _⟩ := run_mem added among
    obtain ⟨module, name, desc⟩ := i
    cases desc <;> cases memory
    exact Context.addMemory_ok imported
  case memories items =>
    obtain ⟨_, _, _, _, _, _, defined, _⟩ := run_mem added here
    exact Context.addMemory_ok defined

/-- **The type of every function** is one of a function. -/
theorem run_functions (run : contents.foldlM step v = .ok v') :
    ∀ type ∈ (Content.entriesOf contents).functions,
      ∃ t, v'.context.types[type]?.bind SubType.funcType? = some t := by
  rw [Content.entriesOf_eq_flatMap (·.functions) rfl fun _ _ => rfl]
  intro type mem
  obtain ⟨content, mem, here⟩ := List.mem_flatMap.1 mem
  obtain ⟨c, c', added, types, _⟩ := run_added run mem
  unfold Context.add at added
  obtain ⟨advanced, _, added⟩ := bind_eq_ok_iff.1 added
  have kept {before : Context} {t : FuncType} (typed : before.funcTypeAt type = .ok t)
      (still : before.types.toList <+: c'.types.toList) :
      ∃ t, v'.context.types[type]?.bind SubType.funcType? = some t := by
    obtain ⟨sub, found, function⟩ := Context.funcTypeAt_eq typed
    exact ⟨t, by rw [Machine.getElem?_of_front (still.trans types) found]; exact function⟩
  cases content <;> simp only [Content.entries, List.not_mem_nil] at here
  case imports items =>
    obtain ⟨i, among, function⟩ := List.mem_filterMap.1 here
    obtain ⟨_, _, added⟩ := bind_eq_ok_iff.1 added
    obtain ⟨_, _, before, after, _, _, imported, rest⟩ := run_mem added among
    obtain ⟨module, name, desc⟩ := i
    cases desc <;> cases function
    obtain ⟨t, typed, _⟩ := bind_eq_ok_iff.1 imported
    have grown := Context.addFunction_grows imported
    have later := Context.Grows.foldlM_types (fun _ _ _ h => ⟨_, Context.addImport_grows h⟩) rest
    exact kept typed (grown.types.trans later)
  case functions indices =>
    obtain ⟨filled, added, eq⟩ := bind_eq_ok_iff.1 added
    obtain ⟨_, _, before, after, _, _, defined, rest⟩ := run_mem added here
    obtain ⟨t, typed, _⟩ := bind_eq_ok_iff.1 defined
    have grown := Context.addFunction_grows defined
    obtain rfl := pure_eq_ok_iff.1 eq
    have later := Context.Grows.foldlM_types (f := Context.addFunction)
      (fun _ _ _ h => ⟨_, Context.addFunction_grows h⟩) rest
    exact kept typed (grown.types.trans later)

/-- **Every body** sets only globals that are mutable. -/
theorem run_bodies (run : contents.foldlM step v = .ok v') {bodies : List Body}
    (mem : .code bodies ∈ contents) {body : Body} (among : body ∈ bodies) {index : Nat}
    (sets : .globalSet index ∈ body.operators) :
    ∃ g, v'.context.globals[index]? = some g ∧ g.isMutable := by
  obtain ⟨c, c', added, _, globals⟩ := run_added run mem
  unfold Context.add at added
  obtain ⟨advanced, _, added⟩ := bind_eq_ok_iff.1 added
  obtain ⟨_, checked, eq⟩ := bind_eq_ok_iff.1 added
  obtain ⟨k, found⟩ := List.getElem?_of_mem among
  obtain ⟨type, _, checked⟩ := Context.checkCode_getElem? checked found
  obtain ⟨g, found, mutable⟩ := Context.checkBody_globalSet checked sets
  rw [← pure_eq_ok_iff.1 eq] at globals
  exact ⟨g, Machine.getElem?_of_front globals found, mutable⟩

/-- **Every imported global** of a module without references that cannot be null has a value to start out with. -/
theorem run_importedGlobals (run : contents.foldlM step v = .ok v')
    (features : v.context.features.gc = false ∧ v.context.features.exceptions = false) :
    ∀ i ∈ contents.flatMap Content.importItems, ∀ t, i.globalType? = some t →
      (Machine.Val.default? t.content).isSome := by
  intro i mem t global
  obtain ⟨content, mem, here⟩ := List.mem_flatMap.1 mem
  cases content <;> simp only [Content.importItems, List.not_mem_nil] at here
  case imports items =>
    obtain ⟨_, _, before, after, _, front, step, _⟩ := run_mem run mem
    obtain ⟨_, _, added, _⟩ := step_ok_iff.1 step
    have early : before.context.features = v.context.features := (run_grows front).features
    unfold Context.add at added
    obtain ⟨advanced, advance, added⟩ := bind_eq_ok_iff.1 added
    obtain ⟨_, _, added⟩ := bind_eq_ok_iff.1 added
    obtain ⟨_, _, between, _, _, others, imported, _⟩ := run_mem added here
    have late : between.features = advanced.features :=
      run_related (R := fun c c' : Context => c'.features = c.features) (fun _ => rfl)
        (fun first second => second.trans first) (fun _ _ _ _ h => (Context.addImport_grows h).features) others
    obtain ⟨_, rfl⟩ := Context.advance_ok_iff.1 advance
    obtain ⟨module, name, desc⟩ := i
    cases desc <;> cases global
    obtain ⟨_, global, _⟩ := bind_eq_ok_iff.1 imported
    obtain ⟨_, checked, _⟩ := bind_eq_ok_iff.1 global
    obtain ⟨_, value, _⟩ := bind_eq_ok_iff.1 checked
    exact Context.checkValue_default (late.trans early ▸ features) value

/-- A section of code brings all bodies that are due. -/
theorem add_code {c c' : Context} {bodies : List Body} (h : c.add (.code bodies) = .ok c') :
    c.bodiesDue.getD 0 = bodies.length := by
  unfold Context.add at h
  obtain ⟨advanced, advance, h⟩ := bind_eq_ok_iff.1 h
  obtain ⟨_, rfl⟩ := Context.advance_ok_iff.1 advance
  obtain ⟨_, checked, _⟩ := bind_eq_ok_iff.1 h
  unfold Context.checkCode at checked
  dsimp only at checked
  cases due : c.bodiesDue with
  | some n =>
    simp only [due] at checked
    rcases ite_eq_ok_iff.1 checked with ⟨_, failed⟩ | ⟨same, _⟩
    · cases failed
    · exact Decidable.of_not_not same
  | none =>
    simp only [due] at checked
    rcases ite_eq_ok_iff.1 checked with ⟨_, failed⟩ | ⟨none, _⟩
    · cases failed
    · cases bodies with
      | nil => rfl
      | cons b bodies => exact absurd rfl none

/-- **Bodies come for the functions that were announced**, and for no others. -/
theorem run_due : ∀ {contents : List Content} {v v' : Validator}, contents.foldlM step v = .ok v' →
    (v.context.place < 3 → v.context.bodiesDue = none) →
      (contents.flatMap Content.definedFunctions).length + v.context.bodiesDue.getD 0 =
        (contents.flatMap Content.bodyItems).length + v'.context.bodiesDue.getD 0
  | [], v, v', run, _ => by
    obtain rfl := run_nil_iff.1 run
    rfl
  | content :: contents, v, v', run, fresh => by
    obtain ⟨between, first, rest⟩ := run_cons_iff.1 run
    obtain ⟨_, ahead, place, due⟩ := step_grows first
    have later : between.context.place < 3 → between.context.bodiesDue = none := by
      intro early
      rw [place] at early
      cases content
      case custom => rw [due]; exact fresh early
      case types | imports =>
        rw [due]
        exact fresh (Nat.lt_trans (ahead _ rfl) early)
      all_goals
        simp only [Content.place?, Option.getD_some, Nat.reduceLT] at early
    have counted := run_due rest later
    rw [List.flatMap_cons, List.flatMap_cons, List.length_append, List.length_append]
    cases content
    case functions indices =>
      -- no bodies are due before functions are announced
      have none := fresh (ahead 3 rfl)
      simp only [due, Content.dueAfter, Option.getD_some] at counted
      simp only [none, Content.definedFunctions, Content.bodyItems, List.length_nil, Option.getD_none]
      omega
    case code bodies =>
      obtain ⟨_, _, added, _⟩ := step_ok_iff.1 first
      have all := add_code added
      simp only [due, Content.dueAfter, Option.getD_none] at counted
      simp only [all, Content.definedFunctions, Content.bodyItems, List.length_nil]
      omega
    all_goals
      simp only [due, Content.dueAfter] at counted
      simp only [Content.definedFunctions, Content.bodyItems, List.length_nil, Nat.zero_add]
      exact counted

/-- **A finished module has as many bodies as functions to have one.** -/
theorem run_bodies_length {f : Features} (run : contents.foldlM step (start f) = .ok v)
    (finished : v.context.finish = .ok ()) :
    (contents.flatMap Content.bodyItems).length = (contents.flatMap Content.definedFunctions).length := by
  have counted := run_due run fun _ => rfl
  have none : v.context.bodiesDue.getD 0 = 0 := by
    unfold Context.finish at finished
    rcases ite_eq_ok_iff.1 (ok_behind finished) with ⟨_, failed⟩ | ⟨done, _⟩
    · cases failed
    · cases due : v.context.bodiesDue with
      | none => rfl
      | some n =>
        simp only [due, Option.any_some, decide_eq_true_eq, Nat.not_lt, Nat.le_zero_eq] at done
        exact done
  rw [none] at counted
  exact counted.symm

end Validator

end WasmLens.Wasm
