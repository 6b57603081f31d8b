import WasmLens.Proofs.Cli.Assigning
import WasmLens.Proofs.Session.Invoking

/-!
# Calls on the command line

The command that calls a function reads its arguments by the types that the catalog shows, and these have `void` for
whatever no host has values of. No text is read as `void`, and as many texts as parameters are asked for, so **a call
that is made at all has arguments of the declared types**: it is entered, and what the command tells is how the code of
the function ends (`plan_calls`). Everything that goes wrong before is told in words, and not as a trap (`worded_plan`).
-/
namespace WasmLens.Cli

open Wasm Session Machine

/-! ## Arguments -/

/-- Each text is read by itself. -/
theorem readArguments_cons_iff {number : Nat} {t : ValueType} {types : List ValueType} {raw : String}
    {raws : List String} {vs : List Value} : readArguments number (t :: types) (raw :: raws) = .ok vs ↔
      ∃ v others, Value.read t raw = .ok v ∧ readArguments (number + 1) types raws = .ok others ∧ v :: others = vs := by
  simp only [readArguments, bind_eq_ok_iff, pure_eq_ok_iff, readValue_eq_ok_iff, exists_and_left]

/-- A value is read of no type but one that a module has values of. -/
theorem toValType?_of_read {type : ValType} {raw : String} {v : Value} (read : Value.read type.reflect raw = .ok v) :
    v.type.toValType? = some type := by
  rw [type_of_read read]
  cases type with
  | v128 | ref => cases read
  | i32 | i64 | f32 | f64 => rfl

/-- **Arguments that are read** have the declared types, one for one. -/
theorem passedTypes_of_read : ∀ {params : List ValType} {raws : List String} {vs : List Value} {number : Nat},
    raws.length = params.length → readArguments number (params.map (·.reflect)) raws = .ok vs → passedTypes vs = params
  | [], raws, vs, number, _, read => by
    rw [List.map_nil, readArguments] at read
    · cases read
      rfl
    · exact nofun
  -- there are as many texts as parameters, so none is left out
  | param :: params, raw :: raws, vs, number, count, read => by
    obtain ⟨v, others, first, rest, rfl⟩ := readArguments_cons_iff.1 read
    rw [passedTypes, List.filterMap_cons_some (a := v) (toValType?_of_read first), ← passedTypes,
      passedTypes_of_read (Nat.succ.inj count) rest]

/-- **Reading arguments** is reading each text at the type that stands at its place. -/
theorem readArguments_eq_ok_iff : ∀ {types : List ValueType} {raws : List String} {vs : List Value} {number : Nat},
    readArguments number types raws = .ok vs ↔ (types.zip raws).mapM (fun (t, raw) => Value.read t raw) = .ok vs
  | t :: types, raw :: raws, vs, number => by
    rw [readArguments_cons_iff, List.zip_cons_cons, mapM_cons_eq_ok_iff]
    simp only [readArguments_eq_ok_iff, eq_comm (a := vs)]
  | [], raws, vs, number => by
    rw [readArguments, List.zip_nil_left, mapM_nil_eq_ok_iff, Except.ok.injEq, eq_comm]
    exact nofun
  | t :: types, [], vs, number => by
    rw [readArguments, List.zip_nil_right, mapM_nil_eq_ok_iff, Except.ok.injEq, eq_comm]
    exact nofun

section

variable {types : List ValueType} {raws : List String} {vs : List Value} {number : Nat}

theorem length_of_readArguments (count : raws.length = types.length)
    (read : readArguments number types raws = .ok vs) : vs.length = types.length := by
  have length := (mapM_getElem? (readArguments_eq_ok_iff.1 read)).1
  rw [List.length_zip, count, Nat.min_self] at length
  exact length

/-- The value of each argument is the one of its text. -/
theorem readArguments_getElem? {i : Nat} {t : ValueType} {raw : String}
    (read : readArguments number types raws = .ok vs) (typed : types[i]? = some t) (text : raws[i]? = some raw) :
    ∃ v, Value.read t raw = .ok v ∧ vs[i]? = some v :=
  (mapM_getElem? (readArguments_eq_ok_iff.1 read)).2 i (t, raw) (List.getElem?_zip_eq_some.2 ⟨typed, text⟩)

/-- Arguments are read if each one is. -/
theorem exists_readArguments (number : Nat)
    (each : ∀ (i : Nat) t raw, types[i]? = some t → raws[i]? = some raw → ∃ v, Value.read t raw = .ok v) :
    ∃ vs, readArguments number types raws = .ok vs := by
  cases read : (types.zip raws).mapM (fun (t, raw) => Value.read t raw) with
  | ok vs => exact ⟨vs, readArguments_eq_ok_iff.2 read⟩
  | error cause =>
    obtain ⟨front, ⟨t, raw⟩, back, split, _, fails⟩ := mapM_eq_error_iff.1 read
    obtain ⟨i, here⟩ := List.getElem?_of_mem (split ▸ List.mem_append_right front List.mem_cons_self)
    obtain ⟨typed, text⟩ := List.getElem?_zip_eq_some.1 here
    obtain ⟨v, reads⟩ := each i t raw typed text
    cases fails.symm.trans reads

end

/-! ## Failures that are told in words -/

/-- A command that stops is told of in words, and not as a trap of some code. -/
def Stop.Worded : Stop → Prop
  | .failed f => ∀ line ∈ f.causes, ∃ s, line = .text s
  | .aborted | .endless => True

/-- If it stops, it does so in words. -/
def Worded {α : Type} (x : Task α) : Prop := ∀ stop, x = .error stop → stop.Worded

section

variable {α β : Type} {x : Task α}

theorem worded_ok (a : α) : Worded (.ok a : Task α) := nofun

theorem Worded.bind (first : Worded x) {f : α → Task β} (rest : ∀ a, Worded (f a)) : Worded (x >>= f) := by
  intro stop failed
  rcases bind_eq_error_iff.1 failed with here | ⟨a, _, later⟩
  · exact first stop here
  · exact rest a stop later

theorem worded_of_texts (texts notes : List String) :
    Worded (.error (.failed ⟨texts.map .text, notes⟩) : Task α) := by
  rintro _ ⟨⟩ line mem
  obtain ⟨s, _, rfl⟩ := List.mem_map.1 mem
  exact ⟨s, rfl⟩

theorem worded_fail (s : String) : Worded (fail s : Task α) := worded_of_texts [s] []

theorem worded_orFail (outer : List String) (x : Except Error α) : Worded (orFail outer x) := by
  cases x with
  | ok a => exact worded_ok a
  | error cause =>
    rintro _ ⟨⟩
    induction outer with
    | nil =>
      intro line mem
      exact ⟨_, List.mem_singleton.1 mem⟩
    | cons s outer ih =>
      intro line mem
      rcases List.mem_cons.1 mem with rfl | inner
      · exact ⟨s, rfl⟩
      · exact ih line inner

theorem worded_readConfig (files : Files) (path : Option String) : Worded (readConfig files path) := by
  unfold readConfig
  repeat' split
  all_goals first | exact worded_ok _ | exact worded_fail _

theorem worded_readModule (host : Host) (path : String) : Worded (readModule host path) := by
  unfold readModule
  dsimp only
  repeat' split
  · exact worded_of_texts [_, _, _] _
  · exact worded_ok _
  · exact worded_ok _
  · exact worded_of_texts [_, _] _

theorem worded_declare (host : Host) (r : Request) (path : String) : Worded (declare host r path) := by
  refine (worded_readConfig _ _).bind fun config => (worded_readModule _ _).bind fun bytes =>
    (worded_orFail _ _).bind fun s => ?_
  dsimp only
  split
  · exact fun _ stopped => by cases stopped; trivial
  · exact worded_orFail _ _
  · exact (worded_orFail _ _).bind fun _ => worded_ok _

theorem worded_await (x : Option α) : Worded (await x) := by
  cases x with
  | some a => exact worded_ok a
  | none =>
    rintro _ ⟨⟩
    trivial

theorem worded_instantiate (s : Session) : Worded (instantiate s) :=
  (worded_await _).bind fun _ => (worded_orFail _ _).bind fun _ => worded_ok _

theorem worded_readValue (outer : String) (t : ValueType) (raw : String) : Worded (readValue outer t raw) := by
  unfold readValue
  split
  · exact worded_ok _
  · exact worded_of_texts [_, _] _

theorem worded_assign (s : Session) (name raw : String) : Worded (assign s name raw) := by
  unfold assign
  split
  · exact worded_fail _
  · exact (worded_readValue _ _ _).bind fun v => (worded_orFail _ _).bind fun _ => worded_ok _

theorem worded_readArguments : ∀ (number : Nat) (types : List ValueType) (raws : List String),
    Worded (readArguments number types raws)
  | number, t :: types, raw :: raws => by
    rw [readArguments]
    exact (worded_readValue _ _ _).bind fun _ => (worded_readArguments _ _ _).bind fun _ => worded_ok _
  | number, [], raws => by
    rw [readArguments]
    · exact worded_ok _
    · exact nofun
  | number, _ :: _, [] => by
    rw [readArguments]
    · exact worded_ok _
    · exact nofun

theorem worded_prepareCall (s : Session) (name : String) (args : List String) : Worded (prepareCall s name args) := by
  unfold prepareCall
  split
  · exact worded_fail _
  · dsimp only
    split
    · exact worded_of_texts [_] _
    · exact (worded_readArguments _ _ _).bind fun _ => worded_ok _

end

/-! ## The session of a call -/

section

variable {host : Host} {r : Request} {path name : String} {globals : List (String × String)} {s s' : Session}

/-- The contents of the module at a path, by the features of the configuration that is asked for. -/
def ReadsContents (host : Host) (r : Request) (path : String) (contents : List Content) : Prop :=
  ∃ c bytes, readConfig host.files r.config = .ok c ∧ readModule host path = .ok bytes ∧
    (Sections.payloads bytes).mapM (Content.ofSection c.features) = .ok contents

/-- **The session that the command calls a function of**: all imports are declared, globals are assigned, and the module
is instantiated. -/
def Readies (host : Host) (r : Request) (path : String) (globals : List (String × String)) (s : Session) : Prop :=
  ∃ declared assigned, declare host r path = .ok declared ∧
    globals.foldlM (fun s (name, raw) => assign s name raw) declared = .ok assigned ∧ instantiate assigned = .ok s

/-- Only the operation that sets it changes the timer. -/
theorem timer_of_performs {op : Op} {reply : Reply} (h : Performs s op s' reply)
    (other : ∀ timer, op ≠ .setTimer timer) : s'.timer = s.timer := by
  cases h with
  | setsTimer timer => exact absurd rfl (other timer)
  | _ => rfl

theorem timer_of_assign {raw : String} (h : assign s name raw = .ok s') : s'.timer = s.timer := by
  obtain ⟨_, v, _, _, set⟩ := assign_sets h
  have performed := timer_of_performs (setGlobal_performs s name v) nofun
  rw [show (s.perform (.setGlobal name v)).1 = s' from congrArg Prod.fst set] at performed
  exact performed

theorem await_eq_ok {α : Type} {x : Option α} {a : α} (h : await x = .ok a) : x = some a := by
  cases x <;> cases h
  rfl

theorem instantiate_ok (h : instantiate s = .ok s') :
    s' = s.run [.instantiate] ∧ s'.phase = .instantiated ∧ s'.timer = s.timer := by
  obtain ⟨⟨now, result⟩, ended, h⟩ := bind_eq_ok_iff.1 h
  obtain ⟨_, done, h⟩ := bind_eq_ok_iff.1 h
  obtain rfl := pure_eq_ok_iff.1 h
  have ended := await_eq_ok ended
  obtain rfl := orFail_eq_ok done
  have answered : s.perform .instantiate = (now, .ok .done) := by
    rw [Session.perform, ended]
    rfl
  have performed := instantiate_performs s
  rw [answered] at performed
  refine ⟨(congrArg Prod.fst answered).symm, ?_, timer_of_performs performed (by simp)⟩
  cases performed with
  | instantiates => rfl

/-- **Such a session** is that of an instance, after some run, with a timer that makes one call. -/
theorem Readies.run (h : Readies host r path globals s) : ∃ c bytes compiled ops,
    readConfig host.files r.config = .ok c ∧ readModule host path = .ok bytes ∧ compile c bytes = .ok compiled ∧
      s = compiled.run ops ∧ s.phase = .instantiated ∧ s.timer.runs = 1 := by
  obtain ⟨declared, assigned, declares, assigns, readied⟩ := h
  obtain ⟨c, bytes, compiled, config, module, compiles, rfl⟩ := declare_reads declares
  obtain ⟨ops, run⟩ := assigns_run assigns
  obtain ⟨linked, live, timer⟩ := instantiate_ok readied
  refine ⟨c, bytes, compiled, [.declareMemory, .declareGlobals] ++ ops ++ [.instantiate], config, module, compiles, ?_,
    live, ?_⟩
  · rw [linked, run, run_append, run_append]
  · -- nothing on the way sets the timer, so it is still the one of the configuration
    have kept : assigned.timer = (compiled.run [.declareMemory, .declareGlobals]).timer :=
      run_related (R := fun s s' : Session => s'.timer = s.timer) (fun _ => rfl)
        (fun first second => second.trans first) (fun _ _ _ _ assigned => timer_of_assign assigned) assigns
    have declared : (compiled.run [.declareMemory, .declareGlobals]).timer = compiled.timer :=
      (timer_of_performs (declareGlobals_performs _) nofun).trans (timer_of_performs (declareMemory_performs _) nofun)
    obtain ⟨_, m, _, rfl⟩ := compile_ok compiles
    rw [timer, kept, declared]
    show (Timer.ofConfig m.config.measureCalls).runs = 1
    unfold Timer.ofConfig
    split <;> rfl

/-- **What a session offers to be called** under a name: a function of some type. -/
structure Offers (s : Session) (name : String) (func : Nat) (t : FuncType) : Prop where
  listed : ∃ e, s.catalog.get? name = some e ∧ e.index = func ∧
    e.signature = ⟨t.params.map (·.reflect), t.results.map (·.reflect)⟩
  /-- A call is made, whatever the arguments, -/
  called : ∀ args, s.invoke func args = (s.measure func args).map fun (s', i) => (s', .ok i)
  /-- and the function is entered if they have the declared types. -/
  entered : ∀ args,
    (firstState? s.module.program s.store func (args.filterMap Value.toVal?)).isSome ↔ passedTypes args = t.params

theorem Readies.offers (h : Readies host r path globals s) : ∃ contents, ReadsContents host r path contents ∧
    (∀ name func, s.module.outline.ExportsFunction name func →
      ∃ t, Content.DeclaresFunction contents func t ∧ Offers s name func t) ∧
        ∀ name e, s.catalog.get? name = some e → s.module.outline.ExportsFunction name e.index := by
  obtain ⟨c, bytes, compiled, ops, config, module, accepted, rfl, live, _⟩ := h.run
  have callable := run_callable_compiled accepted ops live
  obtain ⟨reading, m, compiles, rfl⟩ := compile_ok accepted
  have coherent := compiles.coherent
  have cataloged := cataloged_of_live coherent compiles.located.1 ops live
  rw [run_module]
  refine ⟨reading.contents, ⟨c, bytes, config, module, (Reading.ofBytes_ok_iff.1 compiles.read).1.decoded⟩,
    fun name func exported => ?_, fun name e found => ((cataloged.get name e).1 found).2⟩
  obtain ⟨g, found, declared, code⟩ := compiles.function (coherent.outline.exported _ exported rfl)
  obtain ⟨e, named⟩ := Option.isSome_iff_exists.1 ((cataloged.exported name).2 ⟨func, exported⟩)
  obtain ⟨mem, here⟩ := (cataloged.get name e).1 named
  obtain rfl : e.index = func := (callable []).unique name e.index func here exported
  refine ⟨g.type, declared, ⟨e, named, rfl, ?_⟩, fun args => (callable args).exported name e.index exported,
    fun args => ?_⟩
  · obtain ⟨type, sub, t, there, defined, function, signature⟩ := cataloged.signature e mem
    rw [declared.unique ⟨type, sub, there, defined, function⟩]
    exact signature
  · rw [run_module]
    exact firstState?_isSome_iff found (code (cataloged.own ▸ Nat.zero_le e.index))

end

/-! ## Making a call -/

/-- What is shown of how the code of a function has ended; nothing if it never does. -/
def Call.shows (c : Call) : Option Machine.Outcome → Task (List Line)
  | some (.returned _ results) => .ok (results.reverse.map (fun v => .text v.toValue.text) ++
      [.elapsed (c.session.timer.elapsed?.map Invocation.clampNanos)])
  | some (.trapped _ _) =>
    .error (.failed ⟨[.trapped c.name (c.session.timer.elapsed?.map Invocation.clampNanos)], []⟩)
  | none => .error .endless

/-- The command shows how the code ends that it has entered. -/
theorem Call.make_eq {c : Call} {state : State} (once : c.session.timer.runs = 1)
    (called : c.session.invoke c.function c.args =
      (c.session.measure c.function c.args).map fun (s', i) => (s', .ok i))
    (entered : firstState? c.session.module.program c.session.store c.function (c.args.filterMap Value.toVal?) =
      some state) : c.make = c.shows (Machine.run c.session.module.program state) := by
  rw [make, called, measure_once once, callOnce, Machine.call, entered]
  dsimp only
  rcases Machine.run c.session.module.program state with _ | ⟨store, results⟩ | ⟨store, cause⟩
  · rfl
  · show Except.ok (((results.reverse.map Val.toValue).map fun v => Line.text v.text) ++ _) = _
    rw [List.map_map]
    rfl
  · rfl

/-- **Texts that are no arguments** for parameters of some types. -/
inductive Unfit (params : List ValType) (args : List String) : Prop where
  /-- There are more of them or fewer. -/
  | count (other : args.length ≠ params.length)
  /-- One of them is not read at the type of its parameter. -/
  | text {i : Nat} {type : ValType} {raw : String} (param : params[i]? = some type) (arg : args[i]? = some raw)
      (unread : ∀ v, Value.read type.reflect raw ≠ .ok v)
  /-- There is a parameter that no host has values for. -/
  | unreflected {type : ValType} (param : type ∈ params) (none : type.reflect? = none)

/-- Arguments that are read are of no such texts. -/
theorem not_unfit_of_read {params : List ValType} {args : List String} {vs : List Value}
    (count : args.length = params.length) (read : readArguments 0 (params.map (·.reflect)) args = .ok vs) :
    ¬Unfit params args := by
  intro unfit
  cases unfit with
  | count other => exact other count
  | text param arg unread =>
    obtain ⟨v, reads, _⟩ := readArguments_getElem? read (by rw [List.getElem?_map, param, Option.map_some]) arg
    exact unread v reads
  | unreflected param none => exact passedTypes_ne ⟨_, param, none⟩ (passedTypes_of_read count read)

section

variable {s : Session} {name : String} {func : Nat} {t : FuncType} {args : List String} {c : Call}

/-- A call is prepared if there are as many texts as parameters, and all are read. -/
theorem Offers.prepareCall_eq (offers : Offers s name func t) (args : List String) : ∃ f, prepareCall s name args =
    if t.params.length ≠ args.length then .error (.failed f)
    else (readArguments 0 (t.params.map (·.reflect)) args).map fun vs => ⟨s, name, func, vs⟩ := by
  obtain ⟨e, found, rfl, signature⟩ := offers.listed
  have params : e.signature.params = t.params.map (·.reflect) := congrArg Signature.params signature
  refine ⟨⟨[.text (tick name ++ " takes " ++ toString t.params.length ++ " arguments but " ++ toString args.length
    ++ " were given")], ["signature: " ++ e.signature.text]⟩, ?_⟩
  rw [prepareCall, found]
  dsimp only
  rw [params, List.length_map]
  split <;> rfl

theorem failed_of_readArguments {stop : Stop} : ∀ {types : List ValueType} {raws : List String} {number : Nat},
    readArguments number types raws = .error stop → ∃ f, stop = .failed f
  | t :: types, raw :: raws, number, failed => by
    rw [readArguments] at failed
    rcases bind_eq_error_iff.1 failed with first | ⟨v, _, later⟩
    · unfold readValue at first
      split at first <;> cases first
      exact ⟨_, rfl⟩
    · rcases bind_eq_error_iff.1 later with rest | ⟨_, _, last⟩
      · exact failed_of_readArguments rest
      · cases last
  | [], raws, number, failed => by
    rw [readArguments] at failed
    · cases failed
    · exact nofun
  | _ :: _, [], number, failed => by
    rw [readArguments] at failed
    · cases failed
    · exact nofun

/-- **A call that is prepared** has values of the declared types, each read from its text. -/
theorem Offers.prepared (offers : Offers s name func t) (h : prepareCall s name args = .ok c) :
    c.session = s ∧ c.name = name ∧ c.function = func ∧
      (args.length = t.params.length ∧ c.args.length = t.params.length) ∧
        (∀ (i : Nat) type raw, t.params[i]? = some type → args[i]? = some raw →
          ∃ v, Value.read type.reflect raw = .ok v ∧ c.args[i]? = some v) ∧ passedTypes c.args = t.params := by
  obtain ⟨f, eq⟩ := offers.prepareCall_eq args
  rw [h] at eq
  split at eq
  · cases eq
  · rename_i count
    rw [ne_eq, Decidable.not_not] at count
    obtain ⟨vs, read, rfl⟩ := map_eq_ok_iff.1 eq.symm
    have length : vs.length = (t.params.map (·.reflect)).length :=
      length_of_readArguments (by rw [List.length_map, count]) read
    rw [List.length_map] at length
    refine ⟨rfl, rfl, rfl, ⟨count.symm, length⟩, fun i type raw param arg => ?_, passedTypes_of_read count.symm read⟩
    refine readArguments_getElem? read ?_ arg
    rw [List.getElem?_map, param]
    rfl

/-- **Texts that are no arguments** are refused, -/
theorem Offers.refused (offers : Offers s name func t) (unfit : Unfit t.params args) :
    ∃ f, prepareCall s name args = .error (.failed f) := by
  obtain ⟨f, eq⟩ := offers.prepareCall_eq args
  rw [eq]
  split
  · exact ⟨f, rfl⟩
  · rename_i count
    rw [ne_eq, Decidable.not_not] at count
    cases read : readArguments 0 (t.params.map (·.reflect)) args with
    | ok vs => exact absurd unfit (not_unfit_of_read count.symm read)
    | error stop =>
      obtain ⟨f, rfl⟩ := failed_of_readArguments read
      exact ⟨f, rfl⟩

/-- and all others are not. -/
theorem Offers.accepted (offers : Offers s name func t) (fit : ¬Unfit t.params args) :
    ∃ c, prepareCall s name args = .ok c := by
  have count : args.length = t.params.length := by
    by_cases same : args.length = t.params.length
    · exact same
    · exact absurd (.count same) fit
  have each (i : Nat) (shown : ValueType) (raw : String) (param : (t.params.map (·.reflect))[i]? = some shown)
      (arg : args[i]? = some raw) : ∃ v, Value.read shown raw = .ok v := by
    rw [List.getElem?_map] at param
    obtain ⟨type, declared, rfl⟩ := Option.map_eq_some_iff.1 param
    cases read : Value.read type.reflect raw with
    | ok v => exact ⟨v, rfl⟩
    | error cause => exact absurd (.text declared arg fun v => by rw [read]; exact nofun) fit
  obtain ⟨vs, read⟩ := exists_readArguments 0 each
  obtain ⟨f, eq⟩ := offers.prepareCall_eq args
  rw [if_neg (not_not_intro count.symm), read] at eq
  exact ⟨_, eq⟩

end

/-! ## The command -/

section

variable {host : Host} {r : Request} {path name : String} {args : List String} {globals : List (String × String)}

/-- **No command reports a trap** before it calls a function. -/
theorem worded_plan (host : Host) (r : Request) : Worded (plan host r) := by
  unfold plan
  split
  · exact (worded_declare _ _ _).bind fun _ => (worded_instantiate _).bind fun _ => worded_ok _
  · refine (worded_declare _ _ _).bind fun _ => (worded_instantiate _).bind fun _ => Worded.bind ?_ fun _ => worded_ok _
    unfold dump
    repeat' split
    all_goals first | exact worded_ok _ | exact worded_fail _
  · refine (worded_declare _ _ _).bind fun _ => Worded.bind ?_ fun _ =>
      (worded_instantiate _).bind fun _ => (worded_prepareCall _ _ _).bind fun _ => worded_ok _
    exact fun _ => foldlM_error Stop.Worded fun _ _ => worded_assign _ _ _

/-- The command comes down to a call exactly if one is prepared on its session. -/
theorem plan_eq_ok_iff (command : r.command = .invoke path name args globals) {p : Plan} : plan host r = .ok p ↔
    ∃ s c, Readies host r path globals s ∧ prepareCall s name args = .ok c ∧ .call c = p := by
  simp only [plan, command, bind_eq_ok_iff, pure_eq_ok_iff]
  constructor
  · rintro ⟨declared, declares, assigned, assigns, s, readied, c, prepared, eq⟩
    exact ⟨s, c, ⟨declared, assigned, declares, assigns, readied⟩, prepared, eq⟩
  · rintro ⟨s, c, ⟨declared, assigned, declares, assigns, readied⟩, prepared, eq⟩
    exact ⟨declared, declares, assigned, assigns, s, readied, c, prepared, eq⟩

/-- A call that is not prepared is why the command stops. -/
theorem plan_refused (command : r.command = .invoke path name args globals) {s : Session} {stop : Stop}
    (readies : Readies host r path globals s) (refused : prepareCall s name args = .error stop) :
    plan host r = .error stop := by
  obtain ⟨declared, assigned, declares, assigns, readied⟩ := readies
  simp only [plan, command, bind_eq_error_iff]
  exact .inr ⟨declared, declares, .inr ⟨assigned, assigns, .inr ⟨s, readied, .inl refused⟩⟩⟩

/-- **A call** of a function of some type, with arguments that are read from texts. -/
structure Makes (c : Call) (name : String) (t : FuncType) (args : List String) : Prop where
  named : c.name = name
  /-- There is one text and one argument for each parameter, -/
  count : args.length = t.params.length ∧ c.args.length = t.params.length
  /-- and each argument is what its text is read as. -/
  values : ∀ (i : Nat) type raw, t.params[i]? = some type → args[i]? = some raw →
    ∃ v, Value.read type.reflect raw = .ok v ∧ c.args[i]? = some v
  /-- Those that are not void have the declared types, -/
  passed : passedTypes c.args = t.params
  /-- so the function is entered, and what is shown is how its code ends. -/
  entered : ∃ state,
    (firstState? c.session.module.program c.session.store c.function (c.args.filterMap Value.toVal?)) = some state ∧
      c.make = c.shows (Machine.run c.session.module.program state)

/-- A call that is prepared is such a call. -/
theorem Offers.makes {s : Session} {func : Nat} {t : FuncType} {c : Call} (offers : Offers s name func t)
    (readies : Readies host r path globals s) (prepared : prepareCall s name args = .ok c) :
    c.session = s ∧ c.function = func ∧ Makes c name t args := by
  obtain ⟨rfl, named, rfl, count, values, passed⟩ := offers.prepared prepared
  obtain ⟨state, entered⟩ := Option.isSome_iff_exists.1 ((offers.entered c.args).2 passed)
  obtain ⟨_, _, _, _, _, _, _, _, _, once⟩ := readies.run
  exact ⟨rfl, rfl, named, count, values, passed, state, entered, Call.make_eq once (offers.called c.args) entered⟩

/-- Whatever the command comes down to is such a call. -/
theorem makes_of_plan (command : r.command = .invoke path name args globals) {p : Plan} (h : plan host r = .ok p) :
    ∃ c contents t, p = .call c ∧ Readies host r path globals c.session ∧ ReadsContents host r path contents ∧
      c.session.module.outline.ExportsFunction name c.function ∧ Content.DeclaresFunction contents c.function t ∧
        Makes c name t args := by
  obtain ⟨s, c, readies, prepared, rfl⟩ := (plan_eq_ok_iff command).1 h
  obtain ⟨contents, reads, offered, exported⟩ := readies.offers
  cases found : s.catalog.get? name with
  | none =>
    rw [prepareCall, found] at prepared
    cases prepared
  | some e =>
    obtain ⟨t, declared, offers⟩ := offered name e.index (exported name e found)
    obtain ⟨rfl, function, makes⟩ := offers.makes readies prepared
    rw [← function] at declared
    exact ⟨c, contents, t, rfl, readies, reads, function ▸ exported name e found, declared, makes⟩

/-- A trap of some code is among the causes that a command reports. -/
def ReportsTrap (x : Task (List Line)) : Prop :=
  ∃ told ∈ report x, ∃ label nanos, .trapped label nanos ∈ told.causes

theorem Stop.Worded.not_reportsTrap {stop : Stop} (worded : stop.Worded) : ¬ReportsTrap (.error stop) := by
  rintro ⟨_, told, label, nanos, mem⟩
  cases stop with
  | failed f =>
    cases told
    obtain ⟨s, never⟩ := worded _ mem
    cases never
  | aborted =>
    cases told
    cases mem
  | endless => cases told

/-- **A trap is reported** exactly if the command calls a function whose code traps. -/
theorem trapped_mem_causes_iff (command : r.command = .invoke path name args globals) :
    ReportsTrap (plan host r >>= Plan.carryOut) ↔
      ∃ c state store cause, plan host r = .ok (.call c) ∧
        firstState? c.session.module.program c.session.store c.function (c.args.filterMap Value.toVal?) = some state ∧
          Machine.run c.session.module.program state = some (.trapped store cause) := by
  constructor
  · intro reported
    cases planned : plan host r with
    | error stop =>
      -- whatever stops the command before a call is told in words
      rw [planned] at reported
      exact absurd reported (worded_plan host r stop planned).not_reportsTrap
    | ok p =>
      obtain ⟨c, _, _, rfl, _, _, _, _, makes⟩ := makes_of_plan command planned
      obtain ⟨state, entered, made⟩ := makes.entered
      rw [planned, show (Except.ok (.call c) >>= Plan.carryOut : Task _) = c.make from rfl, made] at reported
      obtain ⟨_, told, _, _, mem⟩ := reported
      rcases ended : Machine.run c.session.module.program state with _ | ⟨store, results⟩ | ⟨store, cause⟩
      · rw [ended] at told
        cases told
      · rw [ended] at told
        cases told
        cases mem
      · exact ⟨c, state, store, cause, rfl, entered, ended⟩
  · rintro ⟨c, state, store, cause, planned, entered, ended⟩
    obtain ⟨_, _, _, ⟨⟩, _, _, _, _, makes⟩ := makes_of_plan command planned
    obtain ⟨state', entered', made⟩ := makes.entered
    obtain rfl : state = state' := Option.some.inj (entered.symm.trans entered')
    rw [planned, show (Except.ok (.call c) >>= Plan.carryOut : Task _) = c.make from rfl, made, ended]
    exact ⟨_, rfl, _, _, List.mem_cons_self⟩

/-- **Calling a function by the command line**, for every module, name and texts. A call that is made has arguments of
the declared types, each read from its text, and enters the function. Texts that are no arguments, and a function with
a parameter that no host has values for, are refused before; other texts are not. So a trap is reported exactly if the
code traps that was called. -/
theorem plan_calls (command : r.command = .invoke path name args globals) :
    (∀ p, plan host r = .ok p → ∃ c contents t, p = .call c ∧ Readies host r path globals c.session ∧
      ReadsContents host r path contents ∧ c.session.module.outline.ExportsFunction name c.function ∧
        Content.DeclaresFunction contents c.function t ∧ Makes c name t args) ∧
    (∀ s func, Readies host r path globals s → s.module.outline.ExportsFunction name func →
      ∃ contents t, ReadsContents host r path contents ∧ Content.DeclaresFunction contents func t ∧
        (Unfit t.params args → ∃ f, plan host r = .error (.failed f)) ∧
          (¬Unfit t.params args →
            ∃ c, plan host r = .ok (.call c) ∧ c.session = s ∧ c.function = func ∧ Makes c name t args)) ∧
    (ReportsTrap (plan host r >>= Plan.carryOut) ↔
      ∃ c state store cause, plan host r = .ok (.call c) ∧
        firstState? c.session.module.program c.session.store c.function (c.args.filterMap Value.toVal?) = some state ∧
          Machine.run c.session.module.program state = some (.trapped store cause)) := by
  refine ⟨fun p => makes_of_plan command, fun s func readies exported => ?_, trapped_mem_causes_iff command⟩
  obtain ⟨contents, reads, offered, _⟩ := readies.offers
  obtain ⟨t, declared, offers⟩ := offered name func exported
  refine ⟨contents, t, reads, declared, fun unfit => ?_, fun fit => ?_⟩
  · obtain ⟨f, refused⟩ := offers.refused unfit
    exact ⟨f, plan_refused command readies refused⟩
  · obtain ⟨c, prepared⟩ := offers.accepted fit
    exact ⟨c, (plan_eq_ok_iff command).2 ⟨s, c, readies, prepared, rfl⟩, offers.makes readies prepared⟩

/-- Divides seven by zero. -/
def dividing : Request := ⟨none, 0, .invoke "m" "d" ["7", "0"] []⟩

theorem plan_calls_dividing : dividing.command = .invoke "m" "d" ["7", "0"] [] ∧
    ∃ s c t, Readies (Host.serving callsModule) dividing "m" [] s ∧ s.module.outline.ExportsFunction "d" 0 ∧
      ¬Unfit t.params ["7", "0"] ∧ plan (Host.serving callsModule) dividing = .ok (.call c) ∧
        Makes c "d" t ["7", "0"] ∧ ReportsTrap (plan (Host.serving callsModule) dividing >>= Plan.carryOut) := by
  obtain ⟨_, offered, traps⟩ := @plan_calls (Host.serving callsModule) dividing "m" "d" ["7", "0"] [] rfl
  obtain ⟨declared, declares, s, readied, exported, divides⟩ :
      ∃ declared, declare (Host.serving callsModule) dividing "m" = .ok declared ∧
        ∃ s, instantiate declared = .ok s ∧ s.module.outline.ExportsFunction "d" 0 ∧
          (callOnce s.module.program s.store 0 [.i32 7, .i32 0]).map (·.2) = some (.error .divisionByZero) := by
    unfold Outline.ExportsFunction
    decide +kernel
  have readies : Readies (Host.serving callsModule) dividing "m" [] s := ⟨declared, declared, declares, rfl, readied⟩
  obtain ⟨contents, t, ⟨_, bytes, ⟨⟩, module, decoded⟩, declares, _, accepted⟩ := offered s 0 readies exported
  obtain rfl : callsModule = bytes := Except.ok.inj ((rfl : readModule _ _ = .ok callsModule).symm.trans module)
  obtain ⟨contents', decoded', type, declared'⟩ : ∃ contents,
      (Sections.payloads callsModule).mapM (Content.ofSection ({} : Config).features) = .ok contents ∧
        (((contents.flatMap (·.importItems)).filterMap (·.functionType?)
            ++ contents.flatMap (·.definedFunctions))[0]? = some 0 ∧
          (contents.flatMap (·.definedTypes))[0]?.bind (·.funcType?) = some ⟨[.i32, .i32], [.i32]⟩) := by decide +kernel
  obtain rfl : contents = contents' := Except.ok.inj (decoded.symm.trans decoded')
  obtain ⟨sub, there, function⟩ := Option.bind_eq_some_iff.1 declared'
  obtain rfl : t = ⟨[.i32, .i32], [.i32]⟩ := declares.unique ⟨0, sub, type, there, function⟩
  have seven : Value.read .i32 "7" = .ok (.i32 7) := by decide +kernel
  have zero : Value.read .i32 "0" = .ok (.i32 0) := by decide +kernel
  have read : readArguments 0 [.i32, .i32] ["7", "0"] = .ok [.i32 7, .i32 0] :=
    readArguments_cons_iff.2 ⟨_, _, seven, readArguments_cons_iff.2 ⟨_, _, zero, rfl, rfl⟩, rfl⟩
  have fit : ¬Unfit [.i32, .i32] ["7", "0"] := not_unfit_of_read rfl read
  obtain ⟨c, planned, rfl, function, makes⟩ := accepted fit
  refine ⟨rfl, _, c, _, readies, exported, fit, planned, makes, traps.2 ?_⟩
  obtain ⟨state, entered, _⟩ := makes.entered
  have args : c.args = [.i32 7, .i32 0] := by
    obtain ⟨v, w, args⟩ := List.length_eq_two.1 makes.count.2
    obtain ⟨_, first, here⟩ := makes.values 0 .i32 "7" rfl rfl
    obtain ⟨_, second, there⟩ := makes.values 1 .i32 "0" rfl rfl
    rw [args] at here there
    cases first.symm.trans seven
    cases second.symm.trans zero
    cases here
    cases there
    exact args
  have entered' : firstState? c.session.module.program c.session.store 0 [.i32 7, .i32 0] = some state := by
    rw [function, args] at entered
    exact entered
  rw [callOnce, Machine.call, entered'] at divides
  rcases ended : Machine.run c.session.module.program state with _ | ⟨store, results⟩ | ⟨store, cause⟩
  · simp only [ended] at divides
    cases divides
  · simp only [ended] at divides
    cases divides
  · exact ⟨c, state, store, cause, planned, entered, ended⟩

end

end WasmLens.Cli
