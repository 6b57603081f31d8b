/-!
# Computations that may fail

How a chain of steps in `Except` comes apart: it succeeds exactly if every step does, and it fails only as
one of its steps can.
-/
namespace WasmLens

variable {ε α β : Type}

/-- **Sequencing succeeds** exactly if the first step does and the second does on its answer. -/
theorem bind_eq_ok_iff {x : Except ε α} {f : α → Except ε β} {b : β} :
    x >>= f = .ok b ↔ ∃ a, x = .ok a ∧ f a = .ok b := by
  cases x <;> simp [bind, Except.bind]

/-- **Sequencing fails** if the first step does, or the second one on its answer. -/
theorem bind_eq_error_iff {x : Except ε α} {f : α → Except ε β} {e : ε} :
    x >>= f = .error e ↔ x = .error e ∨ ∃ a, x = .ok a ∧ f a = .error e := by
  cases x <;> simp [bind, Except.bind]

theorem map_eq_ok_iff {x : Except ε α} {f : α → β} {b : β} :
    x.map f = .ok b ↔ ∃ a, x = .ok a ∧ f a = b := by
  cases x <;> simp [Except.map]

theorem mapError_eq_ok {ε' : Type} {x : Except ε α} {f : ε → ε'} {a : α} (h : x.mapError f = .ok a) :
    x = .ok a := by
  cases x with
  | ok b =>
    cases h
    rfl
  | error e => cases h

theorem pure_eq_ok_iff {a b : α} : (pure a : Except ε α) = .ok b ↔ a = b := by
  simp [pure, Except.pure]

/-- A branch that succeeds says which way it went. -/
theorem ite_eq_ok_iff {c : Prop} [Decidable c] {x y : Except ε α} {a : α} :
    (if c then x else y) = .ok a ↔ c ∧ x = .ok a ∨ ¬c ∧ y = .ok a := by
  by_cases h : c <;> simp [h]

/-- What succeeds behind a check that is made in some cases succeeds by itself. -/
theorem ok_behind {c : Prop} [Decidable c] {x : Except ε α} {rest : Except ε β} {b : β}
    (h : (if c then x >>= fun _ => rest else rest) = .ok b) : rest = .ok b := by
  rcases ite_eq_ok_iff.1 h with ⟨_, h⟩ | ⟨_, h⟩
  · obtain ⟨_, _, h⟩ := bind_eq_ok_iff.1 h
    exact h
  · exact h

/-- Whether there is an answer of some kind is seen from the answer. -/
instance decidableOk (x : Except ε α) (P : α → Prop) [DecidablePred P] :
    Decidable (∃ a, x = .ok a ∧ P a) :=
  match x with
  | .ok a => decidable_of_iff (P a) ⟨fun h => ⟨a, rfl, h⟩, fun ⟨_, eq, h⟩ => Except.ok.inj eq ▸ h⟩
  | .error _ => isFalse fun ⟨_, eq, _⟩ => nomatch eq

/-- A list of answers comes apart like the list it was computed from. -/
theorem mapM_cons_eq_ok_iff {f : α → Except ε β} {x : α} {xs : List α} {ys : List β} :
    (x :: xs).mapM f = .ok ys ↔ ∃ y others, f x = .ok y ∧ xs.mapM f = .ok others ∧ ys = y :: others := by
  simp only [List.mapM_cons, bind_eq_ok_iff, pure_eq_ok_iff, eq_comm (a := ys)]
  exact ⟨fun ⟨y, first, others, rest, h⟩ => ⟨y, others, first, rest, h⟩,
    fun ⟨y, others, first, rest, h⟩ => ⟨y, first, others, rest, h⟩⟩

theorem mapM_nil_eq_ok_iff {f : α → Except ε β} {ys : List β} : [].mapM f = .ok ys ↔ ys = [] := by
  rw [List.mapM_nil, pure_eq_ok_iff, eq_comm]

/-- Every element of a list that was computed on has an answer among the answers. -/
theorem mapM_mem {f : α → Except ε β} : ∀ {xs : List α} {ys : List β}, xs.mapM f = .ok ys →
    ∀ x ∈ xs, ∃ y ∈ ys, f x = .ok y
  | [], _, _ => by simp
  | x :: xs, _, h => by
    obtain ⟨y, others, first, rest, rfl⟩ := mapM_cons_eq_ok_iff.1 h
    intro z mem
    rcases List.mem_cons.1 mem with rfl | mem
    · exact ⟨y, List.mem_cons_self, first⟩
    · obtain ⟨w, among, answer⟩ := mapM_mem rest z mem
      exact ⟨w, List.mem_cons_of_mem y among, answer⟩

/-- Every answer is the one for some element. -/
theorem mem_of_mapM {f : α → Except ε β} {xs : List α} : ∀ {ys : List β}, xs.mapM f = .ok ys →
    ∀ y ∈ ys, ∃ x ∈ xs, f x = .ok y := by
  induction xs with
  | nil =>
    intro ys h y mem
    rw [mapM_nil_eq_ok_iff.1 h] at mem
    cases mem
  | cons x xs ih =>
    intro ys h y mem
    obtain ⟨first, others, here, rest, rfl⟩ := mapM_cons_eq_ok_iff.1 h
    rcases List.mem_cons.1 mem with rfl | mem
    · exact ⟨x, List.mem_cons_self, here⟩
    · obtain ⟨z, among, answer⟩ := ih rest y mem
      exact ⟨z, List.mem_cons_of_mem x among, answer⟩

theorem mapM_append_eq_ok {f : α → Except ε β} : ∀ {xs xs' : List α} {ys ys' : List β},
    xs.mapM f = .ok ys → xs'.mapM f = .ok ys' → (xs ++ xs').mapM f = .ok (ys ++ ys')
  | [], xs', ys, ys', h, h' => by
    rw [mapM_nil_eq_ok_iff] at h
    subst h
    exact h'
  | x :: xs, xs', _, ys', h, h' => by
    obtain ⟨y, others, first, rest, rfl⟩ := mapM_cons_eq_ok_iff.1 h
    exact mapM_cons_eq_ok_iff.2 ⟨y, others ++ ys', first, mapM_append_eq_ok rest h', rfl⟩

/-- The answers for two lists, one behind the other. -/
theorem mapM_append_eq_ok_iff {f : α → Except ε β} {xs xs' : List α} {zs : List β} :
    (xs ++ xs').mapM f = .ok zs ↔ ∃ ys ys', xs.mapM f = .ok ys ∧ xs'.mapM f = .ok ys' ∧ zs = ys ++ ys' := by
  simp only [List.mapM_append, bind_eq_ok_iff, pure_eq_ok_iff, eq_comm (a := zs)]
  exact ⟨fun ⟨ys, first, ys', rest, h⟩ => ⟨ys, ys', first, rest, h⟩,
    fun ⟨ys, ys', first, rest, h⟩ => ⟨ys, first, ys', rest, h⟩⟩

/-- The answers stand where the elements do that they were computed from. -/
theorem mapM_getElem? {f : α → Except ε β} : ∀ {xs : List α} {ys : List β}, xs.mapM f = .ok ys →
    ys.length = xs.length ∧ ∀ (p : Nat) x, xs[p]? = some x → ∃ y, f x = .ok y ∧ ys[p]? = some y
  | [], _, h => by
    rw [mapM_nil_eq_ok_iff.1 h]
    exact ⟨rfl, nofun⟩
  | x :: xs, _, h => by
    obtain ⟨y, others, first, rest, rfl⟩ := mapM_cons_eq_ok_iff.1 h
    obtain ⟨length, each⟩ := mapM_getElem? rest
    refine ⟨congrArg (· + 1) length, fun p x' found => ?_⟩
    cases p with
    | zero =>
      cases found
      exact ⟨y, first, rfl⟩
    | succ p => exact each p x' found

/-- **A list fails at its first element that does.** -/
theorem mapM_eq_error_iff {f : α → Except ε β} {e : ε} : ∀ {xs : List α}, xs.mapM f = .error e ↔
    ∃ front x back, xs = front ++ x :: back ∧ (∀ y ∈ front, ∃ b, f y = .ok b) ∧ f x = .error e
  | [] => by
    refine iff_of_false nofun ?_
    rintro ⟨front, x, back, split, _⟩
    cases front <;> cases split
  | x :: xs => by
    rw [List.mapM_cons, bind_eq_error_iff]
    constructor
    · rintro (here | ⟨y, first, behind⟩)
      · exact ⟨[], x, xs, rfl, nofun, here⟩
      · obtain later | ⟨_, _, never⟩ := bind_eq_error_iff.1 behind
        · obtain ⟨front, x', back, rfl, fine, fails⟩ := mapM_eq_error_iff.1 later
          exact ⟨x :: front, x', back, rfl, List.forall_mem_cons.2 ⟨⟨y, first⟩, fine⟩, fails⟩
        · cases never
    · rintro ⟨front, x', back, split, fine, fails⟩
      cases front with
      | nil =>
        cases split
        exact .inl fails
      | cons y front =>
        cases split
        obtain ⟨⟨b, first⟩, fine⟩ := List.forall_mem_cons.1 fine
        exact .inr ⟨b, first, bind_eq_error_iff.2 (.inl (mapM_eq_error_iff.2 ⟨front, x', back, rfl, fine, fails⟩))⟩

/-- A check of several things is a check of each of them. -/
theorem forM_mem {f : α → Except ε Unit} : ∀ {xs : List α}, xs.forM f = .ok () → ∀ x ∈ xs, f x = .ok ()
  | [], _ => nofun
  | x :: xs, h => by
    obtain ⟨_, first, rest⟩ := bind_eq_ok_iff.1 (show (f x >>= fun _ => xs.forM f) = .ok () from h)
    exact List.forall_mem_cons.2 ⟨first, forM_mem rest⟩

/-! ## Runs

A run is a fold whose steps may fail. -/

section Runs

variable {f : β → α → Except ε β} {b b' : β} {x : α} {xs xs' : List α}

theorem run_nil_iff : [].foldlM f b = .ok b' ↔ b = b' := by
  rw [List.foldlM_nil, pure_eq_ok_iff]

/-- A run over an element and others, at the state between them. -/
theorem run_cons_iff :
    (x :: xs).foldlM f b = .ok b' ↔ ∃ between, f b x = .ok between ∧ xs.foldlM f between = .ok b' := by
  rw [List.foldlM_cons, bind_eq_ok_iff]

theorem run_append_iff :
    (xs ++ xs').foldlM f b = .ok b' ↔
      ∃ between, xs.foldlM f b = .ok between ∧ xs'.foldlM f between = .ok b' := by
  rw [List.foldlM_append, bind_eq_ok_iff]

/-- Every element of a run was taken at some state on the way. -/
theorem run_mem (run : xs.foldlM f b = .ok b') (mem : x ∈ xs) :
    ∃ front back before after, xs = front ++ x :: back ∧ front.foldlM f b = .ok before ∧
      f before x = .ok after ∧ back.foldlM f after = .ok b' := by
  obtain ⟨front, back, rfl⟩ := List.append_of_mem mem
  obtain ⟨before, first, rest⟩ := run_append_iff.1 run
  obtain ⟨after, here, last⟩ := run_cons_iff.1 rest
  exact ⟨front, back, before, after, rfl, first, here, last⟩

/-- **What relates the states around every step** relates those around the run. -/
theorem run_related {R : β → β → Prop} (refl : ∀ b, R b b) (trans : ∀ {a b c}, R a b → R b c → R a c) :
    ∀ {xs : List α} {b b' : β}, (∀ b, ∀ x ∈ xs, ∀ b', f b x = .ok b' → R b b') → xs.foldlM f b = .ok b' → R b b'
  | [], b, b', _, run => by
    obtain rfl := run_nil_iff.1 run
    exact refl b
  | x :: xs, b, b', step, run => by
    obtain ⟨between, first, rest⟩ := run_cons_iff.1 run
    exact trans (step b x List.mem_cons_self between first)
      (run_related refl trans (fun b y mem => step b y (List.mem_cons_of_mem x mem)) rest)

end Runs

/-- A run fails only as one of its steps can. -/
theorem foldlM_error {f : β → α → Except ε β} (P : ε → Prop) (step : ∀ b a e, f b a = .error e → P e) :
    ∀ {xs : List α} {b : β} {e : ε}, xs.foldlM f b = .error e → P e
  | [], _, _, failed => by cases failed
  | x :: xs, b, e, failed => by
    rw [List.foldlM_cons] at failed
    cases first : f b x with
    | error e' =>
      rw [first] at failed
      cases failed
      exact step b x e first
    | ok c =>
      rw [first] at failed
      exact foldlM_error P step failed

/-! ## Side by side -/

/-- **Two computations go side by side** if they fail with the same error, or succeed with answers that are related. -/
inductive Parallel (R : α → β → Prop) : Except ε α → Except ε β → Prop
  | ok {a : α} {b : β} (related : R a b) : Parallel R (.ok a) (.ok b)
  | error (e : ε) : Parallel R (.error e) (.error e)

namespace Parallel

theorem of_ok {R : α → β → Prop} {a : α} {y : Except ε β} (h : Parallel R (.ok a) y) : ∃ b, y = .ok b ∧ R a b := by
  cases h with
  | ok related => exact ⟨_, rfl, related⟩

theorem ok_of {R : α → β → Prop} {x : Except ε α} {b : β} (h : Parallel R x (.ok b)) : ∃ a, x = .ok a ∧ R a b := by
  cases h with
  | ok related => exact ⟨_, rfl, related⟩

theorem bind {α' β' : Type} {R : α → β → Prop} {S : α' → β' → Prop} {x : Except ε α} {y : Except ε β}
    {f : α → Except ε α'} {g : β → Except ε β'} (h : Parallel R x y) (rest : ∀ a b, R a b → Parallel S (f a) (g b)) :
    Parallel S (x >>= f) (y >>= g) := by
  cases h with
  | ok related => exact rest _ _ related
  | error e => exact .error e

end Parallel

end WasmLens
