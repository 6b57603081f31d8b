import WasmLens.Proofs.Outcome

/-!
# Interleavings

Two lists that are merged into a third one, each in its own order.
-/
namespace WasmLens

variable {ε α β : Type}

/-- **The third list** is made of the other two. -/
inductive Interleaves : List α → List α → List α → Prop
  | nil : Interleaves [] [] []
  | left {xs ys zs : List α} (x : α) (rest : Interleaves xs ys zs) : Interleaves (x :: xs) ys (x :: zs)
  | right {xs ys zs : List α} (y : α) (rest : Interleaves xs ys zs) : Interleaves xs (y :: ys) (y :: zs)

namespace Interleaves

variable {xs ys zs : List α}

theorem refl : ∀ xs : List α, Interleaves xs [] xs
  | [] => .nil
  | x :: xs => .left x (refl xs)

theorem symm (h : Interleaves xs ys zs) : Interleaves ys xs zs := by
  induction h with
  | nil => exact .nil
  | left x _ ih => exact .right x ih
  | right y _ ih => exact .left y ih

theorem eq_of_nil : ∀ {xs zs : List α}, Interleaves xs [] zs → zs = xs
  | _, _, .nil => rfl
  | _, _, .left x rest => congrArg (x :: ·) rest.eq_of_nil

theorem append {xs' ys' zs' : List α} (h : Interleaves xs ys zs) (h' : Interleaves xs' ys' zs') :
    Interleaves (xs ++ xs') (ys ++ ys') (zs ++ zs') := by
  induction h with
  | nil => exact h'
  | left x _ ih => exact .left x ih
  | right y _ ih => exact .right y ih

/-- More of the first list behind both. -/
theorem append_left (h : Interleaves xs ys zs) (more : List α) : Interleaves (xs ++ more) ys (zs ++ more) := by
  have merged := h.append (refl more)
  rwa [List.append_nil] at merged

/-- More of the second list behind both. -/
theorem append_right (h : Interleaves xs ys zs) (more : List α) : Interleaves xs (ys ++ more) (zs ++ more) :=
  (h.symm.append_left more).symm

/-- One element between others. -/
theorem between (front : List α) (x : α) (back : List α) : Interleaves (front ++ back) [x] (front ++ x :: back) :=
  (refl front).append (.right x (refl back))

theorem filterMap (f : α → Option β) (h : Interleaves xs ys zs) :
    Interleaves (xs.filterMap f) (ys.filterMap f) (zs.filterMap f) := by
  induction h with
  | nil => exact .nil
  | left x _ ih =>
    cases here : f x with
    | none => simpa only [List.filterMap_cons_none here] using ih
    | some y => simpa only [List.filterMap_cons_some here] using ih.left y
  | right x _ ih =>
    cases here : f x with
    | none => simpa only [List.filterMap_cons_none here] using ih
    | some y => simpa only [List.filterMap_cons_some here] using ih.right y

/-- What succeeds on both lists succeeds on the one they are merged into, with the answers merged alike. -/
theorem mapM {f : α → Except ε β} (h : Interleaves xs ys zs) : ∀ {as bs : List β}, xs.mapM f = .ok as →
    ys.mapM f = .ok bs → ∃ cs, zs.mapM f = .ok cs ∧ Interleaves as bs cs := by
  induction h with
  | nil =>
    intro as bs first second
    obtain rfl := mapM_nil_eq_ok_iff.1 first
    obtain rfl := mapM_nil_eq_ok_iff.1 second
    exact ⟨[], first, .nil⟩
  | left x _ ih =>
    intro _ bs first second
    obtain ⟨a, as, here, others, rfl⟩ := mapM_cons_eq_ok_iff.1 first
    obtain ⟨cs, merged, like⟩ := ih others second
    exact ⟨a :: cs, mapM_cons_eq_ok_iff.2 ⟨a, cs, here, merged, rfl⟩, like.left a⟩
  | right y _ ih =>
    intro as _ first second
    obtain ⟨b, bs, here, others, rfl⟩ := mapM_cons_eq_ok_iff.1 second
    obtain ⟨cs, merged, like⟩ := ih first others
    exact ⟨b :: cs, mapM_cons_eq_ok_iff.2 ⟨b, cs, here, merged, rfl⟩, like.right b⟩

/-- What succeeds on the merged list succeeds on the two that it was made of. -/
theorem of_mapM {f : α → Except ε β} (h : Interleaves xs ys zs) : ∀ {cs : List β}, zs.mapM f = .ok cs →
    ∃ as bs, xs.mapM f = .ok as ∧ ys.mapM f = .ok bs ∧ Interleaves as bs cs := by
  induction h with
  | nil =>
    intro cs merged
    obtain rfl := mapM_nil_eq_ok_iff.1 merged
    exact ⟨[], [], merged, merged, .nil⟩
  | left x _ ih =>
    intro _ merged
    obtain ⟨a, cs, here, others, rfl⟩ := mapM_cons_eq_ok_iff.1 merged
    obtain ⟨as, bs, first, second, like⟩ := ih others
    exact ⟨a :: as, bs, mapM_cons_eq_ok_iff.2 ⟨a, as, here, first, rfl⟩, second, like.left a⟩
  | right y _ ih =>
    intro _ merged
    obtain ⟨b, cs, here, others, rfl⟩ := mapM_cons_eq_ok_iff.1 merged
    obtain ⟨as, bs, first, second, like⟩ := ih others
    exact ⟨as, b :: bs, first, mapM_cons_eq_ok_iff.2 ⟨b, bs, here, second, rfl⟩, like.right b⟩

end Interleaves

end WasmLens
