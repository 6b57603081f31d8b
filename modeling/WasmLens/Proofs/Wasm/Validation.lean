import WasmLens.Proofs.Wasm.Entries

/-!
# Runs of the validator

What validation knows after the contents of several sections, as a function of these contents: the index
spaces hold their entries in order (`run_grows`), the sections came in order (`run_ordered`), and the
names are those of the exports, each once (`run_exported`). Because sections come in order, **what a kind
of section enters lies behind everything that an earlier kind enters** (`flatMap_split`).
-/
namespace WasmLens.Wasm

/-! ## Several contents -/

namespace Content

/-- The entries of the contents of several sections. -/
def entriesOf : List Content → Entries
  | [] => {}
  | content :: contents => content.entries ++ entriesOf contents

/-- The entries of one index space, drawn from the contents one after another. -/
theorem entriesOf_eq_flatMap {α : Type} (space : Entries → List α) (nil : space {} = [])
    (append : ∀ a b, space (a ++ b) = space a ++ space b) (contents : List Content) :
    space (entriesOf contents) = contents.flatMap fun content => space content.entries := by
  induction contents with
  | nil => exact nil
  | cons content contents ih => rw [entriesOf, append, ih, List.flatMap_cons]

/-- Contents stand in the order of sections; those without a place stand anywhere. -/
def Ordered (contents : List Content) : Prop :=
  contents.Pairwise fun a b => ∀ p q, a.place? = some p → b.place? = some q → p < q

/-- Behind contents at one place there are none of a kind that comes there or earlier. -/
theorem Ordered.not_behind {P : Content → Prop} {content : Content} {contents : List Content}
    {early late : Nat} (ordered : Ordered (content :: contents)) (here : content.place? = some late)
    (before : early ≤ late) (ofP : ∀ other, P other → other.place? = some early) :
    ∀ other ∈ contents, ¬P other := by
  intro other mem holds
  have := (List.pairwise_cons.1 ordered).1 other mem late early here (ofP other holds)
  omega

/-- **Earlier and later kinds.** If only contents at one place give something to `g` and only contents at
a later place give something to `h`, then what all contents give is first what `g` gets and then what
`h` gets. -/
theorem flatMap_split {α : Type} {g h : Content → List α} {early late : Nat} (before : early < late)
    (ofEarly : ∀ content, g content ≠ [] → content.place? = some early)
    (ofLate : ∀ content, h content ≠ [] → content.place? = some late) :
    ∀ {contents : List Content}, Ordered contents →
      contents.flatMap (fun content => g content ++ h content) = contents.flatMap g ++ contents.flatMap h
  | [], _ => rfl
  | content :: contents, ordered => by
    simp only [List.flatMap_cons, flatMap_split before ofEarly ofLate (List.pairwise_cons.1 ordered).2]
    rcases Decidable.em (h content = []) with none | some
    · rw [none]
      simp
    · -- nothing behind contents of the later kind can be of the earlier one
      have nothing : contents.flatMap g = [] := List.flatMap_eq_nil_iff.2 fun other mem =>
        Decidable.of_not_not
          (ordered.not_behind (ofLate content some) (Nat.le_of_lt before) ofEarly other mem)
      rw [nothing]
      simp

end Content

/-! ## Steps and runs -/

namespace Validator

variable {v v' : Validator} {contents : List Content}

/-- **A step succeeds** on contents that can be added, with names that are new and types that are not
too large. -/
theorem step_ok_iff {content : Content} :
    v.step content = .ok v' ↔ ∃ context exported,
      v.context.add content = .ok context ∧ v.exportedAfter content = .ok exported ∧
        v.typeSize + context.sizeOf content ≤ maxTypeSize ∧
          v' = ⟨context, exported, v.typeSize + context.sizeOf content⟩ := by
  simp only [step, bind_eq_ok_iff, pure_eq_ok_iff, atMost, ite_eq_ok_iff]
  constructor
  · rintro ⟨context, added, exported, entered, _, ⟨fits, _⟩ | ⟨_, refused⟩, rfl⟩
    · exact ⟨context, exported, added, entered, fits, rfl⟩
    · cases refused
  · rintro ⟨context, exported, added, entered, fits, rfl⟩
    exact ⟨context, added, exported, entered, (), .inl ⟨fits, trivial⟩, rfl⟩

/-- A step grows the index spaces by the entries of the contents and moves the place ahead. -/
theorem step_grows {content : Content} (h : v.step content = .ok v') :
    ({ v.context with place := v'.context.place, bodiesDue := v'.context.bodiesDue } : Context).Grows
        content.entries v'.context ∧
      (∀ place, content.place? = some place → v.context.place < place) ∧
        v'.context.place = content.place?.getD v.context.place ∧
          v'.context.bodiesDue = content.dueAfter v.context.bodiesDue := by
  obtain ⟨context, exported, added, _, _, rfl⟩ := step_ok_iff.1 h
  obtain ⟨advanced, advance, grown, due, _⟩ := Context.add_ok added
  obtain ⟨ahead, rfl⟩ := Context.advance_ok_iff.1 advance
  have place : context.place = content.place?.getD v.context.place := grown.place
  refine ⟨?_, ahead, place, due⟩
  simp only [place]
  exact grown

/-- **The index spaces after a run** hold the entries of all contents in order. -/
theorem run_grows : ∀ {contents : List Content} {v v' : Validator}, contents.foldlM step v = .ok v' →
    ({ v.context with place := v'.context.place, bodiesDue := v'.context.bodiesDue } : Context).Grows
      (Content.entriesOf contents) v'.context
  | [], v, v', run => by
    obtain rfl := run_nil_iff.1 run
    exact .refl _
  | content :: contents, v, v', run => by
    obtain ⟨between, first, rest⟩ := run_cons_iff.1 run
    exact ((step_grows first).1.at_place v'.context.place v'.context.bodiesDue).trans (run_grows rest)

/-- A whole module has the entries of its contents and no others. -/
theorem entries_of_run {f : Features} (run : contents.foldlM step (start f) = .ok v) :
    v.context.entries = Content.entriesOf contents ∧
      ∀ type ∈ (Content.entriesOf contents).functions, type < v.context.types.size := by
  have grown := run_grows run
  refine ⟨?_, grown.typed⟩
  rw [grown.entries]
  exact Entries.nil_append _

/-- **Sections come in order**, and all of them behind what was there before. -/
theorem run_ordered : ∀ {contents : List Content} {v v' : Validator}, contents.foldlM step v = .ok v' →
    Content.Ordered contents ∧
      ∀ content ∈ contents, ∀ place, content.place? = some place → v.context.place < place
  | [], _, _, _ => ⟨.nil, by simp⟩
  | content :: contents, v, v', run => by
    obtain ⟨between, first, rest⟩ := run_cons_iff.1 run
    obtain ⟨ordered, behind⟩ := run_ordered rest
    obtain ⟨_, ahead, place, _⟩ := step_grows first
    refine ⟨List.pairwise_cons.2 ⟨?_, ordered⟩, ?_⟩
    · intro other mem p q first second
      have := behind other mem q second
      rwa [place, first] at this
    · intro other mem q atPlace
      rcases List.mem_cons.1 mem with rfl | mem
      · exact ahead q atPlace
      · have later := behind other mem q atPlace
        rw [place] at later
        cases first : content.place? with
        | none => rwa [first] at later
        | some p =>
          rw [first] at later
          exact Nat.lt_trans (ahead p first) later

/-- The place after contents that come before some place is before it as well. -/
theorem run_place_lt {n : Nat} : ∀ {contents : List Content} {v v' : Validator},
    contents.foldlM step v = .ok v' → v.context.place < n →
      (∀ content ∈ contents, ∀ place, content.place? = some place → place < n) → v'.context.place < n
  | [], v, v', run, before, _ => by
    obtain rfl := run_nil_iff.1 run
    exact before
  | content :: contents, v, v', run, before, early => by
    obtain ⟨between, first, rest⟩ := run_cons_iff.1 run
    refine run_place_lt rest ?_ fun other mem => early other (List.mem_cons_of_mem _ mem)
    rw [(step_grows first).2.2.1]
    cases place : content.place? with
    | none => exact before
    | some p => exact early content List.mem_cons_self p place

/-- Functions that contents export or start exist after a run. -/
theorem run_used : ∀ {contents : List Content} {v v' : Validator}, contents.foldlM step v = .ok v' →
    ∀ content ∈ contents, ∀ func ∈ content.functionsUsed, func < v'.context.functions.size
  | [], _, _, _ => by simp
  | content :: contents, v, v', run => by
    obtain ⟨between, first, rest⟩ := run_cons_iff.1 run
    intro other mem func used
    rcases List.mem_cons.1 mem with rfl | mem
    · obtain ⟨context, exported, added, _, _, rfl⟩ := step_ok_iff.1 first
      obtain ⟨_, _, _, _, exist⟩ := Context.add_ok added
      exact Nat.lt_of_lt_of_le (exist func used) (run_grows rest).functions_le
    · exact run_used rest other mem func used

/-- The size of types only grows. -/
theorem run_typeSize_le (run : contents.foldlM step v = .ok v') : v.typeSize ≤ v'.typeSize := by
  refine run_related (R := fun v v' : Validator => v.typeSize ≤ v'.typeSize) (fun _ => Nat.le_refl _)
    Nat.le_trans (fun v content _ v' step => ?_) run
  obtain ⟨context, exported, _, _, _, rfl⟩ := step_ok_iff.1 step
  exact Nat.le_add_right _ _

/-! ## Names of exports -/

theorem enterNames_append : ∀ {known : List String} {exports others : List Export},
    enterNames known (exports ++ others) = (enterNames known exports).bind fun k => enterNames k others
  | known, [], others => rfl
  | known, e :: exports, others => by
    rw [List.cons_append, enterNames, enterNames]
    split
    · rfl
    · cases atMost maxExports (known.length + 1) "export" with
      | error f => rfl
      | ok _ => exact enterNames_append

/-- Names are entered behind the known ones, and no name twice. -/
theorem enterNames_ok : ∀ {exports : List Export} {known names : List String},
    enterNames known exports = .ok names →
      names = known ++ exports.map (·.name) ∧ (known.Nodup → names.Nodup)
  | [], known, names, h => by
    simp only [enterNames, Except.ok.injEq] at h
    subst h
    simp
  | e :: exports, known, names, h => by
    rw [enterNames] at h
    split at h
    · cases h
    · rename_i fresh
      rw [bind_eq_ok_iff] at h
      obtain ⟨_, _, entered⟩ := h
      obtain ⟨rfl, distinct⟩ := enterNames_ok entered
      refine ⟨by simp, fun nodup => distinct ?_⟩
      rw [List.nodup_append]
      refine ⟨nodup, by simp, ?_⟩
      rintro a mem b single rfl
      rw [List.mem_singleton] at single
      exact fresh (List.contains_iff_mem.2 (single ▸ mem))

/-- A run enters the names of all exports in order, each of them once. -/
theorem run_exported : ∀ {contents : List Content} {v v' : Validator},
    contents.foldlM step v = .ok v' →
      v'.exported = v.exported ++ (contents.flatMap (·.exportItems)).map (·.name) ∧
        (v.exported.Nodup → v'.exported.Nodup)
  | [], v, v', run => by
    obtain rfl := run_nil_iff.1 run
    simp
  | content :: contents, v, v', run => by
    obtain ⟨between, first, rest⟩ := run_cons_iff.1 run
    obtain ⟨context, exported, _, entered, _, rfl⟩ := step_ok_iff.1 first
    obtain ⟨later, distinct⟩ := run_exported rest
    have here : exported = v.exported ++ content.exportItems.map (·.name) ∧
        (v.exported.Nodup → exported.Nodup) := by
      cases content <;> simp only [exportedAfter, Except.ok.injEq] at entered
      case exports items => exact enterNames_ok entered
      all_goals
        subst entered
        simp [Content.exportItems]
    refine ⟨?_, fun nodup => distinct (here.2 nodup)⟩
    rw [later, here.1, List.flatMap_cons, List.map_append, List.append_assoc]

end Validator

end WasmLens.Wasm
