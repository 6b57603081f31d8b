import WasmLens.Config.Basic
import WasmLens.Proofs.Module.IndexSpaces
import WasmLens.Proofs.Module.MemoryExport
import WasmLens.Proofs.Module.ReservedName

/-!
# Modules with an exposed memory

Reading a module and reading it with its first memory exported go side by side. In front of the exports
both are the same. From there on they differ by one name, by the size of one type and, if a section of
exports was added, by the place of the last section; this is `Validator.expose`. None of it is looked at by
the sections that follow, so **the difference stays what it is** to the end (`Validator.run_extended`). The
outlines differ by the export alone (`Outline.run_extended`).

Besides the number of exports and the length of the name, two things can refuse the module (`HasRoom`): the
size of the section, and a limit of the validator on the size of the types of imports and exports, which
every export adds to. `ofBytes_exportMemory_crowded` is **a module that meets the second one** without a
single export of its own.
-/
namespace WasmLens

open Wasm MemoryExport

/-! ## Validation behind the exports -/

/-- Contents with a place go through wherever the place before them is, and make it theirs. -/
theorem Wasm.Context.add_at_place {c c' : Context} {content : Content} {q : Nat}
    (h : c.add content = .ok c') (behind : ∀ p, content.place? = some p → q < p) :
    ({ c with place := q } : Context).add content =
      .ok { c' with place := content.place?.getD q } := by
  cases place : content.place? with
  | none =>
    cases content <;> simp only [Content.place?, reduceCtorEq] at place
    obtain rfl := Except.ok.inj h
    rfl
  | some p =>
    obtain ⟨advanced, advance, grown, _⟩ := add_ok h
    obtain ⟨ahead, rfl⟩ := advance_ok_iff.1 advance
    have same : ({ c with place := q } : Context).advance content = c.advance content := by
      rw [advance, advance_ok_iff]
      exact ⟨behind, by simp only [place, Option.getD_some]⟩
    have moved : c'.place = p := by
      rw [grown.place, place]
      rfl
    have kept : { c' with place := p } = c' := by rw [← moved]
    rw [Option.getD_some, kept]
    unfold add at h ⊢
    rw [same]
    exact h

namespace Wasm.Validator

variable {v v' : Validator} {name : String} {content : Content}

/-- The state of a validator that has seen one more export, of a memory, by a section at some place. -/
def expose (v : Validator) (name : String) (place : Nat) : Validator :=
  ⟨{ v.context with place }, v.exported ++ [name], v.typeSize + 1⟩

/-- Behind the exports no types are counted. -/
theorem sizeOf_late (c : Context) (late : ∀ p, content.place? = some p → exportsPlace < p) :
    c.sizeOf content = 0 := by
  cases content with
  | imports _ | exports _ => exact absurd (late _ rfl) (by decide)
  | _ => rfl

/-- **Behind the exports** the added one is not noticed. -/
theorem step_expose {q : Nat} (h : v.step content = .ok v')
    (late : ∀ p, content.place? = some p → exportsPlace < p)
    (behind : ∀ p, content.place? = some p → q < p) (small : v'.typeSize < maxTypeSize) :
    (v.expose name q).step content = .ok (v'.expose name (content.place?.getD q)) := by
  obtain ⟨context, exported, added, entered, _, rfl⟩ := step_ok_iff.1 h
  have noNames : v.exportedAfter content = .ok v.exported ∧
      (v.expose name q).exportedAfter content = .ok (v.expose name q).exported := by
    cases content with
    | exports _ => exact absurd (late _ rfl) (by decide)
    | _ => exact ⟨rfl, rfl⟩
  rw [noNames.1] at entered
  obtain rfl := Except.ok.inj entered
  refine step_ok_iff.2 ⟨_, _, Context.add_at_place added behind, noNames.2, ?_, ?_⟩
  · rw [sizeOf_late _ late] at small ⊢
    exact small
  · simp only [sizeOf_late _ late]
    rfl

theorem run_expose : ∀ {contents : List Content} {v v' : Validator} {q : Nat},
    contents.foldlM step v = .ok v' →
      (∀ content ∈ contents, ∀ p, content.place? = some p → exportsPlace < p ∧ q < p) →
        v'.typeSize < maxTypeSize →
          ∃ place, contents.foldlM step (v.expose name q) = .ok (v'.expose name place)
  | [], v, v', q, run, _, _ => by
    obtain rfl := run_nil_iff.1 run
    exact ⟨q, rfl⟩
  | content :: contents, v, v', q, run, late, small => by
    obtain ⟨between, first, rest⟩ := run_cons_iff.1 run
    obtain ⟨_, behind⟩ := run_ordered rest
    have here := late content List.mem_cons_self
    have step : (v.expose name q).step content = .ok (between.expose name (content.place?.getD q)) :=
      step_expose first (fun p place => (here p place).1) (fun p place => (here p place).2)
        (Nat.lt_of_le_of_lt (run_typeSize_le rest) small)
    -- a section with a place moves both runs to it, and later ones come behind that
    have later : ∀ other ∈ contents, ∀ p, other.place? = some p →
        exportsPlace < p ∧ content.place?.getD q < p := by
      intro other mem p some
      obtain ⟨behindExports, ahead⟩ := late other (List.mem_cons_of_mem _ mem) p some
      refine ⟨behindExports, ?_⟩
      have moved := behind other mem p some
      rw [(step_grows first).2.2.1] at moved
      cases place : content.place? with
      | none => exact ahead
      | some p' => rwa [place] at moved
    obtain ⟨place, exposed⟩ := run_expose rest later small
    exact ⟨place, run_cons_iff.2 ⟨_, step, exposed⟩⟩

theorem run_typeSize_late {contents : List Content} {v v' : Validator} (run : contents.foldlM step v = .ok v')
    (late : ∀ content ∈ contents, ∀ p, content.place? = some p → exportsPlace < p) : v'.typeSize = v.typeSize := by
  refine run_related (R := fun v v' : Validator => v'.typeSize = v.typeSize) (fun _ => rfl) (fun h h' => h'.trans h)
    (fun v content mem v' step => ?_) run
  obtain ⟨context, _, _, _, _, rfl⟩ := step_ok_iff.1 step
  simp only [sizeOf_late context (late content mem), Nat.add_zero]

/-! ## Validation of the exports -/

/-- A memory that is there can be exported, and what comes later sees nothing of it. -/
theorem add_firstMemory {c c' : Context} {items : List Export} (h : c.add (.exports items) = .ok c')
    (memory : c'.memories[0]?.isSome) : c.add (.exports (items ++ [firstMemory name])) = .ok c' := by
  have again : c'.addExport (firstMemory name) = .ok c' := by
    obtain ⟨t, known⟩ := Option.isSome_iff_exists.1 memory
    simp only [Context.addExport, firstMemory, Context.memoryAt, Context.lookUp, known]
    rfl
  have append : c.add (.exports (items ++ [firstMemory name])) =
      c.add (.exports items) >>= fun c => c.addExport (firstMemory name) := by
    show (c.advance _ >>= fun c => (items ++ [firstMemory name]).foldlM Context.addExport c) =
      (c.advance _ >>= fun c => items.foldlM Context.addExport c) >>= _
    simp only [List.foldlM_append, List.foldlM_cons, List.foldlM_nil, bind_assoc, bind_pure]
    rfl
  rw [append, h]
  exact again

theorem sizeOf_firstMemory (c : Context) (items : List Export) :
    c.sizeOf (.exports (items ++ [firstMemory name])) = c.sizeOf (.exports items) + 1 := by
  simp only [Context.sizeOf, List.foldl_append, List.foldl_cons, List.foldl_nil]
  rfl

/-- **One more export**, of a memory that is there, under a name that is free. -/
theorem step_exports_expose {items : List Export} (h : v.step (.exports items) = .ok v')
    (memory : v'.context.memories[0]?.isSome) (fresh : name ∉ v'.exported)
    (count : v'.exported.length < maxExports) (small : v'.typeSize < maxTypeSize) :
    v.step (.exports (items ++ [firstMemory name])) = .ok (v'.expose name exportsPlace) := by
  obtain ⟨_, _, place, _⟩ := step_grows h
  obtain ⟨context, exported, added, entered, _, rfl⟩ := step_ok_iff.1 h
  simp only at memory fresh count small place
  have kept : { context with place := exportsPlace } = context := by
    rw [← show context.place = exportsPlace from place]
  refine step_ok_iff.2 ⟨context, exported ++ [name], add_firstMemory added memory, ?_, ?_, ?_⟩
  · show enterNames v.exported (items ++ [firstMemory name]) = _
    rw [enterNames_append, show enterNames v.exported items = .ok exported from entered]
    simp [Except.bind, enterNames, firstMemory, fresh, atMost, Nat.succ_le_of_lt count, bind]
  · rw [sizeOf_firstMemory]
    omega
  · rw [sizeOf_firstMemory, expose, kept]
    rfl

/-- One more export is only accepted where the types of the others leave room for it. -/
theorem typeSize_lt_of_step {items : List Export} {w : Validator} (h : v.step (.exports items) = .ok v')
    (memory : v'.context.memories[0]?.isSome)
    (extended : v.step (.exports (items ++ [firstMemory name])) = .ok w) :
    v'.typeSize < maxTypeSize := by
  obtain ⟨context, _, added, _, _, rfl⟩ := step_ok_iff.1 h
  obtain ⟨context', _, added', _, fits, _⟩ := step_ok_iff.1 extended
  obtain rfl : context = context' := Except.ok.inj ((add_firstMemory added memory).symm.trans added')
  rw [sizeOf_firstMemory] at fits
  exact fits

/-- A section without exports does nothing but stand at its place. -/
theorem step_no_exports (early : v.context.place < exportsPlace) (small : v.typeSize ≤ maxTypeSize) :
    v.step (.exports []) = .ok { v with context := { v.context with place := exportsPlace } } := by
  have added : v.context.add (.exports []) = .ok { v.context with place := exportsPlace } := by
    have advance : v.context.advance (.exports []) = .ok { v.context with place := exportsPlace } :=
      Context.advance_ok_iff.2 ⟨fun p place => Option.some.inj place ▸ early, rfl⟩
    show v.context.advance _ >>= _ = _
    rw [advance]
    rfl
  exact step_ok_iff.2 ⟨_, v.exported, added, rfl, small, rfl⟩

/-! ## Validation of the whole module -/

section Around

variable {f : Features} {sections : List Section} {contents : List Content}
  (a : Around f sections contents)

/-- Everything that enters a memory stands in front of the exports. -/
theorem memories_front : (Content.entriesOf a.front).memories = (Content.entriesOf contents).memories := by
  have none : ∀ content : Content, (∀ p, content.place? = some p → exportsPlace ≤ p) →
      content.entries.memories = [] := by
    intro content late
    cases content with
    | imports _ | memories _ => exact absurd (late _ rfl) (by decide)
    | _ => rfl
  have back : a.back.flatMap (·.entries.memories) = [] := List.flatMap_eq_nil_iff.2 fun content mem =>
    none content fun p place => Nat.le_of_lt (a.back_place content mem p place)
  simp only [Content.entriesOf_eq_flatMap (·.memories) rfl fun _ _ => rfl]
  have all := congrArg (List.flatMap (·.entries.memories)) a.contents_eq
  rw [all, List.flatMap_append, List.flatMap_append, back]
  cases a.old <;> simp [Content.entries]

theorem memory_of_entries {c : Context} (some : c.entries.memories ≠ []) : c.memories[0]?.isSome := by
  have size : c.memories.size ≠ 0 := by
    intro zero
    refine some (List.eq_nil_of_length_eq_zero ?_)
    rw [← zero]
    rfl
  simp [Nat.pos_of_ne_zero size]

theorem memory_of_step {v₁ v₂ : Validator} {items : List Export} (h : v₁.step (.exports items) = .ok v₂)
    (some : v₁.context.entries.memories ≠ []) : v₂.context.memories[0]?.isSome := by
  refine memory_of_entries ?_
  rw [(step_grows h).1.entries]
  show v₁.context.entries.memories ++ [] ≠ []
  rwa [List.append_nil]

/-- **The section of exports** is accepted with one more of them, or with that one alone if there was no
such section. -/
theorem step_extended {v₁ v₂ : Validator}
    (run : (a.old.map fun _ => Content.exports a.exports).toList.foldlM step v₁ = .ok v₂)
    (early : v₁.context.place < exportsPlace) (memory : v₁.context.entries.memories ≠ [])
    (fresh : name ∉ v₂.exported) (count : v₂.exported.length < maxExports)
    (small : v₂.typeSize < maxTypeSize) :
    v₁.step (.exports (a.exports ++ [firstMemory name])) = .ok (v₂.expose name exportsPlace) := by
  cases old : a.old with
  | some s =>
    rw [old] at run
    obtain ⟨v₂', step, last⟩ := run_cons_iff.1 run
    obtain rfl := run_nil_iff.1 last
    exact step_exports_expose step (memory_of_step step memory) fresh count small
  | none =>
    rw [old] at run
    obtain rfl := run_nil_iff.1 run
    rw [(a.absent old).1]
    have exposed := step_exports_expose (step_no_exports early (Nat.le_of_lt small))
      (memory_of_entries memory) fresh count small
    exact exposed

/-- The section of exports is accepted with one more of them only where their types leave room for it. -/
theorem typeSize_lt_of_extended {v₁ v₂ w : Validator}
    (run : (a.old.map fun _ => Content.exports a.exports).toList.foldlM step v₁ = .ok v₂)
    (memory : v₁.context.entries.memories ≠ [])
    (extended : v₁.step (.exports (a.exports ++ [firstMemory name])) = .ok w) :
    v₂.typeSize < maxTypeSize := by
  cases old : a.old with
  | some s =>
    rw [old] at run
    obtain ⟨v₂', step, last⟩ := run_cons_iff.1 run
    obtain rfl := run_nil_iff.1 last
    exact typeSize_lt_of_step step (memory_of_step step memory) extended
  | none =>
    rw [old] at run
    obtain rfl := run_nil_iff.1 run
    obtain ⟨_, _, _, _, fits, _⟩ := step_ok_iff.1 extended
    rw [sizeOf_firstMemory] at fits
    omega

/-- **A valid module stays valid** with one more export, if the name is free and there is room for it. -/
theorem run_extended (run : contents.foldlM step (start f) = .ok v)
    (memory : (Content.entriesOf contents).memories ≠ []) (fresh : name ∉ v.exported)
    (count : v.exported.length < maxExports) (small : v.typeSize < maxTypeSize) :
    ∃ place, (a.front ++ .exports (a.exports ++ [firstMemory name]) :: a.back).foldlM step (start f) =
      .ok (v.expose name place) := by
  obtain ⟨v₁, frontRun, rest⟩ := run_append_iff.1 (List.append_assoc .. ▸ a.contents_eq ▸ run)
  obtain ⟨v₂, oldRun, backRun⟩ := run_append_iff.1 rest
  have early : v₁.context.place < exportsPlace :=
    run_place_lt frontRun (by decide : 0 < exportsPlace) a.front_place
  have exported : v.exported = v₂.exported := by
    rw [(run_exported backRun).1, a.back_exports]
    exact List.append_nil _
  have memories : v₁.context.entries.memories ≠ [] := by
    rwa [(entries_of_run frontRun).1, memories_front a]
  rw [exported] at fresh count
  have extended := step_extended a oldRun early memories fresh count
    (Nat.lt_of_le_of_lt (run_typeSize_le backRun) small)
  have late : ∀ content ∈ a.back, ∀ p, content.place? = some p → exportsPlace < p ∧ exportsPlace < p :=
    fun content mem p some => ⟨a.back_place content mem p some, a.back_place content mem p some⟩
  obtain ⟨place, exposed⟩ := run_expose backRun late small
  exact ⟨place, run_append_iff.2 ⟨v₁, frontRun, run_cons_iff.2 ⟨_, extended, exposed⟩⟩⟩

/-- A module that is accepted with one more export has left room for its type. -/
theorem typeSize_lt_of_run {w : Validator} (run : contents.foldlM step (start f) = .ok v)
    (memory : (Content.entriesOf contents).memories ≠ [])
    (extended : (a.front ++ .exports (a.exports ++ [firstMemory name]) :: a.back).foldlM step (start f) =
      .ok w) : v.typeSize < maxTypeSize := by
  obtain ⟨v₁, frontRun, rest⟩ := run_append_iff.1 (List.append_assoc .. ▸ a.contents_eq ▸ run)
  obtain ⟨v₂, oldRun, backRun⟩ := run_append_iff.1 rest
  obtain ⟨v₁', frontRun', rest'⟩ := run_append_iff.1 extended
  obtain rfl : v₁ = v₁' := Except.ok.inj (frontRun.symm.trans frontRun')
  obtain ⟨_, step, _⟩ := run_cons_iff.1 rest'
  have memories : v₁.context.entries.memories ≠ [] := by
    rwa [(entries_of_run frontRun).1, memories_front a]
  rw [run_typeSize_late backRun a.back_place]
  exact typeSize_lt_of_extended a oldRun memories step

end Around

end Wasm.Validator

/-! ## The outline -/

namespace Outline

variable {o o' : Outline} {name : String}

/-- An outline with one more export, of the first memory. -/
def expose (o : Outline) (name : String) : Outline :=
  { o with exports := o.exports ++ [⟨name, .memory, 0⟩] }

theorem addName_expose (naming : Naming) :
    (o.expose name).addName naming = (o.addName naming).expose name := by
  cases naming with
  | module _ => rfl
  | function index _ =>
    have same : (o.expose name).functions = o.functions := rfl
    simp only [addName, same]
    split <;> rfl

theorem foldl_addName_expose : ∀ (namings : List Naming) (o : Outline),
    namings.foldl addName (o.expose name) = (namings.foldl addName o).expose name
  | [], _ => rfl
  | naming :: namings, o => by
    rw [List.foldl_cons, addName_expose, foldl_addName_expose namings, List.foldl_cons]

theorem addNames_expose (s : NameSection) :
    (o.expose name).addNames s = (o.addNames s).expose name := by
  simp only [addNames, foldl_addName_expose]
  split <;> rfl

/-- Contents behind the exports are shown as they are without the added one. -/
theorem add_expose {content : Content} (h : o.add content = .ok o')
    (late : ∀ p, content.place? = some p → exportsPlace < p) :
    (o.expose name).add content = .ok (o'.expose name) := by
  cases content <;> simp only [add, Except.ok.injEq] at h ⊢
  case custom section_ bytes =>
    subst h
    split
    · exact addNames_expose _
    · rfl
  case start | elements | dataCount | code | data =>
    subst h
    rfl
  all_goals simp [Content.place?, exportsPlace] at late

theorem run_expose : ∀ {contents : List Content} {o o' : Outline}, contents.foldlM add o = .ok o' →
    (∀ content ∈ contents, ∀ p, content.place? = some p → exportsPlace < p) →
      contents.foldlM add (o.expose name) = .ok (o'.expose name)
  | [], o, o', run, _ => by
    obtain rfl := run_nil_iff.1 run
    rfl
  | content :: contents, o, o', run, late => by
    obtain ⟨between, first, rest⟩ := run_cons_iff.1 run
    exact run_cons_iff.2 ⟨_, add_expose first (late content List.mem_cons_self),
      run_expose rest fun other mem => late other (List.mem_cons_of_mem _ mem)⟩

/-- **The outline gets one more export** and is otherwise the same. -/
theorem run_extended {f : Features} {sections : List Section} {contents : List Content}
    (a : Around f sections contents) (run : contents.foldlM add {} = .ok o) :
    (a.front ++ .exports (a.exports ++ [firstMemory name]) :: a.back).foldlM add {} =
      .ok (o.expose name) := by
  rw [a.contents_eq] at run
  obtain ⟨o₂, run, back⟩ := run_append_iff.1 run
  obtain ⟨o₁, front, old⟩ := run_append_iff.1 run
  have exports : a.exports.foldlM addExport o₁ = .ok o₂ := by
    cases present : a.old with
    | some s =>
      rw [present] at old
      obtain ⟨_, added, last⟩ := run_cons_iff.1 old
      obtain rfl := run_nil_iff.1 last
      exact added
    | none =>
      rw [present] at old
      rw [(a.absent present).1]
      exact old
  refine run_append_iff.2 ⟨o₁, front, run_cons_iff.2 ⟨o₂.expose name, ?_, run_expose back a.back_place⟩⟩
  exact run_append_iff.2 ⟨o₂, exports, rfl⟩

end Outline

/-! ## Reading the module that is written -/

/-- What keeps a module with its memory exported under the reserved name below the limits on the exports of
a module. -/
structure WithinLimits (o : Outline) : Prop where
  count : o.exports.length < maxExports
  name : (reservedName o).utf8ByteSize ≤ Reader.maxTextSize

/-- What else must be left of a module for one more export: bytes of the section that it goes to, and of
what the types of imports and exports may take. -/
structure HasRoom (r : Reading) (name : String) : Prop where
  size : (exportSection (r.contents.flatMap (·.exportItems) ++ [firstMemory name])).contents.length
    < twoTo 32
  types : r.validator.typeSize < maxTypeSize

instance (o : Outline) : Decidable (WithinLimits o) :=
  decidable_of_iff (_ ∧ _) ⟨fun ⟨count, name⟩ => ⟨count, name⟩, fun h => ⟨h.count, h.name⟩⟩

instance (r : Reading) (name : String) : Decidable (HasRoom r name) :=
  decidable_of_iff (_ ∧ _) ⟨fun ⟨size, types⟩ => ⟨size, types⟩, fun h => ⟨h.size, h.types⟩⟩

namespace Reading

variable {f : Features} {bytes : List UInt8} {r : Reading}

theorem memories_of_outline (outlined : r.contents.foldlM Outline.add {} = .ok r.outline)
    (memory : r.outline.memories ≠ []) : (Content.entriesOf r.contents).memories ≠ [] := by
  intro none
  refine memory ?_
  rw [(Outline.run_grows outlined).memories, none]
  rfl

/-- A module with a memory is written with the memory exported under any name so that it can be read again
only if there is room. -/
theorem hasRoom_of_ofBytes {name : String} {out : List UInt8} {r' : Reading}
    (read : ofBytes f bytes = .ok r) (memory : r.outline.memories ≠ [])
    (short : name.utf8ByteSize ≤ Reader.maxTextSize)
    (written : exportMemory bytes name = .ok out) (again : ofBytes f out = .ok r') : HasRoom r name := by
  obtain ⟨valid, outlined⟩ := ofBytes_ok_iff.1 read
  obtain ⟨a⟩ := exists_around valid.decoded (Validator.run_ordered valid.validated).1
  obtain rfl : Sections.join (a.extended name) = out :=
    Except.ok.inj ((exportMemory_around valid a).symm.trans written)
  have extended := (ofBytes_ok_iff.1 again).1
  have size := size_lt_of_extended a extended.whole
  obtain ⟨payloads, _⟩ := split_extended a size
  have contents : _ = r'.contents := Except.ok.inj
    ((a.extended_decoded size short).symm.trans (payloads ▸ extended.decoded))
  refine ⟨?_, ?_⟩
  · rwa [a.exports_eq]
  · exact Validator.typeSize_lt_of_run a valid.validated (memories_of_outline outlined memory)
      (contents ▸ extended.validated)

/-- **The added export does not show** but as the last export. A module with a memory that is read is
written with its memory exported under the reserved name, and what is written is read again, under the
same features and with the same outline otherwise, exactly if there is room for the export. -/
theorem ofBytes_exportMemory_iff (read : ofBytes f bytes = .ok r) (memory : r.outline.memories ≠ [])
    (limits : WithinLimits r.outline) :
    (∃ out r', exportMemory bytes (reservedName r.outline) = .ok out ∧ ofBytes f out = .ok r' ∧
        r'.outline = { r.outline with
          exports := r.outline.exports ++ [⟨reservedName r.outline, .memory, 0⟩] }) ↔
      HasRoom r (reservedName r.outline) := by
  constructor
  · rintro ⟨out, r', written, again, _⟩
    exact hasRoom_of_ofBytes read memory limits.name written again
  intro room
  obtain ⟨valid, outlined⟩ := ofBytes_ok_iff.1 read
  obtain ⟨a⟩ := exists_around valid.decoded (Validator.run_ordered valid.validated).1
  have size := room.size
  rw [a.exports_eq] at size
  obtain ⟨payloads, whole⟩ := split_extended a size
  have decoded := a.extended_decoded size limits.name
  rw [← payloads] at decoded
  have names := Outline.exported_eq valid.validated outlined
  have fresh : reservedName r.outline ∉ r.validator.exported := names ▸ reservedName_free r.outline
  have count : r.validator.exported.length < maxExports := by
    rw [names, List.length_map]
    exact limits.count
  obtain ⟨place, validated⟩ := Validator.run_extended a valid.validated
    (memories_of_outline outlined memory) fresh count room.types
  exact ⟨_, ⟨_, r.outline.expose (reservedName r.outline), _⟩, exportMemory_around valid a,
    ofBytes_ok_iff.2 ⟨⟨whole, decoded, validated, valid.finished⟩, Outline.run_extended a outlined⟩, rfl⟩

/-- A module with a start function that is exported under the name that is tried first. Custom sections
stand in front of all others and behind them, and the last one names the function. -/
def takenModule : List UInt8 :=
  Section.header ++ [0, 2, 1, 0x61] ++ [1, 4, 1, 0x60, 0, 0] ++ [3, 2, 1, 0] ++ [5, 3, 1, 0, 1]
    ++ (exportSection [⟨baseName, .func, 0⟩]).write ++ [8, 1, 0] ++ [10, 4, 1, 2, 0, 0x0b]
    ++ [0, 11, 4, 0x6e, 0x61, 0x6d, 0x65, 1, 4, 1, 0, 1, 0x66]

theorem ofBytes_exportMemory_taken : ∃ r, ofBytes ({} : Config).features takenModule = .ok r ∧
    r.outline.memories ≠ [] ∧ WithinLimits r.outline ∧
    ∃ out r', exportMemory takenModule (reservedName r.outline) = .ok out ∧
      ofBytes ({} : Config).features out = .ok r' ∧
      r'.outline = { r.outline with
        exports := r.outline.exports ++ [⟨reservedName r.outline, .memory, 0⟩] } := by
  obtain ⟨r, read, memory, limits, room⟩ : ∃ r, ofBytes ({} : Config).features takenModule = .ok r ∧
      r.outline.memories ≠ [] ∧ WithinLimits r.outline ∧ HasRoom r (reservedName r.outline) := by
    decide +kernel
  exact ⟨r, read, memory, limits, (ofBytes_exportMemory_iff read memory limits).2 room⟩

/-! ## Types that leave no room -/

/-- A module with a memory, and with so many imported functions of so many parameters and results that
their types take all there is. -/
def crowdedModule : List UInt8 :=
  Sections.join
    [⟨Section.typeId, 2 :: 0x60 :: Writer.sized (List.replicate 1000 0x7f)
        ++ Writer.sized (List.replicate 1000 0x7f)
        ++ 0x60 :: Writer.sized (List.replicate 998 0x7f) ++ [0]⟩,
      ⟨Section.importId, Writer.unsigned 500 ++ (List.replicate 499 [0, 0, 0, 0]).flatten ++ [0, 0, 0, 1]⟩,
      ⟨Section.memoryId, [1, 0, 1]⟩]

/-- **A module that is read may not be read with its memory exported**, though it has no exports yet. -/
theorem ofBytes_exportMemory_crowded : ∃ r, ofBytes ({} : Config).features crowdedModule = .ok r ∧
    r.outline.memories ≠ [] ∧ WithinLimits r.outline ∧
    ¬∃ out r', exportMemory crowdedModule (reservedName r.outline) = .ok out ∧
      ofBytes ({} : Config).features out = .ok r' := by
  obtain ⟨r, read, memory, limits, full⟩ :
      ∃ r, ofBytes ({} : Config).features crowdedModule = .ok r ∧ r.outline.memories ≠ [] ∧
        WithinLimits r.outline ∧ r.validator.typeSize = maxTypeSize := by decide +kernel
  refine ⟨r, read, memory, limits, ?_⟩
  rintro ⟨out, r', written, again⟩
  have room := (hasRoom_of_ofBytes read memory limits.name written again).types
  omega

end Reading

end WasmLens
