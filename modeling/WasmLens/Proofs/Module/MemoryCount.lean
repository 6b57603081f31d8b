import WasmLens.Proofs.Module.Warnings

/-!
# Warnings of several memories

Memories are counted behind the imports and once more behind those that are defined, and the first count above one
is noted for good (`memoryCounts_noteMemories`). So there is **one warning exactly if a module has several memories**
(`ofBytes_countsMemories`). Its number is that of all memories only if those that are imported are not several by
themselves: else it is the number of these, however many are defined behind them (`memoryCounts_short`).
-/
namespace WasmLens

open Wasm Wasm.Content

/-- How many memories a warning says that there are. -/
def Warning.memoryCount? : Warning → Option Nat
  | .multipleMemories count => some count
  | _ => none

namespace Outline

/-- The numbers of memories that are warned of. -/
def memoryCounts (o : Outline) : List Nat := o.warnings.filterMap Warning.memoryCount?

/-- **What an outline says of the number of memories**, some of which are imported and some are defined. -/
structure CountsMemories (imported defined : Nat) (o : Outline) : Prop where
  total : o.memories.length = imported + defined
  once : o.memoryCounts.length ≤ 1
  warned : o.memoryCounts ≠ [] ↔ 1 < imported + defined
  count : ∀ n ∈ o.memoryCounts, n = if 1 < imported then imported else imported + defined

/-! ## Counting -/

/-- Notes a count if it is above one and none was noted yet. -/
def noteCount (noted : List Nat) (count : Nat) : List Nat := if noted = [] ∧ 1 < count then [count] else noted

theorem noteCount_twice (noted : List Nat) (count : Nat) :
    noteCount (noteCount noted count) count = noteCount noted count := by
  unfold noteCount
  split <;> simp_all

/-- The warning that is due, if memories are counted now. -/
def countDue (o : Outline) : List Warning :=
  if o.memoryCounts = [] ∧ 1 < o.memories.length then [.multipleMemories o.memories.length] else []

theorem noteMemories_eq (o : Outline) : o.noteMemories = { o with warnings := o.warnings ++ o.countDue } := by
  unfold noteMemories countDue
  dsimp only
  split
  · rename_i due
    rw [Bool.and_eq_true, decide_eq_true_eq, Bool.not_eq_true', List.any_eq_false] at due
    have unnoted : o.memoryCounts = [] := List.filterMap_eq_nil_iff.2 fun w mem => by
      have := due.2 w mem
      cases w <;> simp_all [Warning.memoryCount?]
    rw [if_pos ⟨unnoted, due.1⟩]
  · rename_i done
    rw [Bool.and_eq_true, decide_eq_true_eq, Bool.not_eq_true', List.any_eq_false] at done
    have none : ¬(o.memoryCounts = [] ∧ 1 < o.memories.length) := by
      rintro ⟨unnoted, several⟩
      refine done ⟨several, fun w mem => ?_⟩
      have := List.filterMap_eq_nil_iff.1 unnoted w mem
      cases w <;> simp_all [Warning.memoryCount?]
    rw [if_neg none, List.append_nil]

theorem memoryCounts_noteMemories (o : Outline) :
    o.noteMemories.memoryCounts = noteCount o.memoryCounts o.memories.length := by
  rw [noteMemories_eq, memoryCounts, List.filterMap_append, ← memoryCounts, countDue, noteCount]
  split
  · rename_i due
    rw [due.1]
    rfl
  · exact List.append_nil _

/-! ## Sections -/

variable {o o' : Outline}

theorem filterMap_ofTypes_memoryCount (location : String) (index : Nat) (types : List ValType) :
    (Warning.ofTypes location index types).filterMap Warning.memoryCount? = [] := by
  refine List.filterMap_eq_nil_iff.2 fun w mem => ?_
  obtain ⟨t, _, rfl⟩ := List.mem_map.1 mem
  rfl

theorem memoryCounts_addTypes (o : Outline) (groups : List RecGroup) :
    (o.addTypes groups).memoryCounts = o.memoryCounts := by
  simp [memoryCounts, addTypes, signatureWarnings_eq, Warning.ofType, List.filterMap_flatMap,
    filterMap_ofTypes_memoryCount]

theorem memoryCounts_addGlobal (o : Outline) (t : GlobalType) : (o.addGlobal t).memoryCounts = o.memoryCounts := by
  simp only [memoryCounts, addGlobal, typeWarning_eq, List.filterMap_append, filterMap_ofTypes_memoryCount,
    List.append_nil]

theorem memoryCounts_addGlobals (items : List Global) : ∀ o : Outline,
    (items.foldl (fun o g => o.addGlobal g.type) o).memoryCounts = o.memoryCounts := by
  induction items with
  | nil => exact fun _ => rfl
  | cons g items ih => exact fun o => (ih _).trans (memoryCounts_addGlobal o g.type)

theorem memoryCounts_addImport {i : Import} (h : o.addImport i = .ok o') : o'.memoryCounts = o.memoryCounts := by
  obtain ⟨module, name, desc⟩ := i
  cases desc with
  | func _ | table _ | memory _ =>
    obtain rfl := Except.ok.inj h
    simp [memoryCounts, pushImport, Warning.memoryCount?]
  | global t =>
    obtain rfl := Except.ok.inj h
    simp only [memoryCounts, pushImport, List.append_nil]
    exact memoryCounts_addGlobal o t
  | tag _ => cases h

theorem memoryCounts_addImports {items : List Import} (run : items.foldlM addImport o = .ok o') :
    o'.memoryCounts = o.memoryCounts :=
  run_related (R := fun o o' : Outline => o'.memoryCounts = o.memoryCounts) (fun _ => rfl) (fun h h' => h'.trans h)
    (fun _ _ _ _ => memoryCounts_addImport) run

theorem memoryCounts_addNames (o : Outline) (s : NameSection) : (o.addNames s).memoryCounts = o.memoryCounts := by
  obtain ⟨name, names, named⟩ := foldl_addName_frame s.names o
  unfold addNames
  simp only [named]
  split
  · exact (List.filterMap_append ..).trans (List.append_nil _)
  · rfl

/-- No count is due: it would have been noted. -/
def Noted (o : Outline) : Prop := noteCount o.memoryCounts o.memories.length = o.memoryCounts

/-- **Behind every section** the memories that are there by then have been counted. -/
theorem memoryCounts_of_add {content : Content} (h : o.add content = .ok o') (noted : o.Noted) :
    o'.memoryCounts = noteCount o.memoryCounts o'.memories.length := by
  have memories := (add_grows h).memories
  -- contents that hold no memories leave nothing to count
  have nothing (same : o'.memoryCounts = o.memoryCounts) (none : content.entries.memories = []) :
      o'.memoryCounts = noteCount o.memoryCounts o'.memories.length := by
    have memories : o'.memories = o.memories := by simpa [entriesOf, none] using memories
    rw [memories, same]
    exact noted.symm
  cases content <;> simp only [add, Except.ok.injEq, reduceCtorEq] at h
  case types groups => exact nothing (h ▸ memoryCounts_addTypes o groups) rfl
  case imports items =>
    obtain ⟨between, run, rfl⟩ := map_eq_ok_iff.1 h
    rw [memoryCounts_noteMemories, memoryCounts_addImports run, noteMemories_eq]
  case memories items =>
    rw [← h, memoryCounts_noteMemories, noteMemories_eq]
    rfl
  case globals items => exact nothing (h ▸ memoryCounts_addGlobals items o) rfl
  case exports items => exact nothing (congrArg (List.filterMap _) (warnings_addExports h)) rfl
  case custom name bytes =>
    refine nothing ?_ rfl
    rw [← h]
    split
    · exact memoryCounts_addNames ..
    · rfl
  all_goals exact nothing (h ▸ rfl) rfl

/-! ## The whole module -/

theorem place_of_definedMemories {content : Content} (h : content.definedMemories ≠ []) :
    content.place? = some 5 := by
  cases content with
  | memories _ => rfl
  | _ => exact absurd rfl h

/-- **Memories are counted twice**: those that are imported, and all. Sections come in order, so there are no more
places at which their number is another one. -/
theorem memoryCounts_of_run : ∀ {contents : List Content} {o o' : Outline}, Content.Ordered contents →
    contents.foldlM add o = .ok o' → o.Noted →
      let imported := ((contents.flatMap importItems).filterMap (·.memoryType?)).length
      o'.memoryCounts = noteCount (noteCount o.memoryCounts (o.memories.length + imported))
        (o.memories.length + imported + (contents.flatMap definedMemories).length)
  | [], o, o', _, run, noted => by
    obtain rfl := run_nil_iff.1 run
    simp only [List.flatMap_nil, List.filterMap_nil, List.length_nil, Nat.add_zero, noteCount_twice]
    exact noted.symm
  | content :: contents, o, o', ordered, run, noted => by
    obtain ⟨between, first, rest⟩ := run_cons_iff.1 run
    have counted := memoryCounts_of_add first noted
    have memories : between.memories.length = o.memories.length +
        (content.importItems.filterMap (·.memoryType?)).length + content.definedMemories.length := by
      rw [(add_grows first).memories]
      cases content <;> simp [entriesOf, Content.entries, importItems, definedMemories]
    have noted' : between.Noted := by rw [Noted, counted, noteCount_twice]
    have later := memoryCounts_of_run (List.pairwise_cons.1 ordered).2 rest noted'
    simp only [List.flatMap_cons, List.filterMap_append, List.length_append]
    rw [later, counted, memories]
    have noImports (place : Nat) (here : content.place? = some place) (late : 2 ≤ place) :
        contents.flatMap importItems = [] := List.flatMap_eq_nil_iff.2 fun other mem =>
      Decidable.of_not_not (ordered.not_behind here late (fun _ => place_of_importItems) other mem)
    cases content with
    | imports items =>
      simp [definedMemories, importItems, noImports 2 rfl (Nat.le_refl 2), noteCount_twice]
    | memories items =>
      have noMemories : contents.flatMap definedMemories = [] := List.flatMap_eq_nil_iff.2 fun other mem =>
        Decidable.of_not_not (ordered.not_behind rfl (Nat.le_refl 5) (fun _ => place_of_definedMemories) other mem)
      have before : noteCount o.memoryCounts o.memories.length = o.memoryCounts := noted
      simp [definedMemories, importItems, noImports 5 rfl (by decide), noMemories, noteCount_twice, before]
    | _ =>
      have before : noteCount o.memoryCounts o.memories.length = o.memoryCounts := noted
      simp [definedMemories, importItems, before]

/-- What is noted of two counts, the second of which is no less. -/
theorem countsMemories_of_noted {imported defined : Nat} (total : o.memories.length = imported + defined)
    (noted : o.memoryCounts = noteCount (noteCount [] imported) (imported + defined)) :
    o.CountsMemories imported defined := by
  rcases Nat.lt_or_ge 1 imported with several | few
  · have counts : o.memoryCounts = [imported] := by simp [noted, noteCount, several]
    refine ⟨total, ?_, ?_, ?_⟩ <;> rw [counts]
    · exact Nat.le_refl 1
    · exact iff_of_true (List.cons_ne_nil _ _) (by omega)
    · intro n mem
      rw [if_pos several, List.mem_singleton.1 mem]
  · rcases Nat.lt_or_ge 1 (imported + defined) with more | single
    · have counts : o.memoryCounts = [imported + defined] := by simp [noted, noteCount, Nat.not_lt.2 few, more]
      refine ⟨total, ?_, ?_, ?_⟩ <;> rw [counts]
      · exact Nat.le_refl 1
      · exact iff_of_true (List.cons_ne_nil _ _) more
      · intro n mem
        rw [if_neg (Nat.not_lt.2 few), List.mem_singleton.1 mem]
    · have counts : o.memoryCounts = [] := by
        simp [noted, noteCount, Nat.not_lt.2 few, Nat.not_lt.2 single]
      refine ⟨total, ?_, ?_, ?_⟩ <;> rw [counts]
      · exact Nat.zero_le 1
      · exact iff_of_false (not_not_intro rfl) (Nat.not_lt.2 single)
      · nofun

end Outline

/-- **An outline warns of several memories** exactly if a module has them, and once. The warning has the number of
all memories, unless those that are imported are several by themselves. -/
theorem Outline.ofBytes_countsMemories {f : Features} {bytes : List UInt8} {o : Outline}
    (h : Outline.ofBytes f bytes = .ok o) :
    ∃ contents, (Sections.payloads bytes).mapM (Content.ofSection f) = .ok contents ∧
      o.CountsMemories ((contents.flatMap importItems).filterMap (·.memoryType?)).length
        (contents.flatMap definedMemories).length := by
  obtain ⟨r, read, rfl⟩ := map_eq_ok_iff.1 h
  obtain ⟨valid, outlined⟩ := Reading.ofBytes_ok_iff.1 read
  have ordered := (Validator.run_ordered valid.validated).1
  have noted := Outline.memoryCounts_of_run ordered outlined rfl
  have total := congrArg List.length (Outline.declared_of_runs valid.validated outlined).memories
  rw [List.length_map, List.length_append] at total
  simp only [List.length_nil, Nat.zero_add] at noted
  exact ⟨r.contents, valid.decoded, Outline.countsMemories_of_noted total noted⟩

/-- A module that imports two memories and defines a third one. -/
def threeMemoriesModule : List UInt8 :=
  let name (s : String) : List UInt8 := Writer.text "host" ++ Writer.text s
  Sections.join [
    ⟨Section.importId, [2] ++ name "low" ++ [2, 0, 1] ++ name "high" ++ [2, 0, 1]⟩,
    ⟨Section.memoryId, [1, 0, 1]⟩]

theorem Outline.ofBytes_countsMemories_three :
    ∃ o, Outline.ofBytes { multiMemory := true } threeMemoriesModule = .ok o ∧
      ∃ contents,
        (Sections.payloads threeMemoriesModule).mapM (Content.ofSection { multiMemory := true }) = .ok contents ∧
        o.CountsMemories ((contents.flatMap importItems).filterMap (·.memoryType?)).length
          (contents.flatMap definedMemories).length := by
  obtain ⟨o, read, _⟩ : ∃ o, Outline.ofBytes { multiMemory := true } threeMemoriesModule = .ok o ∧ True := by
    decide +kernel
  exact ⟨o, read, ofBytes_countsMemories read⟩

/-- **The count can be short**: of three memories there is a warning that there are two. -/
theorem Outline.memoryCounts_short : ∃ o, Outline.ofBytes { multiMemory := true } threeMemoriesModule = .ok o ∧
    o.memories.length = 3 ∧ o.warnings = [.multipleMemories 2] := by decide +kernel

end WasmLens
