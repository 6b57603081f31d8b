import WasmLens.Module.Compiled
import WasmLens.Proofs.Module.Checked
import WasmLens.Proofs.Module.MemoryExport
import WasmLens.Proofs.Module.ReservedName

/-!
# What a module compiles to

The machine loads a module as it is, or written again with its first memory exported. Its image does not
tell which: the sections of both have the same contents but for the exports (`loaded_cases`), so **all that
runs comes from the module that was read** (`ofBytes_ok`), and the first memory of a module that defines it is
**always exported under the name that is known** (`Compiles.namesMemory`). `Coherent` has what this means for
the parts of a compiled module: they show the same contents, and what validation has found of these holds of
all of them (`ofBytes_coherent`).
-/
namespace WasmLens

open Wasm Machine MemoryExport

/-- **How the machine finds the first memory** of a module with some exports: what it loads exports it under
the name that is known, unless the memory is imported or there is none. -/
inductive CompiledModule.Finds (o : Outline) (exports : List Export) : List Export → Option String → Prop
  | foreign (foreign : o.memories = [] ∨ o.isImportedMemory 0) : Finds o exports exports none
  | exported {name : String} (own : o.memories ≠ [] ∧ o.isImportedMemory 0 = false)
      (known : o.memoryExport? 0 = some name) : Finds o exports exports (some name)
  | exposed (own : o.memories ≠ [] ∧ o.isImportedMemory 0 = false) (unknown : o.memoryExport? 0 = none) :
      Finds o exports (exports ++ [firstMemory (reservedName o)]) (some (reservedName o))

/-- What a compiled module is made of. -/
structure CompiledModule.Compiles (c : Config) (bytes : List UInt8) (r : Reading) (m : CompiledModule) :
    Prop where
  read : Reading.ofBytes c.features bytes = .ok r
  config : m.config = c
  outline : m.outline = r.outline
  image : m.image = Image.ofContents r.contents
  program : m.image.program? = some m.program
  text : m.text = m.image.bodies.flatMap (·.bytes)
  locations : m.locations = CompiledModule.spansFrom 0 r.outline.importedFunctions m.image.bodies
  finds : CompiledModule.Finds r.outline (r.contents.flatMap (·.exportItems)) m.exports m.memoryExport

namespace CompiledModule

variable {c : Config} {bytes : List UInt8}

/-- **Whatever reads a module with its memory exported** sees the contents of the module around exports, and
one more export. -/
theorem contents_of_exposed {f : Features} {name : String} {exposed : List UInt8} {r r' : Reading}
    (read : Reading.ofBytes f bytes = .ok r) (written : exportMemory bytes name = .ok exposed)
    (again : Reading.ofBytes f exposed = .ok r') :
    Image.ofContents r'.contents = Image.ofContents r.contents ∧
      r'.contents.flatMap (·.exportItems) = r.contents.flatMap (·.exportItems) ++ [firstMemory name] := by
  obtain ⟨valid, _⟩ := Reading.ofBytes_ok_iff.1 read
  obtain ⟨a⟩ := exists_around valid.decoded (Validator.run_ordered valid.validated).1
  obtain rfl : Sections.join (a.extended name) = exposed :=
    Except.ok.inj ((exportMemory_around valid a).symm.trans written)
  have loaded := (Reading.ofBytes_ok_iff.1 again).1
  have room := size_lt_of_extended a loaded.whole
  have decoded := loaded.decoded
  rw [(split_extended a room).1, Around.extended, List.mapM_append, a.before_decoded, bind_eq_ok_iff] at decoded
  obtain ⟨_, ⟨⟩, decoded⟩ := decoded
  obtain ⟨_, tail, decoded⟩ := bind_eq_ok_iff.1 decoded
  obtain ⟨new, back, first, rest, rfl⟩ := mapM_cons_eq_ok_iff.1 tail
  obtain rfl := eq_of_ofSection_exportSection a.new_index_lt room first
  obtain rfl : a.back = back := Except.ok.inj (a.after_decoded.symm.trans rest)
  rw [← pure_eq_ok_iff.1 decoded]
  constructor
  · rw [Image.ofContents_exports]
    refine Eq.trans ?_ (congrArg Image.ofContents a.contents_eq).symm
    cases a.old with
    | none => rw [Option.map_none, Option.toList_none, List.append_nil]
    | some _ =>
      rw [Option.map_some, Option.toList_some, List.append_assoc, List.singleton_append,
        Image.ofContents_exports]
  · rw [a.exports_eq, List.flatMap_append, List.flatMap_cons, a.front_exports, a.back_exports, List.append_nil,
      List.nil_append, Content.exportItems]

/-- What is loaded comes from the module that was read, as it is or with its first memory exported under the
reserved name. -/
theorem loaded_cases {r : Reading} {exposed : Option (List UInt8)} {name : Option String}
    {contents : List Content} (read : Reading.ofBytes c.features bytes = .ok r)
    (exposes : exposeMemory r.outline bytes = .ok (exposed, name)) (loads : loaded c r exposed = .ok contents) :
    Image.ofContents contents = Image.ofContents r.contents ∧
      Finds r.outline (r.contents.flatMap (·.exportItems)) (contents.flatMap (·.exportItems)) name := by
  unfold exposeMemory at exposes
  split at exposes
  · rename_i foreign
    cases exposes
    cases loads
    rw [Bool.or_eq_true, List.isEmpty_iff] at foreign
    exact ⟨rfl, .foreign foreign⟩
  · rename_i own
    rw [Bool.or_eq_true, List.isEmpty_iff, not_or, Bool.not_eq_true] at own
    split at exposes
    · rename_i known
      cases exposes
      cases loads
      exact ⟨rfl, .exported own known⟩
    · rename_i unknown
      dsimp only at exposes
      split at exposes
      · rename_i written
        cases exposes
        unfold loaded at loads
        dsimp only at loads
        split at loads
        · rename_i again
          cases loads
          obtain ⟨image, exports⟩ := contents_of_exposed read written again
          rw [exports]
          exact ⟨image, .exposed own unknown⟩
        · cases loads
      · cases exposes

/-- **What is compiled** is the module that was read. -/
theorem ofBytes_ok {m : CompiledModule} (h : ofBytes c bytes = .ok m) : ∃ r, Compiles c bytes r m := by
  simp only [ofBytes, bind_eq_ok_iff] at h
  obtain ⟨r, read, ⟨exposed, name⟩, exposes, contents, loads, h⟩ := h
  obtain ⟨image, finds⟩ := loaded_cases read exposes loads
  split at h
  · rename_i program assembled
    obtain rfl := pure_eq_ok_iff.1 h
    exact ⟨r, read, rfl, rfl, image, assembled, rfl, rfl, finds⟩
  · cases h

/-! ## What the parts have in common -/

/-- **The parts of a compiled module** belong to the contents of one valid binary. -/
structure Coherent (contents : List Content) (m : CompiledModule) : Prop where
  ordered : Content.Ordered contents
  outline : m.outline.Declared contents
  image : m.image = Image.ofContents contents
  setsMutable : m.program.Within (SetsMutable (Content.entriesOf contents).globals)
  memories : ∀ t ∈ (Content.entriesOf contents).memories, t.Sound
  functions : ∀ type ∈ (Content.entriesOf contents).functions,
    ∃ t, (Content.entriesOf contents).types[type]?.bind SubType.funcType? = some t
  bodies : (contents.flatMap Content.bodyItems).length = (contents.flatMap Content.definedFunctions).length

variable {m : CompiledModule} {r : Reading} {contents : List Content}

namespace Coherent

variable (h : Coherent contents m)

include h

theorem imports : m.image.imports = contents.flatMap Content.importItems := by
  rw [h.image, Image.fills_imports.ofContents rfl h.ordered]

theorem types : m.image.types.toList = (Content.entriesOf contents).types.map SubType.funcType? := by
  rw [h.image, Image.types_ofContents h.ordered]

theorem functionTypes : m.image.functionTypes.toList = (Content.entriesOf contents).functions := by
  rw [h.image, Image.functionTypes_ofContents h.ordered]

theorem importedFunctions : m.image.importedFunctions = m.outline.importedFunctions := by
  rw [h.image, Image.importedFunctions_ofContents h.ordered, h.outline.importedFunctions]

theorem bodyItems : m.image.bodies = contents.flatMap Content.bodyItems := by
  rw [h.image, Image.bodies_ofContents h.ordered]

theorem importedGlobals :
    m.image.importedGlobals = (contents.flatMap Content.importItems).filterMap (·.globalType?) := by
  rw [h.image, Image.fills_importedGlobals.ofContents rfl h.ordered, List.filterMap_flatMap]

theorem definedGlobals : m.image.globals.map (·.type) = contents.flatMap Content.definedGlobals := by
  rw [h.image, Image.fills_globals.ofContents rfl h.ordered, Content.map_globalItems]

theorem globals :
    (Content.entriesOf contents).globals = m.image.importedGlobals ++ m.image.globals.map (·.type) := by
  rw [h.importedGlobals, h.definedGlobals, Content.globals_entriesOf h.ordered]

theorem definedMemories : m.image.memories = contents.flatMap Content.definedMemories := by
  rw [h.image, Image.fills_memories.ofContents rfl h.ordered]

/-- A memory that the module defines is no larger than it may ever be. -/
theorem definedMemory_le {t : MemoryType} (own : t ∈ m.image.memories) (n) (most : n ∈ t.limits.maximum) :
    t.limits.minimum ≤ n := by
  refine ((h.memories t ?_).maximum n most).1
  rw [Content.memories_entriesOf h.ordered]
  rw [h.definedMemories] at own
  exact List.mem_append_right _ own

/-- The memories that a host sees are those that it provides, and then those of the image. -/
theorem outline_memories : ∃ imported : List MemoryType,
    imported.length = m.outline.importedMemories ∧
      m.outline.memories = (imported ++ m.image.memories).map Outline.memoryInfo :=
  ⟨_, h.outline.importedMemories.symm, by rw [h.outline.memories, h.definedMemories]⟩

/-- What is imported is one of the memories of the module. -/
theorem memories_ne_nil (foreign : 0 < m.outline.importedMemories) : m.outline.memories ≠ [] := by
  intro none
  obtain ⟨imported, count, infos⟩ := h.outline_memories
  rw [infos, List.map_eq_nil_iff, List.append_eq_nil_iff] at none
  rw [← count, none.1] at foreign
  cases foreign

end Coherent

/-- **A module that compiles** is coherent. -/
theorem Compiles.coherent (compiles : Compiles c bytes r m) : Coherent r.contents m := by
  obtain ⟨valid, outlined⟩ := Reading.ofBytes_ok_iff.1 compiles.read
  have ordered := (Validator.run_ordered valid.validated).1
  have entries := (Validator.entries_of_run valid.validated).1
  have bodies : m.image.bodies = r.contents.flatMap Content.bodyItems := by
    rw [compiles.image, Image.bodies_ofContents ordered]
  refine ⟨ordered, ?_, compiles.image, ?_, Validator.run_memories valid.validated, ?_,
    Validator.run_bodies_length valid.validated valid.finished⟩
  · rw [compiles.outline]
    exact Outline.declared_of_runs valid.validated outlined
  · refine Image.program?_within compiles.program fun b among op sets index eq => ?_
    rw [bodies] at among
    obtain ⟨content, mem, among⟩ := List.mem_flatMap.1 among
    cases content <;> simp only [Content.bodyItems, List.not_mem_nil] at among
    rw [← entries, Context.entries, Array.getElem?_toList]
    exact Validator.run_bodies valid.validated mem among (eq ▸ sets)
  · intro type mem
    rw [← entries, Context.entries, Array.getElem?_toList]
    exact Validator.run_functions valid.validated type mem

/-! ## Finding the first memory -/

/-- What is looked up by a name that is not given twice is found. -/
theorem find?_name {exports : List Export} (distinct : (exports.map (·.name)).Nodup) {e : Export}
    (mem : e ∈ exports) : exports.find? (·.name = e.name) = some e := by
  induction exports with
  | nil => cases mem
  | cons x exports ih =>
    rw [List.map_cons, List.nodup_cons] at distinct
    rcases List.mem_cons.1 mem with rfl | mem
    · exact List.find?_cons_of_pos (decide_eq_true rfl)
    · have other : x.name ≠ e.name := fun same => distinct.1 (same ▸ List.mem_map_of_mem mem)
      rw [List.find?_cons_of_neg (by simpa using other)]
      exact ih distinct.2 mem

/-- The machine has the first memory of a module under the name that is known, unless it is imported or there is
none. -/
def NamesMemory (m : CompiledModule) : Prop :=
  m.memoryExport.bind m.memoryNamed? =
    if m.outline.memories = [] ∨ m.outline.isImportedMemory 0 then none else some 0

/-- **The first memory of a module is found** by the machine. -/
theorem Compiles.namesMemory (compiles : Compiles c bytes r m) : m.NamesMemory := by
  unfold NamesMemory
  have declared := compiles.coherent.outline
  have finds := compiles.finds
  have names := Outline.mapM_reflect_names declared.exports
  rw [compiles.outline] at declared names ⊢
  generalize exported : m.exports = exports at finds
  generalize m.memoryExport = name at finds ⊢
  cases finds with
  | foreign foreign => rw [if_pos foreign, Option.bind_none]
  | exported own known =>
    obtain ⟨shown, found, rfl⟩ := Option.map_eq_some_iff.1 known
    obtain ⟨e, mem, shows⟩ := Outline.mapM_reflect_mem declared.exports shown (List.mem_of_find?_eq_some found)
    obtain ⟨kind, reflected, rfl⟩ := Option.map_eq_some_iff.1 shows
    obtain ⟨rfl, index⟩ : kind = .memory ∧ e.index = 0 := by simpa using List.find?_some found
    have memory : e.kind = .memory := by
      cases other : e.kind <;> rw [other] at reflected <;> cases reflected
    rw [if_neg (not_or.2 ⟨own.1, Bool.not_eq_true _ ▸ own.2⟩), Option.bind_some, CompiledModule.memoryNamed?, exported,
      find?_name (names ▸ declared.distinct) mem, Option.bind_some, if_pos memory, index]
  | exposed own unknown =>
    have free : (r.contents.flatMap (·.exportItems)).find? (·.name = reservedName r.outline) = none := by
      have free := reservedName_free r.outline
      rw [names] at free
      rw [List.find?_eq_none]
      intro e mem same
      exact free (of_decide_eq_true same ▸ List.mem_map_of_mem mem)
    rw [if_neg (not_or.2 ⟨own.1, Bool.not_eq_true _ ▸ own.2⟩), Option.bind_some, CompiledModule.memoryNamed?, exported,
      List.find?_append, free, Option.none_or]
    simp [firstMemory]

end CompiledModule

end WasmLens
