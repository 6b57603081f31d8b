import WasmLens.Proofs.Interleaving
import WasmLens.Proofs.Module.Naming
import WasmLens.Proofs.Wasm.Content

/-!
# Modules with name sections

A custom section may stand anywhere, and validation takes no notice of it. So name sections can be **put between
the sections of any module** that is read, with any bytes in them: what becomes of the module is the same but for its
names, and for one warning of each section that is malformed (`ofBytes_named`).

The place of a section does matter to the names themselves. Functions that are declared behind it are not known there,
so the section names only those that are declared in front of it (`ofBytes_moved`): **moved to the front** of the module
it names none of the functions that are defined (`ofBytes_moved_lost`).
-/
namespace WasmLens

open Wasm

/-! ## Name sections -/

/-- A custom section that holds names, in some bytes. -/
def Wasm.Section.HoldsNames (s : Section) (names : List UInt8) : Prop :=
  s.id = Section.customId ∧ Reader.text s.contents = .ok (Outline.nameSectionName, names)

instance (s : Section) (names : List UInt8) : Decidable (s.HoldsNames names) := inferInstanceAs (Decidable (_ ∧ _))

/-- **Name sections put into a module**, anywhere between its sections. -/
structure Wasm.Sections.WithNames (added : List (List UInt8)) (bytes bytes' : List UInt8) : Prop where
  whole : (split bytes').fault = none
  put : ∃ sections, Interleaves (payloads bytes) sections (payloads bytes') ∧
    List.Forall₂ Section.HoldsNames sections added

/-- **One name section in a module**, between the sections in front of it and those behind it. -/
structure Wasm.Sections.NamesBetween (names bytes : List UInt8) (front back : List Section) : Prop where
  whole : (split bytes).fault = none
  here : ∃ s, s.HoldsNames names ∧ payloads bytes = front ++ s :: back
  single : ∀ s ∈ front ++ back, ∀ others, ¬s.HoldsNames others

/-- **What an outline becomes** if name sections are added to its module: nothing but labels change, and there is one
warning more for each section that is malformed. -/
structure Outline.Extended (added : List (List UInt8)) (o o' : Outline) : Prop where
  same : o' = { o with name := o'.name, functionNames := o'.functionNames, warnings := o'.warnings }
  warnings : Interleaves o.warnings (added.filterMap fun names => (NameSection.read names).warning?) o'.warnings

/-- **The names that one section gives**, of which those count that are of functions known to it: the first ones of
the module. -/
structure Outline.NamedBy (known : Nat) (namings : List Naming) (o : Outline) : Prop where
  known_le : known ≤ o.functions.length
  name : o.name = (namings.filterMap Naming.module?).getLast?
  functionNames : ∀ func, o.functionNames[func]? =
    if func < known then (namings.filterMap (Naming.function? func)).getLast? else none

theorem Wasm.Section.holdsNames_iff {f : Features} {s : Section} {names : List UInt8} :
    s.HoldsNames names ↔ Content.ofSection f s = .ok (.ofNames names) := by
  rw [Content.ofSection_ok_iff]
  rfl

theorem mapM_ofSection_of_holdsNames {f : Features} {sections : List Section} {added : List (List UInt8)}
    (h : List.Forall₂ Section.HoldsNames sections added) :
    sections.mapM (Content.ofSection f) = .ok (added.map Content.ofNames) := by
  induction h with
  | nil => rfl
  | cons here _ ih => exact mapM_cons_eq_ok_iff.2 ⟨_, _, Section.holdsNames_iff.1 here, ih, rfl⟩

/-! ## Validation -/

namespace Wasm.Validator

/-- A custom section changes nothing. -/
theorem step_custom {v : Validator} (fits : v.typeSize ≤ maxTypeSize) (name : String) (bytes : List UInt8) :
    v.step (.custom name bytes) = .ok v :=
  step_ok_iff.2 ⟨v.context, v.exported, rfl, rfl, fits, rfl⟩

theorem fits_start (f : Features) : (start f).typeSize ≤ maxTypeSize := show 1 ≤ maxTypeSize by decide

/-- **Validation** takes no notice of name sections. -/
theorem run_interleaved {base sections all : List Content} (h : Interleaves base sections all) :
    ∀ {added : List (List UInt8)}, sections = added.map Content.ofNames → ∀ {v : Validator}, v.typeSize ≤ maxTypeSize →
      all.foldlM step v = base.foldlM step v := by
  induction h with
  | nil => exact fun _ _ _ => rfl
  | left content _ ih =>
    intro added names v fits
    rw [List.foldlM_cons, List.foldlM_cons]
    cases first : v.step content with
    | error f => rfl
    | ok v' =>
      obtain ⟨_, _, _, _, fits', rfl⟩ := step_ok_iff.1 first
      exact ih names fits'
  | right content _ ih =>
    intro added names v fits
    obtain ⟨bytes, added, rfl, rfl, rfl⟩ := List.map_eq_cons_iff.1 names.symm
    rw [List.foldlM_cons, Content.ofNames, step_custom fits]
    exact ih rfl fits

end Wasm.Validator

/-! ## Outlines -/

namespace Outline

variable {o p : Outline} {added : List (List UInt8)}

namespace Extended

theorem refl (o : Outline) : o.Extended [] o := ⟨rfl, .refl _⟩

/-- Malformed names say nothing of memories. -/
theorem memoryCounts (h : Extended added o p) : p.memoryCounts = o.memoryCounts := by
  have none : (added.filterMap fun names => (NameSection.read names).warning?).filterMap Warning.memoryCount? = [] := by
    refine List.filterMap_eq_nil_iff.2 fun w mem => ?_
    obtain ⟨names, _, warned⟩ := List.mem_filterMap.1 mem
    obtain ⟨fault, _, rfl⟩ := Option.map_eq_some_iff.1 warned
    rfl
  have counts := h.warnings.filterMap Warning.memoryCount?
  rw [none] at counts
  exact counts.eq_of_nil

theorem exists_labels (h : Extended added o p) : ∃ name names ws, p = o.labelled name names ws := ⟨_, _, _, h.same⟩

/-- One more name section. -/
theorem add_names (h : Extended added o p) (names : List UInt8) :
    Extended (added ++ [names]) o (p.addNames (NameSection.read names)) := by
  have gained : [names].filterMap (fun names => (NameSection.read names).warning?) =
      (NameSection.read names).warning?.toList := by
    rw [List.filterMap_cons]
    cases (NameSection.read names).warning? <;> rfl
  have warnings := h.warnings.append_right (NameSection.read names).warning?.toList
  rw [← gained, ← List.filterMap_append, gained] at warnings
  obtain ⟨name, functionNames, ws, rfl⟩ := h.exists_labels
  rw [addNames_eq]
  exact ⟨rfl, warnings⟩

/-- **A step** goes alike on an outline that was extended. -/
theorem add (h : Extended added o p) (content : Content) :
    Parallel (Extended added) (o.add content) (p.add content) := by
  have memories := h.memoryCounts
  have warnings := h.warnings
  obtain ⟨name, functionNames, ws, rfl⟩ := h.exists_labels
  by_cases named : ∃ names, content = .ofNames names
  · obtain ⟨names, rfl⟩ := named
    refine .ok ?_
    rw [if_pos rfl, if_pos rfl, addNames_eq o, addNames_eq (o.labelled ..)]
    exact ⟨rfl, warnings.append_left _⟩
  · have other := not_exists.1 named
    cases first : o.add content with
    | ok o' =>
      obtain ⟨gained, gains⟩ := add_gains first other
      rw [gains.labelled name functionNames ws memories]
      refine .ok ⟨rfl, ?_⟩
      rw [gains.warnings]
      exact warnings.append_left gained
    | error e =>
      cases second : (o.labelled name functionNames ws).add content with
      | ok p' =>
        -- with the labels of the other outline, it would have succeeded there
        obtain ⟨gained, gains⟩ := add_gains second other
        cases first.symm.trans (gains.labelled o.name o.functionNames o.warnings memories.symm)
      | error e' =>
        rw [Reading.add_error first, Reading.add_error second]
        exact .error _

end Extended

/-- **A run** over contents between which there are name sections. -/
theorem run_interleaved {base sections all : List Content} (h : Interleaves base sections all) :
    ∀ {added others : List (List UInt8)}, sections = others.map Content.ofNames → ∀ {o p : Outline},
      Extended added o p → Parallel (Extended (added ++ others)) (base.foldlM add o) (all.foldlM add p) := by
  induction h with
  | nil =>
    intro added others names o p extended
    obtain rfl := List.map_eq_nil_iff.1 names.symm
    rw [List.append_nil]
    exact .ok extended
  | left content _ ih =>
    intro added others names o p extended
    rw [List.foldlM_cons, List.foldlM_cons]
    exact (extended.add content).bind fun _ _ => ih names
  | right content _ ih =>
    intro added others names o p extended
    obtain ⟨bytes, others, rfl, rfl, rfl⟩ := List.map_eq_cons_iff.1 names.symm
    have later := ih rfl (extended.add_names bytes)
    rwa [List.append_assoc] at later

end Outline

/-! ## Whole modules -/

/-- **What sections are outlined as**, if they are those of a module. -/
def Outline.OfSections (f : Features) (sections : List Section) (o : Outline) : Prop :=
  ∃ contents v, sections.mapM (Content.ofSection f) = .ok contents ∧
    contents.foldlM Validator.step (Validator.start f) = .ok v ∧ v.context.finish = .ok () ∧
      contents.foldlM Outline.add {} = .ok o

section Modules

variable {f : Features} {bytes : List UInt8} {o o' : Outline} {base sections all : List Section}
  {added : List (List UInt8)}

theorem Outline.ofBytes_ok_iff :
    Outline.ofBytes f bytes = .ok o ↔
      (Sections.split bytes).fault = none ∧ OfSections f (Sections.payloads bytes) o := by
  constructor
  · intro h
    obtain ⟨r, read, rfl⟩ := map_eq_ok_iff.1 h
    obtain ⟨valid, outlined⟩ := Reading.ofBytes_ok_iff.1 read
    exact ⟨valid.whole, r.contents, r.validator, valid.decoded, valid.validated, valid.finished, outlined⟩
  · rintro ⟨whole, contents, v, decoded, validated, finished, outlined⟩
    exact map_eq_ok_iff.2 ⟨⟨v, o, contents⟩, Reading.ofBytes_ok_iff.2 ⟨⟨whole, decoded, validated, finished⟩, outlined⟩,
      rfl⟩

section Interleaved

variable (merged : Interleaves base sections all) (names : List.Forall₂ Section.HoldsNames sections added)

include merged names

/-- Sections that are a module stay one with name sections between them. -/
theorem Outline.OfSections.extend (h : OfSections f base o) : ∃ o', OfSections f all o' ∧ Extended added o o' := by
  obtain ⟨contents, v, decoded, validated, finished, outlined⟩ := h
  obtain ⟨contents', decoded', like⟩ := merged.mapM decoded (mapM_ofSection_of_holdsNames names)
  have same := Validator.run_interleaved like rfl (Validator.fits_start f)
  have outlines := run_interleaved like rfl (Extended.refl {})
  rw [outlined] at outlines
  obtain ⟨o', outlined', extended⟩ := outlines.of_ok
  exact ⟨o', ⟨contents', v, decoded', same.trans validated, finished, outlined'⟩, extended⟩

/-- Sections that are a module are one without the name sections between them. -/
theorem Outline.OfSections.strip (h : OfSections f all o') : ∃ o, OfSections f base o ∧ Extended added o o' := by
  obtain ⟨contents', v, decoded', validated, finished, outlined'⟩ := h
  obtain ⟨contents, others, decoded, named, like⟩ := merged.of_mapM decoded'
  obtain rfl := Except.ok.inj (named.symm.trans (mapM_ofSection_of_holdsNames names))
  have same := Validator.run_interleaved like rfl (Validator.fits_start f)
  have outlines := run_interleaved like rfl (Extended.refl {})
  rw [outlined'] at outlines
  obtain ⟨o, outlined, extended⟩ := outlines.ok_of
  exact ⟨o, ⟨contents, v, decoded, same.symm.trans validated, finished, outlined⟩, extended⟩

end Interleaved

/-- **Name sections in a module that is read**, whatever is in them and wherever they are put: it is still read, as
what it was apart from its names, which are the last that are given, and from the warnings of those that are
malformed. -/
theorem Outline.ofBytes_named {bytes' : List UInt8} (h : Outline.ofBytes f bytes = .ok o)
    (put : Sections.WithNames added bytes bytes') :
    ∃ contents o', (Sections.payloads bytes').mapM (Content.ofSection f) = .ok contents ∧
      Outline.ofBytes f bytes' = .ok o' ∧ o'.Named contents ∧ o.Extended added o' := by
  obtain ⟨sections, merged, names⟩ := put.put
  obtain ⟨o', outlines, extended⟩ := (Outline.ofBytes_ok_iff.1 h).2.extend merged names
  have read := Outline.ofBytes_ok_iff.2 ⟨put.whole, outlines⟩
  obtain ⟨contents, _, decoded, _, _, outlined⟩ := outlines
  exact ⟨contents, o', decoded, read, named_of_run outlined, extended⟩

end Modules

/-- A module of two functions. -/
def pairSections : List Section :=
  [⟨Section.typeId, [1, 0x60, 0, 0]⟩, ⟨Section.functionId, [2, 0, 0]⟩, ⟨Section.codeId, [2, 2, 0, 0x0b, 2, 0, 0x0b]⟩]

/-- Names of the module and of its first function. -/
def earlyNames : List UInt8 := [0, 5] ++ Writer.text "pair" ++ [1, 7, 1, 0] ++ Writer.text "lost"

/-- Names of both functions, the second of which is missing. -/
def brokenNames : List UInt8 := [1, 6, 2, 0] ++ Writer.text "run"

/-- Names of the second function and of one that there is not. -/
def lateNames : List UInt8 := [1, 14, 2, 1] ++ Writer.text "main" ++ [7] ++ Writer.text "ghost"

def namesIn (names : List UInt8) : Section := ⟨Section.customId, Writer.text Outline.nameSectionName ++ names⟩

/-- Names in front of all, between the functions and their bodies, and behind all. -/
def pairSectionsWithNames : List Section :=
  namesIn earlyNames :: pairSections.take 2 ++ namesIn brokenNames :: pairSections.drop 2 ++ [namesIn lateNames]

def pairWithNames : List UInt8 := Sections.join pairSectionsWithNames

theorem withNames_pair :
    Sections.WithNames [earlyNames, brokenNames, lateNames] (Sections.join pairSections) pairWithNames where
  whole := by decide +kernel
  put := by
    refine ⟨[namesIn earlyNames, namesIn brokenNames, namesIn lateNames], ?_, ?_⟩
    · rw [show Sections.payloads (Sections.join pairSections) = pairSections by decide +kernel,
        show Sections.payloads pairWithNames = pairSectionsWithNames by decide +kernel]
      exact .right _ (.left _ (.left _ (.right _ (.left _ (.right _ .nil)))))
    · exact .cons (by decide +kernel) (.cons (by decide +kernel) (.cons (by decide +kernel) .nil))

/-- What was named in front of all is not known there, and what was named before a fault counts. -/
example : ∃ o, Outline.ofBytes {} pairWithNames = .ok o ∧ o.name = some "pair" ∧
    o.functionNames.toList = [(0, "run"), (1, "main")] ∧ o.warnings.length = 1 := by decide +kernel

theorem Outline.ofBytes_named_pair : ∃ o, Outline.ofBytes {} (Sections.join pairSections) = .ok o ∧
    Sections.WithNames [earlyNames, brokenNames, lateNames] (Sections.join pairSections) pairWithNames ∧
      ∃ contents o', (Sections.payloads pairWithNames).mapM (Content.ofSection {}) = .ok contents ∧
        Outline.ofBytes {} pairWithNames = .ok o' ∧ o'.Named contents ∧
          o.Extended [earlyNames, brokenNames, lateNames] o' := by
  obtain ⟨o, read, _⟩ : ∃ o, Outline.ofBytes {} (Sections.join pairSections) = .ok o ∧ True := by decide +kernel
  exact ⟨o, read, withNames_pair, ofBytes_named read withNames_pair⟩

/-! ## One name section -/

section Moved

variable {f : Features} {names bytes : List UInt8} {o : Outline} {front back : List Section}

/-- Sections that hold no names give none. -/
theorem nameSection_of_single {sections : List Section} {contents : List Content}
    (decoded : sections.mapM (Content.ofSection f) = .ok contents)
    (single : ∀ s ∈ sections, ∀ others, ¬s.HoldsNames others) :
    ∀ content ∈ contents, content.nameSection = ⟨[], none⟩ := by
  intro content mem
  obtain ⟨s, among, read⟩ := mem_of_mapM decoded content mem
  refine Content.nameSection_of_other ?_
  rintro others rfl
  exact single s among others (Section.holdsNames_iff.2 read)

/-- **What one section names**: the functions that are declared in front of it. -/
theorem Wasm.Sections.NamesBetween.named (b : Sections.NamesBetween names bytes front back)
    (h : Outline.ofBytes f bytes = .ok o) :
    ∃ before, front.mapM (Content.ofSection f) = .ok before ∧
      o.NamedBy (Content.entriesOf before).functions.length (NameSection.read names).names := by
  obtain ⟨_, contents, _, decoded, _, _, outlined⟩ := Outline.ofBytes_ok_iff.1 h
  obtain ⟨s, holds, split⟩ := b.here
  rw [split, mapM_append_eq_ok_iff] at decoded
  obtain ⟨before, _, first, rest, rfl⟩ := decoded
  obtain ⟨content, behind, here, last, rfl⟩ := mapM_cons_eq_ok_iff.1 rest
  obtain rfl := Except.ok.inj ((Section.holdsNames_iff.1 holds).symm.trans here)
  have given : Naming.ofContents 0 (before ++ .ofNames names :: behind) =
      (NameSection.read names).names.filter (Naming.applies (Content.entriesOf before).functions.length) := by
    have unnamed := List.forall_mem_append.1 b.single
    rw [Naming.ofContents_append, Naming.ofContents, Naming.ofContents_eq_nil (nameSection_of_single first unnamed.1),
      Naming.ofContents_eq_nil (nameSection_of_single last unnamed.2), Nat.zero_add, List.append_nil]
    rfl
  have named := Outline.named_of_run outlined
  have functions : o.functions = (Content.entriesOf (before ++ .ofNames names :: behind)).functions :=
    (Outline.run_grows outlined).functions
  refine ⟨before, first, ?_, ?_, fun func => ?_⟩
  · rw [functions, Content.entriesOf_append, Entries.functions_append, List.length_append]
    exact Nat.le_add_right _ _
  · rw [named.name, given, Naming.filterMap_module_applies]
  · rw [named.functionNames, given, Naming.filterMap_function_applies]
    split <;> rfl

/-- **A name section that is moved** changes nothing but the names of functions: at either place it names those that
are declared in front of it. -/
theorem Outline.ofBytes_moved {bytes' : List UInt8} {front' back' : List Section}
    (h : Outline.ofBytes f bytes = .ok o) (wellFormed : (NameSection.read names).fault = none)
    (here : Sections.NamesBetween names bytes front back) (there : Sections.NamesBetween names bytes' front' back')
    (same : front' ++ back' = front ++ back) :
    ∃ before before' o', front.mapM (Content.ofSection f) = .ok before ∧
      front'.mapM (Content.ofSection f) = .ok before' ∧ Outline.ofBytes f bytes' = .ok o' ∧
        o' = { o with functionNames := o'.functionNames } ∧
          o.NamedBy (Content.entriesOf before).functions.length (NameSection.read names).names ∧
            o'.NamedBy (Content.entriesOf before').functions.length (NameSection.read names).names := by
  obtain ⟨s, holds, split⟩ := here.here
  obtain ⟨s', holds', split'⟩ := there.here
  obtain ⟨_, outlines⟩ := Outline.ofBytes_ok_iff.1 h
  rw [split] at outlines
  obtain ⟨bare, stripped, extended⟩ := outlines.strip (.between front s back) (.cons holds .nil)
  rw [← same] at stripped
  obtain ⟨o', moved, extended'⟩ := stripped.extend (.between front' s' back') (.cons holds' .nil)
  have h' : Outline.ofBytes f bytes' = .ok o' := Outline.ofBytes_ok_iff.2 ⟨there.whole, split' ▸ moved⟩
  obtain ⟨before, first, named⟩ := here.named h
  obtain ⟨before', first', named'⟩ := there.named h'
  refine ⟨before, before', o', first, first', h', ?_, named, named'⟩
  -- without a fault there is nothing to warn of, so both have the warnings that there are without the section
  have silent : ([names].filterMap fun names => (NameSection.read names).warning?) = [] := by
    simp [NameSection.warning?, wellFormed]
  have warnings : o.warnings = bare.warnings := (silent ▸ extended.warnings).eq_of_nil
  have warnings' : o'.warnings = bare.warnings := (silent ▸ extended'.warnings).eq_of_nil
  calc
    o' = { bare with name := o'.name, functionNames := o'.functionNames, warnings := o'.warnings } := extended'.same
    _ = { bare with name := o.name, functionNames := o'.functionNames, warnings := o.warnings } := by
      rw [warnings, warnings', named.name, named'.name]
    _ = { o with functionNames := o'.functionNames } := by rw [extended.same]

end Moved

/-- A module with the names of its functions behind all else. -/
def namedBehind : List UInt8 := Sections.join (pairSections ++ [namesIn lateNames])

/-- The same module with the names in front of all else. -/
def namedInFront : List UInt8 := Sections.join (namesIn lateNames :: pairSections)

theorem pairSections_nameless : ∀ s ∈ pairSections, ∀ others, ¬s.HoldsNames others :=
  fun s mem _ holds => (show ∀ s ∈ pairSections, s.id ≠ Section.customId by decide) s mem holds.1

theorem namedBehind_names : Sections.NamesBetween lateNames namedBehind pairSections [] where
  whole := by decide +kernel
  here := ⟨namesIn lateNames, by decide +kernel, by decide +kernel⟩
  single := pairSections_nameless

theorem namedInFront_names : Sections.NamesBetween lateNames namedInFront [] pairSections where
  whole := by decide +kernel
  here := ⟨namesIn lateNames, by decide +kernel, by decide +kernel⟩
  single := pairSections_nameless

theorem Outline.ofBytes_moved_pair : ∃ o, Outline.ofBytes {} namedBehind = .ok o ∧
    (NameSection.read lateNames).fault = none ∧ Sections.NamesBetween lateNames namedBehind pairSections [] ∧
      Sections.NamesBetween lateNames namedInFront [] pairSections ∧
        ∃ before before' o', pairSections.mapM (Content.ofSection {}) = .ok before ∧
          [].mapM (Content.ofSection {}) = .ok before' ∧ Outline.ofBytes {} namedInFront = .ok o' ∧
            o' = { o with functionNames := o'.functionNames } ∧
              o.NamedBy (Content.entriesOf before).functions.length (NameSection.read lateNames).names ∧
                o'.NamedBy (Content.entriesOf before').functions.length (NameSection.read lateNames).names := by
  obtain ⟨o, read, _⟩ : ∃ o, Outline.ofBytes {} namedBehind = .ok o ∧ True := by decide +kernel
  have wellFormed : (NameSection.read lateNames).fault = none := by decide +kernel
  exact ⟨o, read, wellFormed, namedBehind_names, namedInFront_names,
    ofBytes_moved read wellFormed namedBehind_names namedInFront_names rfl⟩

/-- **Names that are lost**: the module has the function that its section names, but in front of all else the section
does not reach it. -/
theorem Outline.ofBytes_moved_lost : ∃ o, Outline.ofBytes {} namedBehind = .ok o ∧
    ∃ o', Outline.ofBytes {} namedInFront = .ok o' ∧ o'.functions.length = 2 ∧
      .function 1 "main" ∈ (NameSection.read lateNames).names ∧ (NameSection.read lateNames).fault = none ∧
        o.functionNames.toList = [(1, "main")] ∧ o'.functionNames.toList = [] := by decide +kernel

end WasmLens
