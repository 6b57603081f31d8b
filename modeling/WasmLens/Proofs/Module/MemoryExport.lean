import WasmLens.Proofs.Module.ExportSection
import WasmLens.Proofs.Module.Reading

/-!
# Adding an export

Adding an export takes the sections of a valid module apart at the place of the exports (`Around`) and
puts a new section of exports there. The new section is the old one with **one more entry at its end**, and
no other section is touched (`Extended`).

The only limits are those of the format: the new section must have a size of 32 bits, and the name must
not be longer than readers accept. `exportMemory_extended_iff` shows that they are needed as well. A longer
name is written all the same, and then the module that is written cannot be read
(`exportMemory_long_name`).
-/
namespace WasmLens.MemoryExport

open Wasm

variable {f : Features} {name : String}

/-! ## Heads of sections -/

/-- Reading with another reader that takes the same bytes for each item takes the same bytes. -/
theorem vector_replace {α β : Type} {item : Reader α} (other : Reader β)
    (same : ∀ bytes x rest, item bytes = .ok (x, rest) → ∃ y, other bytes = .ok (y, rest)) :
    ∀ {count : Nat} {bytes rest : List UInt8} {xs : List α},
      Reader.vector item count bytes = .ok (xs, rest) →
        ∃ ys, Reader.vector other count bytes = .ok (ys, rest)
  | 0, bytes, rest, xs, h => by
    simp only [Reader.vector, Reader.pure_ok_iff] at h
    exact ⟨[], by rw [← h.2]; rfl⟩
  | count + 1, bytes, rest, xs, h => by
    simp only [Reader.vector, Reader.bind_ok_iff, Reader.pure_ok_iff] at h
    obtain ⟨x, between, first, ys, _, others, _, rfl⟩ := h
    obtain ⟨y, first⟩ := same _ _ _ first
    obtain ⟨ys, others⟩ := vector_replace other same others
    refine ⟨y :: ys, ?_⟩
    rw [Reader.vector, Reader.bind_of_ok first, Reader.bind_of_ok others]
    rfl

theorem sizedItems_of_bodies {bytes : List UInt8} {bodies : List Body}
    (h : Decode.items (Decode.sizedBody f) bytes = .ok (bodies, [])) :
    sizedItems.runOn "code section" bytes = .ok () := by
  obtain ⟨count, between, countRead, bodiesRead⟩ := Decode.items_ok_iff.1 h
  obtain ⟨taken, takenRead⟩ := vector_replace (do Reader.take (← Reader.u32)) (by
    intro bytes b rest read
    simp only [Decode.sizedBody, Reader.bind_ok_iff] at read
    obtain ⟨size, behind, sizeRead, contents, behind', contentsRead, bodyRead⟩ := read
    refine ⟨contents, ?_⟩
    rw [Reader.bind_of_ok sizeRead, contentsRead]
    cases body : Decode.body f contents with
    | error fault =>
      rw [body] at bodyRead
      cases bodyRead
    | ok b' =>
      rw [body] at bodyRead
      rw [(Reader.pure_ok_iff.1 bodyRead).2]) bodiesRead
  rw [Reader.runOn_ok_iff, sizedItems, Reader.bind_of_ok countRead, Reader.bind_of_ok takenRead]
  rfl

/-- **A section that decodes has a head**, so that it is copied as it is. -/
theorem checkHead_of_decoded {s : Section} {content : Content}
    (h : Content.ofSection f s = .ok content) : checkHead s = .ok () := by
  obtain ⟨id, reads⟩ := Content.ofSection_ok_iff.1 h
  have count {α : Type} {item : Reader α} {xs : List α}
      (items : Decode.items item s.contents = .ok (xs, [])) :
      (Reader.u32 s.contents).map (fun _ => ()) = .ok () := by
    obtain ⟨n, between, read, _⟩ := Decode.items_ok_iff.1 items
    rw [read]
    rfl
  have number {n : Nat} (read : Reader.u32 s.contents = .ok (n, [])) :
      (Reader.u32.runOn "section" s.contents).map (fun _ => ()) = .ok () := by
    rw [Reader.runOn_ok_iff.2 read]
    rfl
  unfold checkHead
  rw [id]
  cases content
  case custom name rest =>
    show (Reader.text s.contents).map _ = _
    rw [show Reader.text s.contents = _ from reads]
    rfl
  case start func => exact number reads
  case dataCount n => exact number reads
  case code bodies => exact sizedItems_of_bodies reads
  all_goals exact count reads

/-! ## The place of the exports -/

/-- The place of exports in the order of sections. -/
def exportsPlace : Nat := 8

/-- **Sections around their exports**: what comes before them, the section of exports if there is one,
and what comes after. Without that section the place is in front of the first section that must follow
exports, or else at the end. -/
structure Around (f : Features) (sections : List Section) (contents : List Content) where
  before : List Section
  old : Option Section
  after : List Section
  front : List Content
  exports : List Export
  back : List Content
  sections_eq : sections = before ++ old.toList ++ after
  contents_eq : contents = front ++ (old.map fun _ => Content.exports exports).toList ++ back
  before_decoded : before.mapM (Content.ofSection f) = .ok front
  after_decoded : after.mapM (Content.ofSection f) = .ok back
  front_place : ∀ content ∈ front, ∀ p, content.place? = some p → p < exportsPlace
  back_place : ∀ content ∈ back, ∀ p, content.place? = some p → exportsPlace < p
  present : ∀ s, old = some s → Content.ofSection f s = .ok (.exports exports)
  absent : old = none → exports = [] ∧ ∀ s ∈ after.head?, followsExports s.id

theorem followsExports_iff {s : Section} {content : Content} (h : Content.ofSection f s = .ok content) :
    followsExports s.id ↔ ∃ p, content.place? = some p ∧ exportsPlace < p := by
  have same : followsExports content.id = content.place?.any (exportsPlace < ·) := by
    cases content <;> rfl
  rw [(Content.ofSection_ok_iff.1 h).1, same, Option.any_eq_true]
  simp only [decide_eq_true_eq]

theorem id_eq_exportId_iff {s : Section} {content : Content} (h : Content.ofSection f s = .ok content) :
    s.id = Section.exportId ↔ content.place? = some exportsPlace := by
  have same : (content.id == Section.exportId) = (content.place? == some exportsPlace) := by
    cases content <;> rfl
  rw [(Content.ofSection_ok_iff.1 h).1, ← beq_iff_eq, same, beq_iff_eq]

/-- Sections whose contents are in order come apart around their exports. -/
theorem exists_around : ∀ {sections : List Section} {contents : List Content},
    sections.mapM (Content.ofSection f) = .ok contents → Content.Ordered contents →
      Nonempty (Around f sections contents)
  | [], contents, decoded, _ => by
    rw [mapM_nil_eq_ok_iff] at decoded
    subst decoded
    exact ⟨⟨[], none, [], [], [], [], rfl, rfl, rfl, rfl, by simp, by simp, by simp, by simp⟩⟩
  | s :: sections, _, decoded, ordered => by
    obtain ⟨content, contents, first, rest, rfl⟩ := mapM_cons_eq_ok_iff.1 decoded
    obtain ⟨before, orderedRest⟩ := List.pairwise_cons.1 ordered
    -- contents that come before the place of exports go to the front, and the rest comes apart
    have early (place : ∀ p, content.place? = some p → p < exportsPlace) :
        Nonempty (Around f (s :: sections) (content :: contents)) := by
      obtain ⟨a⟩ := exists_around rest orderedRest
      exact ⟨{ a with
        before := s :: a.before
        front := content :: a.front
        sections_eq := congrArg (s :: ·) a.sections_eq
        contents_eq := congrArg (content :: ·) a.contents_eq
        before_decoded := mapM_cons_eq_ok_iff.2 ⟨content, a.front, first, a.before_decoded, rfl⟩
        front_place := by
          intro other mem
          rcases List.mem_cons.1 mem with rfl | mem
          · exact place
          · exact a.front_place other mem }⟩
    cases place : content.place? with
    | none => exact early fun p some => by simp [place] at some
    | some p =>
      rcases Nat.lt_trichotomy p exportsPlace with less | same | more
      · exact early fun q some => by simp_all
      · -- this is the section of exports
        subst same
        obtain ⟨items, rfl⟩ : ∃ items, content = .exports items := by
          cases content with
          | exports items => exact ⟨items, rfl⟩
          | _ => simp [Content.place?, exportsPlace] at place
        exact ⟨⟨[], some s, sections, [], items, contents, rfl, rfl, rfl, rest, by simp,
          fun other mem q => before other mem _ q place, fun t eq => Option.some.inj eq ▸ first,
          by simp⟩⟩
      · -- the section of exports is missing
        refine ⟨⟨[], none, s :: sections, [], [], content :: contents, rfl, rfl, rfl, decoded, by simp, ?_,
          by simp, fun _ => ⟨rfl, ?_⟩⟩⟩
        · intro other mem q some
          rcases List.mem_cons.1 mem with rfl | mem
          · simp_all
          · exact Nat.lt_trans more (before other mem p q place some)
        · intro t eq
          obtain rfl : s = t := by simpa using eq
          exact (followsExports_iff first).2 ⟨p, place, more⟩

/-! ## Putting the export in -/

/-- Sections in front of the exports are copied. -/
theorem insertExport_front {tail out : List Section} (rest : insertExport name false tail = .ok out) :
    ∀ {before : List Section} {front : List Content}, before.mapM (Content.ofSection f) = .ok front →
      (∀ content ∈ front, ∀ p, content.place? = some p → p < exportsPlace) →
        insertExport name false (before ++ tail) = .ok (before ++ out)
  | [], _, _, _ => rest
  | s :: before, _, decoded, early => by
    obtain ⟨content, front, first, others, rfl⟩ := mapM_cons_eq_ok_iff.1 decoded
    have place := early content List.mem_cons_self
    have isOther : s.id ≠ Section.exportId := by
      intro id
      have := place _ ((id_eq_exportId_iff first).1 id)
      omega
    have precedes : followsExports s.id = false := by
      rw [← Bool.not_eq_true, followsExports_iff first]
      rintro ⟨p, some, late⟩
      have := place p some
      omega
    have copied := insertExport_front rest others fun other mem => early other (List.mem_cons_of_mem _ mem)
    rw [List.cons_append, insertExport, checkHead_of_decoded first]
    simp only [bind, Except.bind, if_neg isOther, precedes, Bool.and_false, copied]
    rfl

/-- Sections behind the exports are copied. -/
theorem insertExport_back : ∀ {after : List Section} {back : List Content},
    after.mapM (Content.ofSection f) = .ok back →
      (∀ content ∈ back, ∀ p, content.place? = some p → exportsPlace < p) →
        insertExport name true after = .ok after
  | [], _, _, _ => rfl
  | s :: after, _, decoded, late => by
    obtain ⟨content, back, first, others, rfl⟩ := mapM_cons_eq_ok_iff.1 decoded
    have isOther : s.id ≠ Section.exportId := by
      intro id
      have := late content List.mem_cons_self _ ((id_eq_exportId_iff first).1 id)
      omega
    have copied := insertExport_back others fun other mem => late other (List.mem_cons_of_mem _ mem)
    rw [insertExport, checkHead_of_decoded first]
    simp only [bind, Except.bind, if_neg isOther, Bool.not_true, Bool.false_and, copied]
    rfl

/-- The sections with one more export at the end of their exports. -/
def Around.extended {sections : List Section} {contents : List Content} (a : Around f sections contents)
    (name : String) : List Section :=
  a.before ++ exportSection (a.exports ++ [firstMemory name]) :: a.after

/-- **The export is put in** where the exports are, and all other sections are copied. -/
theorem insertExport_around {sections : List Section} {contents : List Content}
    (a : Around f sections contents) : insertExport name false sections = .ok (a.extended name) := by
  have copied : insertExport name true a.after = .ok a.after :=
    insertExport_back a.after_decoded a.back_place
  have here : insertExport name false (a.old.toList ++ a.after) =
      .ok (exportSection (a.exports ++ [firstMemory name]) :: a.after) := by
    cases old : a.old with
    | some s =>
      have decoded := a.present s old
      obtain ⟨id, items⟩ := Content.ofSection_ok_iff.1 decoded
      have read : (Decode.items Decode.exportItem).runOn "export section" s.contents = .ok a.exports :=
        Reader.runOn_ok_iff.2 items
      rw [Option.toList_some, List.singleton_append, insertExport, checkHead_of_decoded decoded]
      simp only [bind, Except.bind, if_pos (show s.id = Section.exportId from id), read, copied]
      rfl
    | none =>
      obtain ⟨none, follows⟩ := a.absent old
      rw [none, List.nil_append, Option.toList_none, List.nil_append]
      cases behind : a.after with
      | nil => rfl
      | cons s after =>
        obtain ⟨content, back, first, others, eq⟩ := mapM_cons_eq_ok_iff.1 (behind ▸ a.after_decoded)
        have late := a.back_place
        rw [eq] at late
        have isOther : s.id ≠ Section.exportId := by
          intro id
          have := late content List.mem_cons_self _ ((id_eq_exportId_iff first).1 id)
          omega
        have copied : insertExport name true after = .ok after :=
          insertExport_back others fun other mem => late other (List.mem_cons_of_mem _ mem)
        rw [insertExport, checkHead_of_decoded first]
        simp only [bind, Except.bind, if_neg isOther, follows s (by simp [behind]), copied]
        rfl
  have parts : sections = a.before ++ (a.old.toList ++ a.after) := by
    rw [← List.append_assoc]
    exact a.sections_eq
  exact (congrArg (insertExport name false) parts).trans
    (insertExport_front here a.before_decoded a.front_place)

/-! ## The module that is written -/

namespace Around

variable {sections : List Section} {contents : List Content} (a : Around f sections contents)

theorem exportItems_eq_nil {content : Content} (place : content.place? ≠ some exportsPlace) :
    content.exportItems = [] := by
  cases content with
  | exports _ => exact absurd rfl place
  | _ => rfl

theorem back_exports : a.back.flatMap (·.exportItems) = [] :=
  List.flatMap_eq_nil_iff.2 fun content mem => exportItems_eq_nil fun place => by
    have := a.back_place content mem _ place
    omega

theorem front_exports : a.front.flatMap (·.exportItems) = [] :=
  List.flatMap_eq_nil_iff.2 fun content mem => exportItems_eq_nil fun place => by
    have := a.front_place content mem _ place
    omega

/-- The exports of the section that is taken out are all exports. -/
theorem exports_eq : contents.flatMap (·.exportItems) = a.exports := by
  have all := congrArg (List.flatMap (·.exportItems)) a.contents_eq
  rw [all, List.flatMap_append, List.flatMap_append, a.front_exports, a.back_exports]
  cases old : a.old with
  | some s => simp [Content.exportItems]
  | none => simp [(a.absent old).1]

/-- The sections around the exports hold no exports. -/
theorem others : ∀ s ∈ a.before ++ a.after, s.id ≠ Section.exportId := by
  intro s mem id
  rcases List.mem_append.1 mem with mem | mem
  · obtain ⟨content, among, decoded⟩ := mapM_mem a.before_decoded s mem
    have := a.front_place content among _ ((id_eq_exportId_iff decoded).1 id)
    omega
  · obtain ⟨content, among, decoded⟩ := mapM_mem a.after_decoded s mem
    have := a.back_place content among _ ((id_eq_exportId_iff decoded).1 id)
    omega

/-- All exports can be written again, and one that is read under a short name with them. -/
theorem exports_fit : ∀ e ∈ a.exports, Fits e := by
  cases old : a.old with
  | some s => exact fits_of_exports (a.present s old)
  | none => simp [(a.absent old).1]

/-- All exports of the new section have an index that can be written. -/
theorem new_index_lt : ∀ e ∈ a.exports ++ [firstMemory name], e.index < twoTo 32 := by
  intro e mem
  rcases List.mem_append.1 mem with mem | mem
  · exact (a.exports_fit e mem).index_lt
  · obtain rfl := List.mem_singleton.1 mem
    show 0 < twoTo 32
    decide

/-- **The new section of exports** reads as the old exports and the added one, exactly if the name is not
longer than readers accept. -/
theorem new_decoded_iff
    (room : (exportSection (a.exports ++ [firstMemory name])).contents.length < twoTo 32) :
    Content.ofSection f (exportSection (a.exports ++ [firstMemory name])) =
        .ok (.exports (a.exports ++ [firstMemory name])) ↔
      name.utf8ByteSize ≤ Reader.maxTextSize := by
  rw [ofSection_exportSection_iff a.new_index_lt room]
  constructor
  · intro names
    exact names (firstMemory name) (by simp)
  · intro short e mem
    rcases List.mem_append.1 mem with mem | mem
    · exact (a.exports_fit e mem).name_le
    · obtain rfl := List.mem_singleton.1 mem
      exact short

/-- The sections that are written decode to the contents with one more export. -/
theorem extended_decoded
    (room : (exportSection (a.exports ++ [firstMemory name])).contents.length < twoTo 32)
    (short : name.utf8ByteSize ≤ Reader.maxTextSize) :
    (a.extended name).mapM (Content.ofSection f) =
      .ok (a.front ++ .exports (a.exports ++ [firstMemory name]) :: a.back) :=
  mapM_append_eq_ok a.before_decoded
    (mapM_cons_eq_ok_iff.2 ⟨_, _, (a.new_decoded_iff room).2 short, a.after_decoded, rfl⟩)

end Around

section Valid

variable {bytes : List UInt8} {contents : List Content} {v : Validator}

theorem exportMemory_around (valid : Valid f bytes contents v)
    (a : Around f (Sections.payloads bytes) contents) :
    exportMemory bytes name = .ok (Sections.join (a.extended name)) := by
  have inserted : insertExport name false ((Sections.split bytes).found.map (·.payload)) = _ :=
    insertExport_around a
  unfold exportMemory
  simp only [inserted, valid.whole]

theorem others_fit (a : Around f (Sections.payloads bytes) contents) :
    ∀ s ∈ a.before ++ a.after, s.Fits := by
  intro s mem
  refine Sections.fits_of_split bytes s ?_
  rw [a.sections_eq]
  rcases List.mem_append.1 mem with mem | mem <;> simp [mem]

theorem split_extended (a : Around f (Sections.payloads bytes) contents)
    (room : (exportSection (a.exports ++ [firstMemory name])).contents.length < twoTo 32) :
    Sections.payloads (Sections.join (a.extended name)) = a.extended name ∧
      (Sections.split (Sections.join (a.extended name))).fault = none := by
  refine Sections.split_join fun s mem => ?_
  simp only [Around.extended, List.mem_append, List.mem_cons] at mem
  rcases mem with mem | rfl | mem
  · exact others_fit a s (List.mem_append_left _ mem)
  · exact ⟨(by decide : Section.exportId < 128), room⟩
  · exact others_fit a s (List.mem_append_right _ mem)

theorem size_lt_of_extended (a : Around f (Sections.payloads bytes) contents)
    (whole : (Sections.split (Sections.join (a.extended name))).fault = none) :
    (exportSection (a.exports ++ [firstMemory name])).contents.length < twoTo 32 :=
  Sections.size_lt_of_join (by decide : Section.exportId < 128)
    (fun s mem => others_fit a s (List.mem_append_left _ mem)) whole

end Valid

/-- **How sections change** by the export. All but one section stay as they are, with the same ids and
contents in the same order; none of them is a section of exports. -/
inductive Extended (f : Features) (name : String) : List Section → List Section → Prop where
  /-- A section of exports is added. -/
  | added {before after : List Section} {new : Section}
      (others : ∀ s ∈ before ++ after, s.id ≠ Section.exportId)
      (decoded : Content.ofSection f new = .ok (.exports [firstMemory name])) :
      Extended f name (before ++ after) (before ++ new :: after)
  /-- The section of exports keeps its place and gets one more entry, the last one. -/
  | replaced {before after : List Section} {old new : Section} {exports : List Export}
      (others : ∀ s ∈ before ++ after, s.id ≠ Section.exportId)
      (present : Content.ofSection f old = .ok (.exports exports))
      (decoded : Content.ofSection f new = .ok (.exports (exports ++ [firstMemory name]))) :
      Extended f name (before ++ old :: after) (before ++ new :: after)

theorem Around.extended_of_decoded {sections : List Section} {contents : List Content}
    (a : Around f sections contents)
    (decoded : Content.ofSection f (exportSection (a.exports ++ [firstMemory name])) =
      .ok (.exports (a.exports ++ [firstMemory name]))) :
    Extended f name sections (a.extended name) := by
  have parts := a.sections_eq
  cases old : a.old with
  | some s =>
    rw [old, Option.toList_some, List.append_assoc, List.singleton_append] at parts
    exact (congrArg (Extended f name · (a.extended name)) parts).mpr
      (.replaced a.others (a.present s old) decoded)
  | none =>
    rw [old, Option.toList_none, List.append_nil] at parts
    rw [(a.absent old).1, List.nil_append] at decoded
    have new : a.extended name = a.before ++ exportSection [firstMemory name] :: a.after := by
      rw [Around.extended, (a.absent old).1, List.nil_append]
    rw [new]
    exact (congrArg (Extended f name · _) parts).mpr (.added a.others decoded)

/-- No module that is written reads with a name that is longer than readers accept. -/
theorem name_le_of_extended {sections sections' : List Section}
    (extended : Extended f name sections sections') : name.utf8ByteSize ≤ Reader.maxTextSize := by
  have fits : Fits (firstMemory name) := by
    cases extended with
    | added _ decoded => exact fits_of_exports decoded _ (by simp)
    | replaced _ _ decoded => exact fits_of_exports decoded _ (by simp)
  exact fits.name_le

/-- **Exporting the memory of a valid module** changes nothing but its exports, exactly if the name is one
that readers accept and the new section of exports has a size of 32 bits. -/
theorem exportMemory_extended_iff {bytes : List UInt8} {contents : List Content} {v : Validator}
    (valid : Valid f bytes contents v) :
    (∃ out, exportMemory bytes name = .ok out ∧ (Sections.split out).fault = none ∧
        Extended f name (Sections.payloads bytes) (Sections.payloads out)) ↔
      name.utf8ByteSize ≤ Reader.maxTextSize ∧
        (exportSection (contents.flatMap (·.exportItems) ++ [firstMemory name])).contents.length
          < twoTo 32 := by
  obtain ⟨a⟩ := exists_around valid.decoded (Validator.run_ordered valid.validated).1
  rw [a.exports_eq]
  have written : exportMemory bytes name = .ok (Sections.join (a.extended name)) :=
    exportMemory_around valid a
  constructor
  · rintro ⟨out, exported, whole, extended⟩
    obtain rfl := Except.ok.inj (written.symm.trans exported)
    exact ⟨name_le_of_extended extended, size_lt_of_extended a whole⟩
  · rintro ⟨short, room⟩
    obtain ⟨payloads, whole⟩ := split_extended a room
    refine ⟨_, written, whole, ?_⟩
    rw [payloads]
    exact a.extended_of_decoded ((a.new_decoded_iff room).2 short)

/-- A module with an exported and started function and a memory. Custom sections stand around the
exports, and the size of the section of exports is padded. -/
def paddedModule : List UInt8 :=
  Section.header ++ [0, 2, 1, 0x61] ++ [1, 4, 1, 0x60, 0, 0] ++ [3, 2, 1, 0] ++ [5, 3, 1, 0, 1]
    ++ [7, 0x87, 0, 1, 3, 0x72, 0x75, 0x6e, 0, 0] ++ [0, 2, 1, 0x62] ++ [8, 1, 0] ++ [10, 4, 1, 2, 0, 0x0b]

theorem exportMemory_extended_padded : ∃ contents v, Valid {} paddedModule contents v ∧
    ∃ out, exportMemory paddedModule baseName = .ok out ∧ (Sections.split out).fault = none ∧
      Extended {} baseName (Sections.payloads paddedModule) (Sections.payloads out) := by
  obtain ⟨r, read, room⟩ : ∃ r, Reading.ofBytes {} paddedModule = .ok r ∧
      (exportSection (r.contents.flatMap (·.exportItems) ++ [firstMemory baseName])).contents.length
        < twoTo 32 := by decide +kernel
  have valid := (Reading.ofBytes_ok_iff.1 read).1
  exact ⟨r.contents, r.validator, valid, (exportMemory_extended_iff valid).2 ⟨by decide, room⟩⟩

/-! ## Names that are too long -/

/-- A module with nothing but a memory. -/
def memoryModule : List UInt8 := Sections.join [⟨Section.memoryId, [1, 0, 1]⟩]

/-- A name one byte longer than readers accept. -/
def longName : String := "".pushn 'x' (Reader.maxTextSize + 1)

theorem size_pushn (n : Nat) : ("".pushn 'x' n).utf8ByteSize = n := by
  rw [String.pushn_eq_repeat_push]
  induction n with
  | zero => rfl
  | succ n ih =>
    rw [Nat.repeat, String.utf8ByteSize_push, ih]
    rfl

/-- **The limit on names is met**: under a name one byte longer, the memory of a valid module is not
exported so that the module can be read. -/
theorem exportMemory_long_name : (∃ contents v, Valid {} memoryModule contents v) ∧
    ¬∃ out, exportMemory memoryModule longName = .ok out ∧ (Sections.split out).fault = none ∧
      Extended {} longName (Sections.payloads memoryModule) (Sections.payloads out) := by
  constructor
  · obtain ⟨r, read, _⟩ : ∃ r, Reading.ofBytes {} memoryModule = .ok r ∧ True := by decide +kernel
    exact ⟨r.contents, r.validator, (Reading.ofBytes_ok_iff.1 read).1⟩
  · rintro ⟨out, _, _, extended⟩
    have short := name_le_of_extended extended
    rw [longName, size_pushn] at short
    exact Nat.not_succ_le_self _ short

end WasmLens.MemoryExport
