import WasmLens.Module.Reading
import WasmLens.Proofs.Wasm.Section
import WasmLens.Proofs.Wasm.Validation

/-!
# Reading a module in three passes

Reading decodes, validates and outlines one section after another, and reports the offset of the first
fault. When there is none, this is the same as three passes that know nothing of each other and nothing
of offsets: decode all sections, validate all contents, outline all contents (`ofBytes_ok_iff`). All that
is proved of modules that are read is proved of these passes.

`Valid` is the part of it that the validator has a say in. It accepts a little more than reading: a
module that uses tags may be valid, but has no outline. That is **the only difference** (`ofBytes_of_valid`).
-/
namespace WasmLens

open Wasm

variable {f : Features} {bytes : List UInt8}

/-- The sections of some bytes decode to contents, and these are accepted as a module. -/
structure Valid (f : Features) (bytes : List UInt8) (contents : List Content) (v : Validator) : Prop where
  whole : (Sections.split bytes).fault = none
  decoded : (Sections.payloads bytes).mapM (Content.ofSection f) = .ok contents
  validated : contents.foldlM Validator.step (Validator.start f) = .ok v
  finished : v.context.finish = .ok ()

namespace Reading

variable {r r' : Reading}

/-! ## One section -/

theorem step_ok_iff {p : Placed} :
    r.step p = .ok r' ↔ ∃ content,
      Content.ofSection r.validator.context.features p.payload = .ok content ∧
        r.validator.step content = .ok r'.validator ∧ r.outline.add content = .ok r'.outline ∧
          r'.contents = r.contents ++ [content] := by
  constructor
  · intro h
    unfold step at h
    split at h
    · cases h
    · rename_i content decoded
      split at h
      · cases h
      · rename_i v validated
        obtain ⟨o, added, rfl⟩ := map_eq_ok_iff.1 h
        exact ⟨content, decoded, validated, added, rfl⟩
  · obtain ⟨v', o', contents'⟩ := r'
    rintro ⟨content, decoded, validated, added, rfl⟩
    unfold step
    simp only [decoded, validated, added, Except.map]

/-! ## All sections -/

theorem run_ok_iff : ∀ {sections : List Placed} {r r' : Reading},
    sections.foldlM step r = .ok r' ↔ ∃ contents,
      (sections.map (·.payload)).mapM (Content.ofSection r.validator.context.features) = .ok contents ∧
        contents.foldlM Validator.step r.validator = .ok r'.validator ∧
          contents.foldlM Outline.add r.outline = .ok r'.outline ∧ r'.contents = r.contents ++ contents
  | [], r, r' => by
    obtain ⟨v', o', contents'⟩ := r'
    simp only [run_nil_iff, List.map_nil, mapM_nil_eq_ok_iff, exists_eq_left, List.append_nil]
    exact ⟨fun h => h ▸ ⟨rfl, rfl, rfl⟩, fun ⟨v, o, contents⟩ => by rw [← v, ← o, contents]⟩
  | p :: sections, r, r' => by
    rw [run_cons_iff]
    simp only [step_ok_iff, run_ok_iff, List.map_cons, mapM_cons_eq_ok_iff]
    constructor
    · rintro ⟨between, ⟨content, decoded, validated, added, read⟩, contents, others, v, o, all⟩
      rw [(Validator.step_grows validated).1.features] at others
      refine ⟨content :: contents, ⟨content, contents, decoded, others, rfl⟩,
        run_cons_iff.2 ⟨_, validated, v⟩, run_cons_iff.2 ⟨_, added, o⟩, ?_⟩
      rw [all, read, List.append_assoc, List.singleton_append]
    · rintro ⟨_, ⟨content, contents, decoded, others, rfl⟩, v, o, all⟩
      obtain ⟨between, validated, v⟩ := run_cons_iff.1 v
      obtain ⟨outline, added, o⟩ := run_cons_iff.1 o
      refine ⟨⟨between, outline, r.contents ++ [content]⟩, ⟨content, decoded, validated, added, rfl⟩,
        contents, ?_, v, o, ?_⟩
      · rw [(Validator.step_grows validated).1.features]
        exact others
      · rw [all, List.append_assoc, List.singleton_append]

/-- **Reading a module** is decoding its sections, accepting their contents and outlining them. -/
theorem ofBytes_ok_iff :
    ofBytes f bytes = .ok r ↔
      Valid f bytes r.contents r.validator ∧ r.contents.foldlM Outline.add {} = .ok r.outline := by
  unfold ofBytes
  rw [bind_eq_ok_iff]
  constructor
  · rintro ⟨last, run, h⟩
    split at h
    · cases h
    · cases h
    · rename_i whole finished
      obtain rfl := Except.ok.inj h
      obtain ⟨contents, decoded, validated, outlined, all⟩ := run_ok_iff.1 run
      obtain rfl : last.contents = contents := all
      exact ⟨⟨whole, decoded, validated, finished⟩, outlined⟩
  · rintro ⟨⟨whole, decoded, validated, finished⟩, outlined⟩
    refine ⟨r, run_ok_iff.2 ⟨r.contents, decoded, validated, outlined, rfl⟩, ?_⟩
    rw [whole, finished]

/-! ## Valid modules without an outline -/

theorem addImport_error {o : Outline} {i : Import} {e : Error} (h : o.addImport i = .error e) :
    e = Outline.exceptionHandling := by
  unfold Outline.addImport at h
  split at h <;> cases h
  rfl

theorem addExport_error {o : Outline} {x : Export} {e : Error} (h : o.addExport x = .error e) :
    e = Outline.exceptionHandling := by
  unfold Outline.addExport at h
  split at h <;> cases h
  rfl

/-- Nothing but a tag keeps contents out of an outline. -/
theorem add_error {o : Outline} {content : Content} {e : Error} (h : o.add content = .error e) :
    e = Outline.exceptionHandling := by
  cases content <;> simp only [Outline.add, reduceCtorEq] at h
  case imports items =>
    cases run : items.foldlM Outline.addImport o with
    | error e' =>
      rw [run] at h
      cases h
      exact foldlM_error (· = Outline.exceptionHandling) (fun _ _ _ => addImport_error) run
    | ok o' =>
      rw [run] at h
      cases h
  case tags => exact (Except.error.inj h).symm
  case exports items =>
    exact foldlM_error (· = Outline.exceptionHandling) (fun _ _ _ => addExport_error) h

theorem run_of_valid : ∀ {sections : List Placed} {contents : List Content} {r : Reading} {v : Validator},
    (sections.map (·.payload)).mapM (Content.ofSection r.validator.context.features) = .ok contents →
      contents.foldlM Validator.step r.validator = .ok v →
        (∃ o, sections.foldlM step r = .ok ⟨v, o, r.contents ++ contents⟩) ∨
          sections.foldlM step r = .error Outline.exceptionHandling
  | [], contents, r, v, decoded, validated => by
    rw [List.map_nil, mapM_nil_eq_ok_iff] at decoded
    subst decoded
    obtain rfl := run_nil_iff.1 validated
    exact .inl ⟨r.outline, by rw [List.append_nil]; rfl⟩
  | p :: sections, _, r, v, decoded, validated => by
    rw [List.map_cons, mapM_cons_eq_ok_iff] at decoded
    obtain ⟨content, contents, decoded, others, rfl⟩ := decoded
    obtain ⟨between, first, rest⟩ := run_cons_iff.1 validated
    rw [List.foldlM_cons]
    cases added : r.outline.add content with
    | error e =>
      refine .inr ?_
      have failed : r.step p = .error e := by
        unfold step
        simp only [decoded, first, added, Except.map]
      rw [failed, add_error added]
      rfl
    | ok o =>
      have read : r.step p = .ok ⟨between, o, r.contents ++ [content]⟩ :=
        step_ok_iff.2 ⟨content, decoded, first, added, rfl⟩
      rw [← (Validator.step_grows first).1.features] at others
      rw [read, show r.contents ++ content :: contents = r.contents ++ [content] ++ contents by simp]
      exact run_of_valid (r := ⟨between, o, r.contents ++ [content]⟩) others rest

/-- **A valid module is read**, unless it uses tags. -/
theorem ofBytes_of_valid {contents : List Content} {v : Validator} (valid : Valid f bytes contents v) :
    (∃ o, ofBytes f bytes = .ok ⟨v, o, contents⟩) ∨ ofBytes f bytes = .error Outline.exceptionHandling := by
  unfold ofBytes
  rcases run_of_valid (r := start f) valid.decoded valid.validated with ⟨o, run⟩ | refused
  · refine .inl ⟨o, ?_⟩
    simp only [run, bind, Except.bind, valid.whole, valid.finished]
    rfl
  · refine .inr ?_
    simp only [refused, bind, Except.bind]

end Reading

end WasmLens
