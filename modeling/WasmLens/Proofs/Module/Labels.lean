import WasmLens.Proofs.Module.MemoryCount

/-!
# Outlines apart from their labels

The names that an outline has, and the warnings that there are so far, are its labels. What contents show as does
not depend on them, but for one thing: of several memories there is a warning only if there is none yet. So contents
are added to **an outline with other labels** as they are to the outline itself, and with the same warnings
(`add_gains`), as long as these do not differ in what they say of memories. Only name sections change names, and
they change nothing but labels (`addNames_eq`).
-/
namespace WasmLens

open Wasm Wasm.Content

/-- The contents of a name section. -/
def Wasm.Content.ofNames (names : List UInt8) : Content := .custom Outline.nameSectionName names

/-- The warning of a name section that is malformed. -/
def NameSection.warning? (s : NameSection) : Option Warning := s.fault.map fun f => .malformedNames f.message

namespace Outline

/-- The outline with other names and warnings. -/
def labelled (o : Outline) (name : Option String) (functionNames : Std.TreeMap Nat String) (warnings : List Warning) :
    Outline :=
  { o with name, functionNames, warnings }

/-- **What an operation adds to an outline** it adds to the outline with other labels, and with the same warnings,
unless these say something else of memories. -/
structure Gains (f : Outline → Except Error Outline) (o o' : Outline) (gained : List Warning) : Prop where
  warnings : o'.warnings = o.warnings ++ gained
  labelled : ∀ name names ws, ws.filterMap Warning.memoryCount? = o.memoryCounts →
    f (o.labelled name names ws) = .ok (o'.labelled name names (ws ++ gained))

namespace Gains

variable {f g : Outline → Except Error Outline} {o o' o'' : Outline} {a b : List Warning}

/-- What is said of memories stays the same where the same is added. -/
theorem same (h : Gains f o o' a) {ws : List Warning} (same : ws.filterMap Warning.memoryCount? = o.memoryCounts) :
    (ws ++ a).filterMap Warning.memoryCount? = o'.memoryCounts := by
  rw [memoryCounts, h.warnings, List.filterMap_append, List.filterMap_append, same, memoryCounts]

theorem pure (o : Outline) : Gains .ok o o [] :=
  ⟨(List.append_nil _).symm, fun _ _ ws _ => by rw [List.append_nil]⟩

theorem bind (h : Gains f o o' a) (h' : Gains g o' o'' b) : Gains (fun o => f o >>= g) o o'' (a ++ b) where
  warnings := by rw [h'.warnings, h.warnings, List.append_assoc]
  labelled name names ws same := by
    rw [h.labelled name names ws same, ← List.append_assoc]
    exact h'.labelled name names _ (h.same same)

/-- Items that are added one after another gain what each of them does. -/
theorem foldlM {α : Type} {f : Outline → α → Except Error Outline}
    (each : ∀ o x o', f o x = .ok o' → ∃ gained, Gains (fun o => f o x) o o' gained) :
    ∀ {items : List α} {o o' : Outline}, items.foldlM f o = .ok o' →
      ∃ gained, Gains (fun o => items.foldlM f o) o o' gained
  | [], o, o', run => by
    obtain rfl := run_nil_iff.1 run
    exact ⟨[], .pure o⟩
  | x :: items, o, o', run => by
    obtain ⟨between, first, rest⟩ := run_cons_iff.1 run
    obtain ⟨a, here⟩ := each o x between first
    obtain ⟨b, later⟩ := foldlM each rest
    refine ⟨a ++ b, ?_⟩
    simpa only [List.foldlM_cons] using here.bind later

end Gains

variable {o o' : Outline}

/-! ## Sections -/

theorem addImport_gains (o : Outline) (i : Import) (o' : Outline) (h : o.addImport i = .ok o') :
    ∃ gained, Gains (fun o => o.addImport i) o o' gained := by
  obtain ⟨module, name, desc⟩ := i
  cases desc with
  | tag _ => cases h
  | func _ | table _ | memory _ =>
    obtain rfl := Except.ok.inj h
    exact ⟨_, rfl, fun _ _ _ _ => rfl⟩
  | global t =>
    obtain rfl := Except.ok.inj h
    refine ⟨typeWarning "global" o.globals.length t.content, ?_, fun name names ws _ => ?_⟩
    · exact List.append_nil _
    · simp only [addImport, pushImport, List.append_nil]
      rfl

theorem addExport_gains (o : Outline) (e : Export) (o' : Outline) (h : o.addExport e = .ok o') :
    ∃ gained, Gains (fun o => o.addExport e) o o' gained := by
  unfold addExport at h
  split at h <;> cases h
  rename_i kind shown
  refine ⟨[], (List.append_nil _).symm, fun name names ws _ => ?_⟩
  simp only [addExport, shown, List.append_nil]
  rfl

theorem addGlobals_gains : ∀ (items : List Global) (o : Outline),
    ∃ gained, Gains (fun o => .ok (items.foldl (fun o g => o.addGlobal g.type) o)) o
      (items.foldl (fun o g => o.addGlobal g.type) o) gained
  | [], o => ⟨[], .pure o⟩
  | g :: items, o => by
    have here : Gains (fun o => .ok (o.addGlobal g.type)) o (o.addGlobal g.type)
        (typeWarning "global" o.globals.length g.type.content) := ⟨rfl, fun _ _ _ _ => rfl⟩
    obtain ⟨gained, later⟩ := addGlobals_gains items (o.addGlobal g.type)
    exact ⟨_, here.bind later⟩

theorem noteMemories_gains (o : Outline) : Gains (fun o => .ok o.noteMemories) o o.noteMemories o.countDue where
  warnings := by rw [noteMemories_eq]
  labelled name names ws same := by
    have due : (o.labelled name names ws).countDue = o.countDue := by
      rw [countDue, countDue, show (o.labelled name names ws).memoryCounts = o.memoryCounts from same]
      rfl
    rw [noteMemories_eq, noteMemories_eq, due]
    rfl

/-- **A name section** changes nothing but labels. -/
theorem addNames_eq (o : Outline) (s : NameSection) : o.addNames s =
    o.labelled (o.addNames s).name (o.addNames s).functionNames (o.warnings ++ s.warning?.toList) := by
  obtain ⟨name, names, named⟩ := foldl_addName_frame s.names o
  unfold addNames NameSection.warning?
  simp only [named]
  cases s.fault with
  | none => simp [labelled]
  | some f => rfl

/-- **Contents that are no name section** are added whatever the labels are. -/
theorem add_gains {content : Content} (h : o.add content = .ok o')
    (other : ∀ names, content ≠ .ofNames names) : ∃ gained, Gains (fun o => o.add content) o o' gained := by
  cases content <;> simp only [add, Except.ok.injEq, reduceCtorEq] at h
  case types groups =>
    subst h
    exact ⟨_, rfl, fun _ _ _ _ => rfl⟩
  case imports items =>
    obtain ⟨between, run, rfl⟩ := map_eq_ok_iff.1 h
    obtain ⟨gained, imported⟩ := Gains.foldlM addImport_gains run
    exact ⟨_, imported.bind (noteMemories_gains between)⟩
  case memories items =>
    subst h
    let added : Outline := { o with memories := o.memories ++ items.map memoryInfo }
    have grown : Gains (fun o => .ok { o with memories := o.memories ++ items.map memoryInfo }) o added [] :=
      ⟨(List.append_nil _).symm, fun _ _ ws _ => by rw [List.append_nil]; rfl⟩
    exact ⟨_, grown.bind (noteMemories_gains added)⟩
  case globals items =>
    subst h
    exact addGlobals_gains items o
  case exports items => exact Gains.foldlM addExport_gains h
  case custom name bytes =>
    have unnamed : name ≠ nameSectionName := fun (same : name = nameSectionName) => other bytes (same ▸ rfl)
    rw [if_neg unnamed] at h
    subst h
    refine ⟨[], ?_⟩
    simpa only [add, if_neg unnamed] using Gains.pure o
  all_goals
    subst h
    exact ⟨[], (List.append_nil _).symm, fun _ _ ws _ => by rw [List.append_nil]; rfl⟩

end Outline

end WasmLens
