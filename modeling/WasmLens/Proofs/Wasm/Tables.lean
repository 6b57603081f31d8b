import Mathlib.Data.List.Basic
import WasmLens.Proofs.Wasm.Validation

/-!
# The tables of a module

A host sees no tables, so `Entries` leaves them out. Their index space grows like the others: what is imported comes
first, what is defined behind it, and **nothing else adds a table** (`Context.add_tables`, `Validator.run_tables`).
-/
namespace WasmLens.Wasm

def Import.tableType? (i : Import) : Option TableType :=
  match i.desc with
  | .table t => some t
  | _ => none

/-- The tables that the contents of a section add. -/
def Content.tableTypes : Content → List TableType
  | .imports items => items.filterMap (·.tableType?)
  | .tables items => items.map (·.type)
  | _ => []

namespace Context

/-- Some tables were added behind those that are there. -/
def AddsTables (c : Context) (added : List TableType) (c' : Context) : Prop :=
  c'.tables.toList = c.tables.toList ++ added

variable {c c' c'' : Context}

namespace AddsTables

theorem of_eq (h : c'.tables = c.tables) : c.AddsTables [] c' := by
  rw [AddsTables, h, List.append_nil]

/-- What is checked twice before something else than a table is added. -/
theorem of_checks {α : Type} {first : Except Fault α} {second : Except Fault Unit} {next : Context}
    (h : (do let _ ← first; second; return next) = .ok c') (same : next.tables = c.tables) : c.AddsTables [] c' := by
  simp only [bind_eq_ok_iff, pure_eq_ok_iff] at h
  obtain ⟨_, _, _, _, rfl⟩ := h
  exact of_eq same

theorem trans {first second : List TableType} (h : c.AddsTables first c') (h' : c'.AddsTables second c'') :
    c.AddsTables (first ++ second) c'' := by
  rw [AddsTables, h', h, List.append_assoc]

/-- Steps that each add the tables of one item add those of all items in order. -/
theorem foldlM {α : Type} {f : Context → α → Except Fault Context} {tables : α → List TableType}
    (each : ∀ c x c', f c x = .ok c' → c.AddsTables (tables x) c') : ∀ {xs : List α} {c c' : Context},
      xs.foldlM f c = .ok c' → c.AddsTables (xs.flatMap tables) c'
  | [], _, _, run => by
    obtain rfl := run_nil_iff.1 run
    exact of_eq rfl
  | x :: xs, c, c', run => by
    obtain ⟨between, first, rest⟩ := run_cons_iff.1 run
    exact (each c x between first).trans (foldlM each rest)

theorem foldlM_nothing {α : Type} {f : Context → α → Except Fault Context}
    (each : ∀ c x c', f c x = .ok c' → c.AddsTables [] c') {xs : List α} (run : xs.foldlM f c = .ok c') :
    c.AddsTables [] c' := by
  have added := foldlM each run
  rwa [List.flatMap_eq_nil_iff.2 fun _ _ => rfl] at added

end AddsTables

/-! ## Imports and definitions -/

theorem addGroup_tables {group : RecGroup} (h : c.addGroup group = .ok c') : c.AddsTables [] c' := by
  unfold addGroup at h
  split at h <;> simp only [bind_eq_ok_iff, pure_eq_ok_iff] at h
  · obtain ⟨_, _, _, _, rfl⟩ := h
    exact .of_eq rfl
  · obtain ⟨_, _, rfl⟩ := h
    exact .of_eq rfl

theorem addFunction_tables {type : Nat} (h : c.addFunction type = .ok c') : c.AddsTables [] c' :=
  .of_checks h rfl

theorem addTable_tables {t : TableType} (h : c.addTable t = .ok c') : c.AddsTables [t] c' := by
  simp only [addTable, bind_eq_ok_iff, pure_eq_ok_iff] at h
  obtain ⟨_, _, _, _, rfl⟩ := h
  exact Array.toList_push

theorem addMemory_tables {t : MemoryType} (h : c.addMemory t = .ok c') : c.AddsTables [] c' :=
  .of_checks h rfl

theorem addGlobal_tables {t : GlobalType} (h : c.addGlobal t = .ok c') : c.AddsTables [] c' :=
  .of_checks h rfl

theorem addTag_tables {type : Nat} (h : c.addTag type = .ok c') : c.AddsTables [] c' :=
  .of_checks h rfl

theorem addImport_tables {i : Import} (h : c.addImport i = .ok c') : c.AddsTables i.tableType?.toList c' := by
  obtain ⟨module, name, desc⟩ := i
  cases desc with
  | func type => exact addFunction_tables h
  | table t => exact addTable_tables h
  | memory t => exact addMemory_tables h
  | global t =>
    simp only [addImport, bind_eq_ok_iff, pure_eq_ok_iff] at h
    obtain ⟨_, added, rfl⟩ := h
    have added := addGlobal_tables added
    exact added
  | tag type => exact addTag_tables h

theorem checkConstExpr_tables {type : ValType} {e : ConstExpr} (h : c.checkConstExpr type e = .ok c') :
    c.AddsTables [] c' := by
  simp only [checkConstExpr, bind_eq_ok_iff, pure_eq_ok_iff] at h
  obtain ⟨_, _, _, _, rfl⟩ := h
  exact .of_eq rfl

theorem defineTable_tables {t : Table} (h : c.defineTable t = .ok c') : c.AddsTables [t.type] c' := by
  simp only [defineTable, bind_eq_ok_iff] at h
  obtain ⟨_, added, h⟩ := h
  have added := addTable_tables added
  split at h
  · split at h
    · cases h
    · exact pure_eq_ok_iff.1 h ▸ added
  · simp only [bind_eq_ok_iff, pure_eq_ok_iff] at h
    obtain ⟨_, _, _, _, rfl⟩ := h
    exact added

theorem defineGlobal_tables {g : Global} (h : c.defineGlobal g = .ok c') : c.AddsTables [] c' := by
  simp only [defineGlobal, bind_eq_ok_iff] at h
  obtain ⟨_, checked, added⟩ := h
  exact (checkConstExpr_tables checked).trans (addGlobal_tables added)

/-! ## Exports and segments -/

theorem addExport_tables {e : Export} (h : c.addExport e = .ok c') : c.AddsTables [] c' := by
  cases kind : e.kind <;> simp only [addExport, kind, bind_eq_ok_iff, pure_eq_ok_iff] at h
  all_goals
    obtain ⟨_, _, rfl⟩ := h
    exact .of_eq rfl

theorem checkElementMode_tables {element : RefType} {mode : SegmentMode}
    (h : c.checkElementMode element mode = .ok c') : c.AddsTables [] c' := by
  unfold checkElementMode at h
  split at h <;> simp only [bind_eq_ok_iff] at h
  · obtain ⟨_, _, h⟩ := h
    split at h
    · cases h
    · exact checkConstExpr_tables h
  · obtain ⟨_, _, h⟩ := h
    exact .of_eq (pure_eq_ok_iff.1 h ▸ rfl)

theorem addElement_tables {e : Element} (h : c.addElement e = .ok c') : c.AddsTables [] c' := by
  unfold addElement at h
  split at h <;> simp only [bind_eq_ok_iff, pure_eq_ok_iff] at h
  · obtain ⟨_, mode, _, _, _, _, rfl⟩ := h
    have added := checkElementMode_tables mode
    exact added
  · obtain ⟨_, _, _, mode, _, _, _, items, rfl⟩ := h
    have added := (checkElementMode_tables mode).trans
      (.foldlM_nothing (fun _ _ _ => checkConstExpr_tables) items)
    exact added

theorem checkData_tables {d : DataSegment} (h : c.checkData d = .ok c') : c.AddsTables [] c' := by
  unfold checkData at h
  split at h <;> simp only [bind_eq_ok_iff] at h
  · obtain ⟨_, _, h⟩ := h
    exact checkConstExpr_tables h
  · obtain ⟨_, _, h⟩ := h
    exact .of_eq (pure_eq_ok_iff.1 h ▸ rfl)

/-! ## Sections -/

/-- **Adding contents** adds exactly their tables. -/
theorem add_tables {content : Content} (h : c.add content = .ok c') : c.AddsTables content.tableTypes c' := by
  unfold add at h
  obtain ⟨advanced, place, h⟩ := bind_eq_ok_iff.1 h
  have same : advanced.tables = c.tables := by
    obtain ⟨_, rfl⟩ := advance_ok_iff.1 place
    rfl
  rw [AddsTables, ← same]
  clear place same
  cases content <;> simp only [bind_eq_ok_iff, pure_eq_ok_iff] at h
  case custom => exact AddsTables.of_eq (h ▸ rfl)
  case types groups =>
    obtain ⟨_, _, run⟩ := h
    exact AddsTables.foldlM_nothing (fun _ _ _ => addGroup_tables) run
  case imports items =>
    obtain ⟨_, _, run⟩ := h
    rw [Content.tableTypes, List.filterMap_eq_flatMap_toList]
    exact AddsTables.foldlM (f := addImport) (fun _ _ _ => addImport_tables) run
  case functions indices =>
    obtain ⟨_, run, rfl⟩ := h
    have added := AddsTables.foldlM_nothing (fun _ _ _ => addFunction_tables) run
    exact added
  case tables items =>
    rw [Content.tableTypes, List.map_eq_flatMap]
    exact AddsTables.foldlM (f := defineTable) (fun _ _ _ => defineTable_tables) h
  case memories items => exact AddsTables.foldlM_nothing (fun _ _ _ => addMemory_tables) h
  case tags indices =>
    obtain ⟨_, _, run⟩ := h
    exact AddsTables.foldlM_nothing (fun _ _ _ => addTag_tables) run
  case globals items => exact AddsTables.foldlM_nothing (fun _ _ _ => defineGlobal_tables) h
  case exports items => exact AddsTables.foldlM_nothing (fun _ _ _ => addExport_tables) h
  case start | dataCount | code =>
    obtain ⟨_, _, rfl⟩ := h
    exact AddsTables.of_eq rfl
  case elements items =>
    obtain ⟨_, _, run⟩ := h
    exact AddsTables.foldlM_nothing (fun _ _ _ => addElement_tables) run
  case data segments =>
    obtain ⟨_, _, _, run, rfl⟩ := h
    have added := AddsTables.foldlM_nothing (fun _ _ _ => checkData_tables) run
    exact added

end Context

/-- **The tables after a run** are those of all contents, in order. -/
theorem Validator.run_tables : ∀ {contents : List Content} {v v' : Validator}, contents.foldlM step v = .ok v' →
    v.context.AddsTables (contents.flatMap Content.tableTypes) v'.context
  | [], _, _, run => by
    obtain rfl := run_nil_iff.1 run
    exact .of_eq rfl
  | content :: contents, v, v', run => by
    obtain ⟨between, first, rest⟩ := run_cons_iff.1 run
    obtain ⟨_, _, added, _, _, rfl⟩ := step_ok_iff.1 first
    exact (Context.add_tables added).trans (run_tables rest)

end WasmLens.Wasm
