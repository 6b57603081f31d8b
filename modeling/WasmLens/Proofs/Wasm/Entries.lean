import WasmLens.Proofs.Outcome
import WasmLens.Wasm.Validate.Module

/-!
# What sections enter into the index spaces

Validation fills the index spaces entry by entry. `Context.Grows` records what a piece of it can do to
them: it appends, it moves nothing that is already there, and every function that it appends has a type
that is declared by then. The key theorem is `add_ok`: adding the contents of a section appends **exactly
the entries that the contents hold** (`Content.entries`), and the functions that the contents export or
start exist.
-/
namespace WasmLens.Wasm

/-! ## Entries -/

/-- Entries of the index spaces that a host can see, in order. -/
@[ext]
structure Entries where
  types : List SubType := []
  /-- Type indices. -/
  functions : List Nat := []
  memories : List MemoryType := []
  globals : List GlobalType := []

namespace Entries

def append (a b : Entries) : Entries :=
  ⟨a.types ++ b.types, a.functions ++ b.functions, a.memories ++ b.memories, a.globals ++ b.globals⟩

instance : Append Entries := ⟨append⟩

variable (a b c : Entries)

@[simp] theorem types_append : (a ++ b).types = a.types ++ b.types := rfl
@[simp] theorem functions_append : (a ++ b).functions = a.functions ++ b.functions := rfl
@[simp] theorem memories_append : (a ++ b).memories = a.memories ++ b.memories := rfl
@[simp] theorem globals_append : (a ++ b).globals = a.globals ++ b.globals := rfl

theorem nil_append : ({} : Entries) ++ a = a := rfl

theorem append_nil : a ++ ({} : Entries) = a := by
  show append a {} = a
  simp [append]

theorem append_assoc : a ++ b ++ c = a ++ (b ++ c) := by
  show append (append a b) c = append a (append b c)
  simp [append]

end Entries

namespace Import

/-- The type index of an imported function. -/
def functionType? (i : Import) : Option Nat :=
  match i.desc with
  | .func type => some type
  | _ => none

def memoryType? (i : Import) : Option MemoryType :=
  match i.desc with
  | .memory t => some t
  | _ => none

def globalType? (i : Import) : Option GlobalType :=
  match i.desc with
  | .global t => some t
  | _ => none

end Import

namespace Content

/-- The entries that the contents of a section hold. -/
def entries : Content → Entries
  | .types groups => { types := groups.flatMap (·.types) }
  | .imports items => {
      functions := items.filterMap (·.functionType?)
      memories := items.filterMap (·.memoryType?)
      globals := items.filterMap (·.globalType?) }
  | .functions indices => { functions := indices }
  | .memories items => { memories := items }
  | .globals items => { globals := items.map (·.type) }
  | _ => {}

/-- How many bodies are due behind the contents of a section. -/
def dueAfter (content : Content) (due : Option Nat) : Option Nat :=
  match content with
  | .functions indices => some indices.length
  | .code _ => none
  | _ => due

/-- The functions that the contents of a section export or start. -/
def functionsUsed : Content → List Nat
  | .exports items => items.filterMap fun e => if e.kind = .func then some e.index else none
  | .start func => [func]
  | _ => []

end Content

/-! ## Growing -/

namespace Context

/-- The index spaces that a host can see. -/
def entries (c : Context) : Entries :=
  ⟨c.types.toList, c.functions.toList, c.memories.toList, c.globals.toList⟩

/-- The index spaces grew by some entries; the features, the place and the bodies that are due stayed. -/
structure Grows (c : Context) (added : Entries) (c' : Context) : Prop where
  features : c'.features = c.features
  place : c'.place = c.place
  due : c'.bodiesDue = c.bodiesDue
  entries : c'.entries = c.entries ++ added
  typed : ∀ type ∈ added.functions, type < c'.types.size

namespace Grows

variable {c c' c'' : Context} {a b : Entries}

theorem refl (c : Context) : c.Grows {} c :=
  ⟨rfl, rfl, rfl, (Entries.append_nil _).symm, by simp⟩

theorem types_le (h : c.Grows a c') : c.types.size ≤ c'.types.size := by
  have := congrArg (·.types.length) h.entries
  simp only [Context.entries, Entries.types_append, List.length_append, Array.length_toList] at this
  omega

theorem functions_le (h : c.Grows a c') : c.functions.size ≤ c'.functions.size := by
  have := congrArg (·.functions.length) h.entries
  simp only [Context.entries, Entries.functions_append, List.length_append, Array.length_toList] at this
  omega

theorem trans (h : c.Grows a c') (h' : c'.Grows b c'') : c.Grows (a ++ b) c'' where
  features := h'.features.trans h.features
  place := h'.place.trans h.place
  due := h'.due.trans h.due
  entries := by rw [h'.entries, h.entries, Entries.append_assoc]
  typed := by
    intro type mem
    rcases List.mem_append.1 mem with mem | mem
    · exact Nat.lt_of_lt_of_le (h.typed type mem) h'.types_le
    · exact h'.typed type mem

/-- Steps that each append the entries of one item append the entries of all of them in order. -/
theorem foldlM {α : Type} {f : Context → α → Except Fault Context} (total : List α → Entries)
    (nil : total [] = {}) (cons : ∀ x xs, total (x :: xs) = total [x] ++ total xs)
    (each : ∀ c x c', f c x = .ok c' → c.Grows (total [x]) c') :
    ∀ {xs : List α} {c c' : Context}, xs.foldlM f c = .ok c' → c.Grows (total xs) c'
  | [], c, c', run => by
    obtain rfl := run_nil_iff.1 run
    rw [nil]
    exact refl c
  | x :: xs, c, c', run => by
    obtain ⟨between, first, rest⟩ := run_cons_iff.1 run
    rw [cons]
    exact (each c x between first).trans (foldlM total nil cons each rest)

theorem foldlM_nothing {α : Type} {f : Context → α → Except Fault Context}
    (each : ∀ c x c', f c x = .ok c' → c.Grows {} c') {xs : List α} (run : xs.foldlM f c = .ok c') :
    c.Grows {} c' :=
  foldlM (fun _ => {}) rfl (fun _ _ => rfl) each run

/-- The place plays no part in growing, and neither do the bodies that are due. -/
theorem at_place (h : c.Grows a c') (place : Nat) (bodiesDue : Option Nat) :
    ({ c with place, bodiesDue } : Context).Grows a { c' with place, bodiesDue } :=
  ⟨h.features, rfl, rfl, h.entries, h.typed⟩

/-- What grows behind a context that has the bodies due in the end. -/
theorem with_due (h : c.Grows a c') :
    ({ c with bodiesDue := c'.bodiesDue } : Context).Grows a c' ∧ c'.bodiesDue = c.bodiesDue :=
  ⟨{ h with due := rfl }, h.due⟩

end Grows

/-! ## Imports and definitions -/

variable {c c' : Context}

theorem refer_grows (c : Context) (funcs : List Nat) : c.Grows {} (c.refer funcs) :=
  ⟨rfl, rfl, rfl, (Entries.append_nil _).symm, by simp⟩

/-- What does not show in the index spaces of functions, memories, globals and types enters nothing. -/
theorem grows_of_same (features : c'.features = c.features) (place : c'.place = c.place)
    (due : c'.bodiesDue = c.bodiesDue) (types : c'.types = c.types) (functions : c'.functions = c.functions)
    (memories : c'.memories = c.memories) (globals : c'.globals = c.globals) : c.Grows {} c' :=
  ⟨features, place, due, by rw [Entries.append_nil]; simp only [entries, types, functions, memories, globals],
    by simp⟩

/-- What is found by an index is there. -/
theorem getElem?_of_lookUp {α : Type} {space : Array α} {what : String} {index : Nat} {x : α}
    (h : lookUp space what index = .ok x) : space[index]? = some x := by
  unfold lookUp at h
  split at h
  · rename_i known
    cases h
    exact known
  · cases h

theorem lookUp_ok {α : Type} {space : Array α} {what : String} {index : Nat} {x : α}
    (h : lookUp space what index = .ok x) : index < space.size :=
  (Array.getElem?_eq_some_iff.1 (getElem?_of_lookUp h)).1

theorem funcTypeAt_ok {type : Nat} {t : FuncType} (h : c.funcTypeAt type = .ok t) :
    type < c.types.size := by
  unfold funcTypeAt at h
  rw [bind_eq_ok_iff] at h
  obtain ⟨sub, found, _⟩ := h
  exact lookUp_ok found

theorem typeOfFunction_ok {func : Nat} {t : FuncType} (h : c.typeOfFunction func = .ok t) :
    func < c.functions.size := by
  unfold typeOfFunction at h
  rw [bind_eq_ok_iff] at h
  obtain ⟨type, found, _⟩ := h
  exact lookUp_ok found

theorem addGroup_grows {group : RecGroup} (h : c.addGroup group = .ok c') :
    c.Grows { types := group.types } c' := by
  have entered : c' = c.enterGroup group := by
    unfold addGroup at h
    split at h <;> simp only [bind_eq_ok_iff, pure_eq_ok_iff] at h
    · obtain ⟨_, _, _, _, rfl⟩ := h
      rfl
    · obtain ⟨_, _, rfl⟩ := h
      rfl
  subst entered
  exact ⟨rfl, rfl, rfl, by ext1 <;> simp [enterGroup, entries], by simp⟩

theorem addFunction_grows {type : Nat} (h : c.addFunction type = .ok c') :
    c.Grows { functions := [type] } c' := by
  simp only [addFunction, bind_eq_ok_iff, pure_eq_ok_iff] at h
  obtain ⟨t, typed, _, _, rfl⟩ := h
  refine ⟨rfl, rfl, rfl, ?_, ?_⟩
  · ext1 <;> simp [entries]
  · simp only [List.mem_singleton, forall_eq]
    exact funcTypeAt_ok typed

theorem addMemory_grows {t : MemoryType} (h : c.addMemory t = .ok c') :
    c.Grows { memories := [t] } c' := by
  simp only [addMemory, bind_eq_ok_iff, pure_eq_ok_iff] at h
  obtain ⟨_, _, _, _, rfl⟩ := h
  exact ⟨rfl, rfl, rfl, by ext1 <;> simp [entries], by simp⟩

theorem addGlobal_grows {t : GlobalType} (h : c.addGlobal t = .ok c') :
    c.Grows { globals := [t] } c' := by
  simp only [addGlobal, bind_eq_ok_iff, pure_eq_ok_iff] at h
  obtain ⟨_, _, _, _, rfl⟩ := h
  exact ⟨rfl, rfl, rfl, by ext1 <;> simp [entries], by simp⟩

theorem addTable_grows {t : TableType} (h : c.addTable t = .ok c') : c.Grows {} c' := by
  simp only [addTable, bind_eq_ok_iff, pure_eq_ok_iff] at h
  obtain ⟨_, _, _, _, rfl⟩ := h
  exact grows_of_same rfl rfl rfl rfl rfl rfl rfl

theorem addTag_grows {type : Nat} (h : c.addTag type = .ok c') : c.Grows {} c' := by
  simp only [addTag, bind_eq_ok_iff, pure_eq_ok_iff] at h
  obtain ⟨_, _, _, _, rfl⟩ := h
  exact grows_of_same rfl rfl rfl rfl rfl rfl rfl

theorem addImport_grows {i : Import} (h : c.addImport i = .ok c') :
    c.Grows (Content.imports [i]).entries c' := by
  obtain ⟨module, name, desc⟩ := i
  cases desc with
  | func type => exact addFunction_grows h
  | table t => exact addTable_grows h
  | memory t => exact addMemory_grows h
  | global t =>
    simp only [addImport, bind_eq_ok_iff, pure_eq_ok_iff] at h
    obtain ⟨added, grown, rfl⟩ := h
    have grown := addGlobal_grows grown
    exact { grown with }
  | tag type => exact addTag_grows h

theorem checkConstExpr_grows {type : ValType} {e : ConstExpr} (h : c.checkConstExpr type e = .ok c') :
    c.Grows {} c' := by
  simp only [checkConstExpr, bind_eq_ok_iff, pure_eq_ok_iff] at h
  obtain ⟨_, _, _, _, rfl⟩ := h
  exact refer_grows c _

theorem defineTable_grows {t : Table} (h : c.defineTable t = .ok c') : c.Grows {} c' := by
  simp only [defineTable, bind_eq_ok_iff] at h
  obtain ⟨added, grown, h⟩ := h
  have grown := addTable_grows grown
  split at h
  · split at h
    · cases h
    · exact pure_eq_ok_iff.1 h ▸ grown
  · simp only [bind_eq_ok_iff, pure_eq_ok_iff] at h
    obtain ⟨_, _, declared, _, rfl⟩ := h
    exact { grown with }

theorem defineGlobal_grows {g : Global} (h : c.defineGlobal g = .ok c') :
    c.Grows { globals := [g.type] } c' := by
  simp only [defineGlobal, bind_eq_ok_iff] at h
  obtain ⟨declared, checked, grown⟩ := h
  exact (checkConstExpr_grows checked).trans (addGlobal_grows grown)

/-! ## Exports and segments -/

theorem addExport_grows {e : Export} (h : c.addExport e = .ok c') :
    c.Grows {} c' ∧ (e.kind = .func → e.index < c'.functions.size) := by
  cases kind : e.kind <;> simp only [addExport, kind, bind_eq_ok_iff, pure_eq_ok_iff] at h
  case func =>
    obtain ⟨t, known, rfl⟩ := h
    exact ⟨refer_grows c _, fun _ => typeOfFunction_ok known⟩
  all_goals
    obtain ⟨_, _, rfl⟩ := h
    exact ⟨Grows.refl c, by simp⟩

theorem checkElementMode_grows {element : RefType} {mode : SegmentMode}
    (h : c.checkElementMode element mode = .ok c') : c.Grows {} c' := by
  unfold checkElementMode at h
  split at h <;> simp only [bind_eq_ok_iff] at h
  · obtain ⟨t, _, h⟩ := h
    split at h
    · cases h
    · exact checkConstExpr_grows h
  · obtain ⟨_, _, h⟩ := h
    exact pure_eq_ok_iff.1 h ▸ Grows.refl c

theorem addElement_grows {e : Element} (h : c.addElement e = .ok c') : c.Grows {} c' := by
  unfold addElement at h
  split at h <;> simp only [bind_eq_ok_iff, pure_eq_ok_iff] at h
  · obtain ⟨placed, mode, _, _, _, _, rfl⟩ := h
    have grown := checkElementMode_grows mode
    exact { grown with }
  · obtain ⟨_, _, placed, mode, _, _, filled, items, rfl⟩ := h
    have grown := (checkElementMode_grows mode).trans
      (Grows.foldlM_nothing (fun _ _ _ => checkConstExpr_grows) items)
    exact { grown with }

theorem checkData_grows {d : DataSegment} (h : c.checkData d = .ok c') : c.Grows {} c' := by
  unfold checkData at h
  split at h <;> simp only [bind_eq_ok_iff] at h
  · obtain ⟨_, _, h⟩ := h
    exact checkConstExpr_grows h
  · obtain ⟨_, _, h⟩ := h
    exact pure_eq_ok_iff.1 h ▸ Grows.refl c

/-! ## Sections -/

theorem advance_ok_iff {content : Content} :
    c.advance content = .ok c' ↔
      (∀ place, content.place? = some place → c.place < place) ∧
        c' = { c with place := content.place?.getD c.place } := by
  unfold advance
  cases content.place? with
  | none =>
    simp only [Except.ok.injEq, reduceCtorEq, false_imp_iff, implies_true, true_and, Option.getD_none]
    exact eq_comm
  | some place =>
    simp only [ite_eq_ok_iff, Except.ok.injEq, reduceCtorEq, and_false, or_false, Option.some.injEq,
      forall_eq', Option.getD_some, eq_comm (a := c')]

/-- The functions of all exports exist once the last of them is added. -/
theorem addExports_used : ∀ {items : List Export} {c c' : Context}, items.foldlM addExport c = .ok c' →
    ∀ func ∈ (Content.exports items).functionsUsed, func < c'.functions.size
  | [], _, _, _ => by simp [Content.functionsUsed]
  | e :: items, c, c', run => by
    obtain ⟨between, first, rest⟩ := run_cons_iff.1 run
    have later := addExports_used rest
    have kept := (Grows.foldlM_nothing (fun _ _ _ added => (addExport_grows added).1) rest).functions_le
    intro func mem
    simp only [Content.functionsUsed, List.filterMap_cons] at mem later
    split at mem
    · exact later func mem
    · rename_i used
      rcases List.mem_cons.1 mem with rfl | mem
      · split at used
        · rename_i kind
          have := (addExport_grows first).2 kind
          simp only [Option.some.injEq] at used
          omega
        · cases used
      · exact later func mem

/-- **Adding contents** enters exactly their entries, behind those that are there. The contents come at
their place in the order of sections, and the functions they export or start exist. -/
theorem add_ok {content : Content} (h : c.add content = .ok c') :
    ∃ advanced, c.advance content = .ok advanced ∧
      ({ advanced with bodiesDue := c'.bodiesDue } : Context).Grows content.entries c' ∧
        c'.bodiesDue = content.dueAfter advanced.bodiesDue ∧
          ∀ func ∈ content.functionsUsed, func < c'.functions.size := by
  unfold add at h
  rw [bind_eq_ok_iff] at h
  obtain ⟨advanced, place, h⟩ := h
  refine ⟨advanced, place, ?_⟩
  rw [← and_assoc]
  cases content <;> simp only [bind_eq_ok_iff, pure_eq_ok_iff] at h <;>
    simp only [Content.functionsUsed, List.not_mem_nil, false_imp_iff, implies_true, and_true]
  case custom => exact h ▸ (Grows.refl advanced).with_due
  case types groups =>
    obtain ⟨_, _, run⟩ := h
    exact (Grows.foldlM (fun groups => (Content.types groups).entries) rfl
      (fun _ _ => by ext1 <;> simp [Content.entries])
      (fun _ _ _ added => by simpa [Content.entries] using addGroup_grows added) run).with_due
  case imports items =>
    obtain ⟨_, _, run⟩ := h
    exact (Grows.foldlM (fun items => (Content.imports items).entries) rfl
      (fun i _ => by ext1 <;> simp [Content.entries, List.filterMap_cons] <;> split <;> rfl)
      (fun _ _ _ => addImport_grows) run).with_due
  case functions indices =>
    obtain ⟨filled, run, rfl⟩ := h
    have grown := Grows.foldlM (fun indices => (Content.functions indices).entries) rfl
      (fun _ _ => rfl) (fun _ _ _ => addFunction_grows) run
    exact ⟨{ grown with due := rfl }, rfl⟩
  case tables items =>
    exact (Grows.foldlM_nothing (fun _ _ _ => defineTable_grows) h).with_due
  case memories items =>
    exact (Grows.foldlM (fun items => (Content.memories items).entries) rfl
      (fun _ _ => rfl) (fun _ _ _ => addMemory_grows) h).with_due
  case tags indices =>
    obtain ⟨_, _, run⟩ := h
    exact (Grows.foldlM_nothing (fun _ _ _ => addTag_grows) run).with_due
  case globals items =>
    exact (Grows.foldlM (fun items => (Content.globals items).entries) rfl
      (fun _ _ => rfl) (fun _ _ _ => defineGlobal_grows) h).with_due
  case exports items =>
    exact ⟨(Grows.foldlM_nothing (fun _ _ _ added => (addExport_grows added).1) h).with_due,
      addExports_used h⟩
  case start func =>
    obtain ⟨_, checked, rfl⟩ := h
    unfold checkStart at checked
    rw [bind_eq_ok_iff] at checked
    obtain ⟨t, known, _⟩ := checked
    simp only [List.mem_singleton, forall_eq]
    exact ⟨(Grows.refl _).with_due, typeOfFunction_ok known⟩
  case elements items =>
    obtain ⟨_, _, run⟩ := h
    exact (Grows.foldlM_nothing (fun _ _ _ => addElement_grows) run).with_due
  case dataCount count =>
    obtain ⟨_, _, rfl⟩ := h
    have grown : advanced.Grows {} { advanced with dataCount := some count } :=
      grows_of_same rfl rfl rfl rfl rfl rfl rfl
    exact grown.with_due
  case code bodies =>
    obtain ⟨_, _, rfl⟩ := h
    exact ⟨grows_of_same rfl rfl rfl rfl rfl rfl rfl, rfl⟩
  case data segments =>
    obtain ⟨_, _, filled, run, rfl⟩ := h
    have grown := Grows.foldlM_nothing (fun _ _ _ => checkData_grows) run
    exact Grows.with_due { grown with }

end Context

end WasmLens.Wasm
