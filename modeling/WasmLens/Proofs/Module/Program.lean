import WasmLens.Proofs.Machine.Assembly
import WasmLens.Proofs.Module.Locations
import WasmLens.Proofs.Wasm.Tables

/-!
# The program of a valid module

Validation has checked every body against the type of its function, when all that code can name was declared already
(`Validator.run_code`). The program of a module is assembled from these bodies, and its functions stand where
their types do. So **every module that can be read has a program** under a configuration
(`exists_ofBytes_iff`), and the program of a module that compiles is typed (`Compiles.typed`).
-/
namespace WasmLens

open Wasm

namespace Wasm

/-- What the contents of a module declare as the type of a function. -/
def Content.DeclaresFunction (contents : List Content) (func : Nat) (t : FuncType) : Prop :=
  ∃ type sub, ((contents.flatMap importItems).filterMap (·.functionType?) ++ contents.flatMap definedFunctions)[func]? =
      some type ∧
    (contents.flatMap definedTypes)[type]? = some sub ∧ sub.funcType? = some t

theorem Content.DeclaresFunction.unique {contents : List Content} {func : Nat} {t t' : FuncType}
    (h : DeclaresFunction contents func t) (h' : DeclaresFunction contents func t') : t = t' := by
  obtain ⟨type, sub, there, here, function⟩ := h
  obtain ⟨type', sub', there', here', function'⟩ := h'
  obtain rfl := Option.some.inj (there.symm.trans there')
  obtain rfl := Option.some.inj (here.symm.trans here')
  exact Option.some.inj (function.symm.trans function')

/-! ## Bodies that were checked -/

/-- A context with all that the contents of a module declare. -/
structure Context.Declares (contents : List Content) (c : Context) : Prop where
  entries : c.entries = Content.entriesOf contents
  tables : c.tables.toList = contents.flatMap Content.tableTypes

/-- Contents behind the code declare nothing. -/
theorem Content.quiet_of_late {content : Content} (late : ∀ place, content.place? = some place → 12 < place) :
    content.entries = {} ∧ content.tableTypes = [] ∧ content.bodyItems = [] := by
  cases content
  case custom | data => exact ⟨rfl, rfl, rfl⟩
  all_goals exact absurd (late _ rfl) (by decide)

/-- Contents before the code have none. -/
theorem Content.bodyItems_of_early {content : Content} (early : ∀ place, content.place? = some place → place < 12) :
    content.bodyItems = [] := by
  cases content
  case code => exact absurd (early 12 rfl) (Nat.lt_irrefl 12)
  all_goals rfl

theorem Content.entriesOf_eq_nothing : ∀ {contents : List Content}, (∀ content ∈ contents, content.entries = {}) →
    entriesOf contents = {}
  | [], _ => rfl
  | content :: contents, each => by
    obtain ⟨first, others⟩ := List.forall_mem_cons.1 each
    rw [entriesOf, first, entriesOf_eq_nothing others]
    rfl

/-- **The code of a module** is checked where all is declared that it can name, each body against the type of its
function. -/
theorem Validator.run_code {f : Features} {contents : List Content} {v : Validator}
    (run : contents.foldlM step (start f) = .ok v) :
    ∃ c : Context, c.features = f ∧ c.Declares contents ∧
      ∀ (k : Nat) body, (contents.flatMap Content.bodyItems)[k]? = some body →
        ∃ type, c.typeOfFunction (c.functions.size - (contents.flatMap Content.bodyItems).length + k) = .ok type ∧
          c.checkBody type body = .ok () := by
  have ordered := (run_ordered run).1
  by_cases some : ∃ bodies, .code bodies ∈ contents
  · obtain ⟨bodies, mem⟩ := some
    obtain ⟨front, back, before, after, rfl, first, here, _⟩ := run_mem run mem
    obtain ⟨_, behind, apart⟩ := List.pairwise_append.1 ordered
    have early (content) (mem : content ∈ front) : content.bodyItems = [] :=
      Content.bodyItems_of_early fun place at_ => apart content mem _ List.mem_cons_self place 12 at_ rfl
    have late (content) (mem : content ∈ back) :=
      Content.quiet_of_late fun place at_ => (List.pairwise_cons.1 behind).1 content mem 12 place rfl at_
    have all : (front ++ .code bodies :: back).flatMap Content.bodyItems = bodies := by
      rw [List.flatMap_append, List.flatMap_cons, List.flatMap_eq_nil_iff.2 early,
        List.flatMap_eq_nil_iff.2 fun content mem => (late content mem).2.2, List.append_nil]
      rfl
    obtain ⟨_, _, added, _⟩ := step_ok_iff.1 here
    unfold Context.add at added
    obtain ⟨advanced, advance, added⟩ := bind_eq_ok_iff.1 added
    obtain ⟨_, rfl⟩ := Context.advance_ok_iff.1 advance
    obtain ⟨_, checked, _⟩ := bind_eq_ok_iff.1 added
    rw [all]
    refine ⟨_, ?_, ⟨?_, ?_⟩, fun k body found => Context.checkCode_getElem? checked found⟩
    · exact (run_grows first).features
    · rw [Content.entriesOf_append, Content.entriesOf,
        Content.entriesOf_eq_nothing fun content mem => (late content mem).1]
      exact (entries_of_run first).1.trans (Entries.append_nil _).symm
    · have tables := run_tables first
      rw [List.flatMap_append, List.flatMap_cons, List.flatMap_eq_nil_iff.2 fun content mem => (late content mem).2.1]
      simpa [Context.AddsTables, start, Content.tableTypes] using tables
  · have none : contents.flatMap Content.bodyItems = [] := by
      refine List.flatMap_eq_nil_iff.2 fun content mem => ?_
      cases content with
      | code bodies => exact absurd ⟨bodies, mem⟩ some
      | _ => rfl
    refine ⟨v.context, (run_grows run).features, ⟨(entries_of_run run).1, ?_⟩, ?_⟩
    · simpa [Context.AddsTables, start] using run_tables run
    · intro k body found
      rw [none, List.getElem?_nil] at found
      cases found

end Wasm

/-! ## Programs -/

namespace Machine

/-- An image of the types and functions of a context, whose bodies were checked against the types of their
functions. -/
structure Image.Checked (i : Image) (c : Context) : Prop where
  types : i.types.toList = c.types.toList.map SubType.funcType?
  functions : i.functionTypes = c.functions
  declared : ∀ type ∈ c.functions.toList, ∃ t, c.types[type]?.bind SubType.funcType? = some t
  bodies : ∀ (k : Nat) body, i.bodies[k]? = some body →
    ∃ type, c.typeOfFunction (i.importedFunctions + k) = .ok type ∧ c.checkBody type body = .ok ()

namespace Image.Checked

variable {i : Image} {c : Context} (h : i.Checked c)

include h

theorem typeAt?_eq (type : Nat) : i.typeAt? type = c.types[type]?.bind SubType.funcType? := by
  rw [Image.typeAt?, ← Array.getElem?_toList, h.types, List.getElem?_map, Array.getElem?_toList]
  cases c.types[type]? <;> rfl

theorem typeAt?_of_ok {type : Nat} {t : FuncType} (found : c.funcTypeAt type = .ok t) : i.typeAt? type = some t := by
  obtain ⟨sub, here, function⟩ := Context.funcTypeAt_eq found
  rw [h.typeAt?_eq, here, Option.bind_some, function]

theorem arityOf?_of_ok (t : BlockType) (type : FuncType) (found : c.blockTypeAt t = .ok type) :
    i.arityOf? t = some (.ofType type) := by
  cases t with
  | empty | value =>
    cases found
    rfl
  | func index => rw [Image.arityOf?, h.typeAt?_of_ok found, Option.map_some]

/-- The functions of the image have types. -/
theorem exists_typeAt? {type : Nat} (mem : type ∈ i.functionTypes.toList) : ∃ t, i.typeAt? type = some t := by
  rw [h.functions] at mem
  obtain ⟨t, found⟩ := h.declared type mem
  exact ⟨t, (h.typeAt?_eq type).trans found⟩

variable (disabled : ∀ op : Proposed, op.isEnabled c.features = false)

include disabled

/-- **A checked image has a program.** -/
theorem exists_program : ∃ p, i.program? = some p := by
  unfold program?
  refine exists_bind (exists_mapM fun type mem => ?_) fun imported =>
    exists_bind (exists_mapM fun given mem => ?_) fun defined => ⟨_, rfl⟩
  · exact exists_bind (h.exists_typeAt? (List.mem_of_mem_take mem)) fun t => ⟨_, rfl⟩
  · obtain ⟨type, body⟩ := given
    obtain ⟨there, among⟩ := List.of_mem_zip mem
    obtain ⟨k, among⟩ := List.getElem?_of_mem among
    obtain ⟨_, _, checked⟩ := h.bodies k body among
    obtain ⟨code, assembled, _⟩ := checkBody_typed checked disabled h.arityOf?_of_ok
    exact exists_bind (h.exists_typeAt? (List.mem_of_mem_drop there)) fun t =>
      exists_bind ⟨code, assembled⟩ fun code => ⟨_, rfl⟩

/-- **The program of a checked image is typed.** -/
theorem typed {p : Program} (made : i.program? = some p) : p.Typed c := by
  obtain ⟨same, _, made⟩ := program?_makes made
  have declared {func : Nat} {type : Nat} {t t' : FuncType} (there : i.functionTypes[func]? = some type)
      (typed : i.typeAt? type = some t) (found : c.typeOfFunction func = .ok t') : t = t' := by
    obtain ⟨type', here, found⟩ := bind_eq_ok_iff.1 found
    rw [h.functions, Context.getElem?_of_lookUp here] at there
    cases there
    exact Option.some.inj (typed.symm.trans (h.typeAt?_of_ok found))
  refine ⟨fun func g body found code => ?_, fun func g t' found calls => ?_, fun type t expected found there => ?_⟩
  · obtain ⟨type, t, there, typed, makes⟩ := made func g found
    cases makes with
    | imported => cases code
    | @defined k b assembly behind among assembled =>
      cases code
      obtain ⟨t', calls, checks⟩ := h.bodies k b among
      rw [← behind] at calls
      obtain rfl := declared there typed calls
      obtain ⟨code, assembledToo, typed⟩ := checkBody_typed checks disabled h.arityOf?_of_ok
      obtain rfl := Option.some.inj (assembledToo.symm.trans assembled)
      exact typed
  · obtain ⟨type, t, there, typed, makes⟩ := made func g found
    rw [← declared there typed calls]
    cases makes <;> rfl
  · have joined := h.typeAt?_of_ok found
    rw [same] at there
    rw [Image.typeAt?, there, Option.join_some] at joined
    exact joined

end Image.Checked

end Machine

/-- No configuration has operators of further proposals. -/
theorem Config.features_disabled (c : Config) (op : Proposed) : op.isEnabled c.features = false := by
  cases op <;> rfl

/-- **The image of a module that can be read** is checked. -/
theorem Reading.image_checked {f : Features} {bytes : List UInt8} {r : Reading} (read : ofBytes f bytes = .ok r) :
    ∃ context : Context, context.features = f ∧ context.Declares r.contents ∧
      (Machine.Image.ofContents r.contents).Checked context := by
  obtain ⟨valid, _⟩ := ofBytes_ok_iff.1 read
  have ordered := (Validator.run_ordered valid.validated).1
  obtain ⟨context, features, declares, checked⟩ := Validator.run_code valid.validated
  have entries := declares.entries
  have functions : context.functions.toList = (Content.entriesOf r.contents).functions :=
    congrArg Entries.functions entries
  refine ⟨context, features, declares, ?_, ?_, ?_, ?_⟩
  · rw [Machine.Image.types_ofContents ordered, ← entries]
    rfl
  · rw [← Array.toList_inj, Machine.Image.functionTypes_ofContents ordered, functions]
  · intro type mem
    rw [functions] at mem
    have types : context.types.toList = r.validator.context.types.toList :=
      congrArg Entries.types (entries.trans (Validator.entries_of_run valid.validated).1.symm)
    rw [Array.toList_inj.1 types]
    exact Validator.run_functions valid.validated type mem
  · -- the bodies are those of the last functions
    intro k body found
    rw [Machine.Image.bodies_ofContents ordered] at found
    have size : context.functions.size - (r.contents.flatMap Content.bodyItems).length =
        (Machine.Image.ofContents r.contents).importedFunctions := by
      rw [← Array.length_toList, functions, Content.functions_entriesOf ordered, List.length_append,
        Validator.run_bodies_length valid.validated valid.finished, Machine.Image.importedFunctions_ofContents ordered]
      omega
    rw [← size]
    exact checked k body found

namespace CompiledModule

variable {c : Config} {bytes : List UInt8} {r : Reading} {m : CompiledModule}

/-- **The program of a module that compiles** is typed, in a context that has what the module declares. -/
theorem Compiles.typed (h : Compiles c bytes r m) :
    ∃ context : Context, context.Declares r.contents ∧ m.program.Typed context := by
  obtain ⟨context, features, declares, checked⟩ := Reading.image_checked h.read
  rw [← h.image] at checked
  exact ⟨context, declares, checked.typed (features ▸ c.features_disabled) h.program⟩

/-- **A module compiles exactly if it can be read, and its first memory exposed**: its code always assembles. -/
theorem exists_ofBytes_iff : (∃ m, ofBytes c bytes = .ok m) ↔
    ∃ r exposed name contents, Reading.ofBytes c.features bytes = .ok r ∧
      exposeMemory r.outline bytes = .ok (exposed, name) ∧ loaded c r exposed = .ok contents := by
  simp only [ofBytes, bind_eq_ok_iff]
  constructor
  · rintro ⟨m, r, read, ⟨exposed, name⟩, exposes, contents, loads, _⟩
    exact ⟨r, exposed, name, contents, read, exposes, loads⟩
  · rintro ⟨r, exposed, name, contents, read, exposes, loads⟩
    obtain ⟨context, features, _, checked⟩ := Reading.image_checked read
    obtain ⟨program, assembled⟩ := checked.exists_program (features ▸ c.features_disabled)
    rw [← (loaded_cases read exposes loads).1] at assembled
    apply Exists.intro
    refine ⟨r, read, (exposed, name), exposes, contents, loads, ?_⟩
    rw [assembled]
    exact rfl

/-- A function of the absolute values of four lanes compiles where vectors are on, and only there. -/
example : ∀ simd : Bool, (ofBytes { simd } (Sections.join [⟨Section.typeId, [1, 0x60, 1, 0x7b, 1, 0x7b]⟩,
    ⟨Section.functionId, [1, 0]⟩,
    ⟨Section.codeId, [1, 7, 0, 0x20, 0, 0xfd, 0xa0, 1, 0x0b]⟩])).toOption.isSome = simd := by
  decide +kernel

/-- **The functions of a module that compiles** are of the types that it declares, and what it defines has code. -/
theorem Compiles.function (h : Compiles c bytes r m) {func : Nat} (inside : func < m.outline.functions.length) :
    ∃ g, m.program.functions[func]? = some g ∧ Content.DeclaresFunction r.contents func g.type ∧
      (m.outline.importedFunctions ≤ func → g.code.isSome) := by
  have coherent := h.coherent
  have functions := coherent.outline.functions
  obtain ⟨_, size, made⟩ := Machine.Image.program?_makes h.program
  have all : m.program.functions.size = m.outline.functions.length := by
    have types := congrArg List.length coherent.functionTypes
    rw [Content.functions_entriesOf coherent.ordered, ← functions, Array.length_toList] at types
    rw [size, types, coherent.importedFunctions, coherent.bodyItems, coherent.bodies,
      coherent.outline.importedFunctions, functions, List.length_append, Nat.min_self]
  obtain ⟨g, found⟩ : ∃ g, m.program.functions[func]? = some g := ⟨_, Array.getElem?_eq_getElem (all ▸ inside)⟩
  obtain ⟨type, t, there, typed, makes⟩ := made func g found
  obtain ⟨sub, declared, function⟩ : ∃ sub, (r.contents.flatMap Content.definedTypes)[type]? = some sub ∧
      sub.funcType? = some t := by
    rw [Machine.Image.typeAt?, ← Array.getElem?_toList, coherent.types, List.getElem?_map, Content.types_entriesOf,
      Option.join_eq_some_iff] at typed
    exact Option.map_eq_some_iff.1 typed
  refine ⟨g, found, ⟨type, sub, ?_, declared, ?_⟩, fun own => ?_⟩
  · rw [← Content.functions_entriesOf coherent.ordered, ← coherent.functionTypes, Array.getElem?_toList]
    exact there
  · cases makes <;> exact function
  · cases makes with
    | imported foreign =>
      rw [coherent.importedFunctions] at foreign
      omega
    | defined => rfl

end CompiledModule

end WasmLens
