import WasmLens.Cli.Run
import WasmLens.Proofs.Session.Addressing

/-!
# Assigning globals on the command line

The command that calls a function sets globals first, each from a text. It reads the text at the type of the
**first** global of the name and sets the **last** one (`Assigns`). What is set is what was read if the two have
the same type, and the same bits at another type otherwise (`assign_assigns`).
-/
namespace WasmLens.Cli

open Session

/-! ## What is read -/

/-- What is read at a type is of this type. -/
theorem type_of_read {t : ValueType} {raw : String} {v : Value} (h : Value.read t raw = .ok v) : v.type = t := by
  unfold Value.read at h
  cases t with
  | void => cases h
  | i32 | i64 =>
    simp only [Value.read.word] at h
    split at h <;> cases h
    rfl
  | f32 | f64 =>
    simp only [Value.read.float] at h
    split at h <;> cases h
    rfl

theorem readValue_eq_ok_iff {outer raw : String} {t : ValueType} {v : Value} :
    readValue outer t raw = .ok v ↔ Value.read t raw = .ok v := by
  unfold readValue
  split <;> rename_i read <;> simp [read]

theorem orFail_eq_ok {α : Type} {outer : List String} {x : Except Error α} {a : α} (h : orFail outer x = .ok a) :
    x = .ok a := by
  cases x <;> cases h
  rfl

/-! ## Sessions of the command -/

section

variable {host : Host} {r : Request} {path name raw : String} {s s' : Session}

/-- The command reads a configuration and a module, compiles the module, and declares all of its imports. -/
theorem declare_reads (h : declare host r path = .ok s) : ∃ c bytes compiled,
    readConfig host.files r.config = .ok c ∧ readModule host path = .ok bytes ∧ Session.compile c bytes = .ok compiled ∧
      s = compiled.run [.declareMemory, .declareGlobals] := by
  simp only [declare, bind_eq_ok_iff] at h
  obtain ⟨c, config, bytes, module, compiled, compiles, h⟩ := h
  refine ⟨c, bytes, compiled, config, module, orFail_eq_ok compiles, ?_⟩
  split at h
  · cases h
  · cases h
  · simp only [bind_eq_ok_iff, pure_eq_ok_iff] at h
    obtain ⟨_, _, rfl⟩ := h
    rfl

/-- The command declares all imports of a module that it compiles. -/
theorem declare_runs (h : declare host r path = .ok s) : ∃ c bytes compiled,
    Session.compile c bytes = .ok compiled ∧ s = compiled.run [.declareMemory, .declareGlobals] := by
  obtain ⟨c, bytes, compiled, _, _, compiles, run⟩ := declare_reads h
  exact ⟨c, bytes, compiled, compiles, run⟩

/-- An assignment that is accepted sets a global to the value that was read. -/
theorem assign_sets (h : assign s name raw = .ok s') : ∃ g v, s.globalImports.find? (·.name = name) = some g ∧
    Value.read g.type raw = .ok v ∧ s.setGlobal name v = (s', .ok ()) := by
  unfold assign at h
  split at h
  · cases h
  · rename_i g first
    simp only [bind_eq_ok_iff, pure_eq_ok_iff, readValue_eq_ok_iff] at h
    obtain ⟨v, read, set, sets, rfl⟩ := h
    exact ⟨g, v, first, read, Prod.ext rfl (orFail_eq_ok sets)⟩

/-- What the command has done before it makes an assignment is a run. -/
theorem assigns_run : ∀ {earlier : List (String × String)} {first s : Session},
    earlier.foldlM (fun s (name, raw) => assign s name raw) first = .ok s → ∃ ops, s = first.run ops
  | [], first, s, h => ⟨[], (run_nil_iff.1 h).symm⟩
  | (name, raw) :: earlier, first, s, h => by
    obtain ⟨between, assigned, rest⟩ := run_cons_iff.1 h
    obtain ⟨g, v, _, _, set⟩ := assign_sets assigned
    obtain ⟨ops, rfl⟩ := assigns_run rest
    have performed : (first.perform (.setGlobal name v)).1 = between := congrArg Prod.fst set
    refine ⟨.setGlobal name v :: ops, ?_⟩
    show between.run ops = (first.perform (.setGlobal name v)).1.run ops
    rw [performed]

end

/-! ## What is written -/

/-- **What an assignment does to the globals of a session.** -/
structure Assigns (s : Session) (name raw : String) (s' : Session) : Prop where
  /-- The text is read at the type of the first global of the name, and its bits are written to the last one. -/
  written : ∃ first v place last, s.globalImports.find? (·.name = name) = some first ∧
    Value.read first.type raw = .ok v ∧ Resolves s.globalImports name place last ∧
      s'.getGlobal name = (last.type, Value.ofBits last.type v.toBits) ∧
        (last.type = first.type → s'.getGlobal name = (first.type, v)) ∧
          ∀ other, other ≠ place → s'.valueAt? other = s.valueAt? other
  names : ∀ other, other ≠ name → s'.getGlobal other = s.getGlobal other
  listed : s'.globalImports.map GlobalImport.shown = s.globalImports.map GlobalImport.shown

/-- What the first global of a name is read for is set to the last one. -/
theorem assigns_of_wired {contents : List Wasm.Content} {s s' : Session} {name raw : String}
    (wired : Wired contents s) (phased : WellPhased s) (h : assign s name raw = .ok s') : Assigns s name raw s' := by
  obtain ⟨first, v, found, read, set⟩ := assign_sets h
  obtain ⟨k, there⟩ := List.getElem?_of_mem (List.mem_of_find?_eq_some found)
  have named : first.name = name := by simpa using List.find?_some found
  obtain ⟨place, last, _, resolved⟩ := exists_resolves there
  rw [named] at resolved
  have sets := setGlobal_setsTo wired phased name v
  rw [set] at sets
  have same (type : last.type = first.type) : (last.type, Value.ofBits last.type v.toBits) = (first.type, v) := by
    rw [type, ← type_of_read read, Value.ofBits_toBits]
  cases sets with
  | nothing void =>
    have type := void place last resolved
    have got : s.getGlobal name = (last.type, Value.ofBits last.type v.toBits) := by
      rw [getGlobal_shown resolved, shownAt?_void wired resolved.found type v.toBits, Option.getD_some]
    exact ⟨⟨first, v, place, last, found, read, resolved, got, fun type => got.trans (same type), fun _ _ => rfl⟩,
      fun _ _ => rfl, rfl⟩
  | @replaced place' last' _ resolved' type _ replaces =>
    obtain ⟨rfl, rfl⟩ := resolved.unique resolved'
    obtain rfl := resolved.named
    exact ⟨⟨first, v, place, last, found, read, resolved, replaces.value, fun type => replaces.value.trans (same type),
      replaces.others⟩, replaces.names, replaces.globals⟩

/-- **Assigning globals.** Whatever the command has assigned before: an assignment that it accepts is read at the
type of the first global of the name and written to the last one, at its own type. They are one and the same
value if the two have the same type. No other global changes. -/
theorem assign_assigns {host : Host} {r : Request} {path name raw : String} {earlier : List (String × String)}
    {declared s s' : Session} (declares : declare host r path = .ok declared)
    (before : earlier.foldlM (fun s (name, raw) => assign s name raw) declared = .ok s)
    (h : assign s name raw = .ok s') : Assigns s name raw s' := by
  obtain ⟨c, bytes, compiled, accepted, rfl⟩ := declare_runs declares
  obtain ⟨ops, rfl⟩ := assigns_run before
  obtain ⟨reading, m, compiles, rfl⟩ := compile_ok accepted
  rw [← run_append] at h ⊢
  obtain ⟨phased, wired, _⟩ :=
    run_wired compiles.coherent (ofModule_wellPhased m) (ofModule_wired reading.contents m) _
  exact assigns_of_wired wired phased h

/-- A host that has one module in binary form under every path, and translates what is in that form to itself. -/
def Host.serving (bytes : List UInt8) : Host := ⟨fun _ => .ok bytes, fun _ bytes => .ok bytes⟩

/-- A module that imports an `i32` and an `i64` under one name, and another `i64` under a name of its own. It
exports a function that reads all of them. -/
def clashingModule : List UInt8 :=
  Wasm.Sections.join
    [⟨Wasm.Section.typeId, [1, 0x60, 0, 3, 0x7f, 0x7e, 0x7e]⟩,
      ⟨Wasm.Section.importId, [3, 1, 0x61, 1, 0x67, 3, 0x7f, 0, 1, 0x62, 1, 0x67, 3, 0x7e, 0,
        1, 0x62, 1, 0x68, 3, 0x7e, 0]⟩,
      ⟨Wasm.Section.functionId, [1, 0]⟩,
      ⟨Wasm.Section.exportId, [1, 3, 0x72, 0x75, 0x6e, 0, 0]⟩,
      ⟨Wasm.Section.codeId, [1, 8, 0, 0x23, 0, 0x23, 1, 0x23, 2, 0x0b]⟩]

/-- Calls the function of that module. -/
def callClashing : Request := ⟨none, 0, .invoke "m" "run" [] []⟩

theorem assign_assigns_clashing : ∃ declared s s',
    declare (Host.serving clashingModule) callClashing "m" = .ok declared ∧
    [("g", "-1")].foldlM (fun s (name, raw) => assign s name raw) declared = .ok s ∧
      assign s "h" "-1" = .ok s' ∧ s'.getGlobal "h" = (.i64, .i64 (-1)) ∧ Assigns s "h" "-1" s' := by
  obtain ⟨declared, declares, s, before, s', assigned, got⟩ :
      ∃ declared, declare (Host.serving clashingModule) callClashing "m" = .ok declared ∧
        ∃ s, [("g", "-1")].foldlM (fun s (name, raw) => assign s name raw) declared = .ok s ∧
          ∃ s', assign s "h" "-1" = .ok s' ∧ s'.getGlobal "h" = (.i64, .i64 (-1)) := by decide +kernel
  exact ⟨declared, s, s', declares, before, assigned, got, assign_assigns declares before assigned⟩

/-- **What is written need not be what was read**: the `i64` of that name gets the bits of the `i32`. -/
theorem assign_misread : ∃ declared s', declare (Host.serving clashingModule) callClashing "m" = .ok declared ∧
    assign declared "g" "-1" = .ok s' ∧ ∃ g v, declared.globalImports.find? (·.name = "g") = some g ∧
      Value.read g.type "-1" = .ok v ∧ s'.getGlobal "g" ≠ (g.type, v) := by
  obtain ⟨declared, declares, s', assigned, got, first⟩ :
      ∃ declared, declare (Host.serving clashingModule) callClashing "m" = .ok declared ∧
        ∃ s', assign declared "g" "-1" = .ok s' ∧ s'.getGlobal "g" = (.i64, .i64 4294967295) ∧
          (declared.globalImports.find? (·.name = "g")).map (·.type) = some .i32 := by decide +kernel
  obtain ⟨g, found, type⟩ := Option.map_eq_some_iff.1 first
  refine ⟨declared, s', declares, assigned, g, .i32 (-1), found, ?_, ?_⟩
  · rw [type]
    decide +kernel
  · rw [got, type]
    nofun

end WasmLens.Cli
