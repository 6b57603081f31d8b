import Mathlib.Data.List.Nodup
import WasmLens.Config.Text
import WasmLens.Proofs.Toml.Lines

/-!
# Settings in a text

Each setting is a line of its own, and a text has those that somebody cared to give, in any order. **It is read as these
settings and the defaults of all others**, if they go together (`ofToml_written`). In particular a configuration is read
back from the text that it is written as.
-/
namespace WasmLens

namespace Config

/-! ## Single settings -/

/-- A setting with its value. -/
inductive Setting where
  | optLevel (level : OptLevel)
  | flag (f : Flag) (on : Bool)
  | maxMemoryPages (pages : UInt64)
  deriving Repr, DecidableEq

namespace Setting

def key : Setting → String
  | .optLevel _ => optLevelKey
  | .flag f _ => f.name
  | .maxMemoryPages _ => maxMemoryPagesKey

def value : Setting → String
  | .optLevel level => "\"" ++ level.name ++ "\""
  | .flag _ on => toString on
  | .maxMemoryPages pages => toString pages.toNat

def node : Setting → Toml.Node
  | .optLevel level => .string level.name
  | .flag _ on => .boolean on
  | .maxMemoryPages pages => .integer pages.toNat

/-- The line that gives a setting. -/
def text (s : Setting) : String := line s.key s.value

/-- A configuration with this setting. -/
def apply (c : Config) : Setting → Config
  | .optLevel level => { c with optLevel := level }
  | .flag f on => c.setFlag f on
  | .maxMemoryPages pages => { c with maxMemoryPages := some pages }

def toLine (s : Setting) : Toml.Line := ⟨s.key.toList, s.value.toList, s.node⟩

theorem entry_toLine (s : Setting) : s.toLine.entry = (s.key, s.node) := by
  rw [Toml.Line.entry, toLine, String.ofList_toList]

theorem toList_text (s : Setting) : s.text.toList = s.toLine.text ++ ['\n'] := by
  simp [text, line, Toml.Line.text, toLine]

theorem writes_value : ∀ s : Setting, Toml.Writes s.value.toList s.node
  | .optLevel level => by
    have written : Toml.Writes ('"' :: level.name.toList ++ ['"']) (.string (String.ofList level.name.toList)) :=
      Toml.writes_string (by cases level <;> decide) (List.all_eq_true.1 (by cases level <;> decide))
    rw [String.ofList_toList] at written
    simpa [value, node] using written
  | .flag _ on => Toml.writes_boolean on
  | .maxMemoryPages pages => by
    rw [value, Nat.toString_eq_ofList_toDigits, String.toList_ofList]
    exact Toml.writes_number pages.toNat

theorem key_nonempty : ∀ s : Setting, s.key.toList ≠ []
  | .optLevel _ => show optLevelKey.toList ≠ [] by decide
  | .flag f _ => show f.name.toList ≠ [] by cases f <;> decide
  | .maxMemoryPages _ => show maxMemoryPagesKey.toList ≠ [] by decide

theorem key_bare : ∀ s : Setting, ∀ c ∈ s.key.toList, Toml.isBare c
  | .optLevel _ => List.all_eq_true.1 (show optLevelKey.toList.all Toml.isBare by decide)
  | .flag f _ => List.all_eq_true.1 (show f.name.toList.all Toml.isBare by cases f <;> decide)
  | .maxMemoryPages _ => List.all_eq_true.1 (show maxMemoryPagesKey.toList.all Toml.isBare by decide)

/-- **The line of a setting can be read.** -/
theorem plain_toLine (s : Setting) : s.toLine.Plain := ⟨s.key_nonempty, s.key_bare, s.writes_value⟩

theorem ofName?_level (level : OptLevel) : OptLevel.ofName? level.name = some level := by
  cases level <;> decide

theorem ofName?_flag (f : Flag) : Flag.ofName? f.name = some f := by
  cases f <;> decide

/-- **Reading the value of a setting** gives the setting. -/
theorem set?_node (c : Config) : ∀ s : Setting, c.set? s.key s.node = some (s.apply c)
  | .optLevel level => by
    show (OptLevel.ofName? level.name).map _ = _
    rw [ofName?_level]
    rfl
  | .flag f on => by
    have noLevel : f.name ≠ optLevelKey := by cases f <;> decide
    have noPages : f.name ≠ maxMemoryPagesKey := by cases f <;> decide
    unfold set?
    simp only [key, node, noLevel, noPages, if_false, ofName?_flag]
    rfl
  | .maxMemoryPages pages => by
    have inRange : (0 : Int) ≤ pages.toNat ∧ (pages.toNat : Int) < twoTo 64 :=
      ⟨Int.natCast_nonneg _, Int.ofNat_lt.2 pages.toNat_lt⟩
    have read : pagesOf? (.integer pages.toNat) = some pages := by
      rw [pagesOf?, if_pos inRange, Int.toNat_natCast, UInt64.ofNat_toNat]
    show (if maxMemoryPagesKey = optLevelKey then _ else if maxMemoryPagesKey = maxMemoryPagesKey then
      (pagesOf? (.integer pages.toNat)).map _ else _) = _
    rw [if_neg (by decide), if_pos rfl, read]
    rfl

/-- Different settings do not come in each other's way. -/
theorem apply_comm (c : Config) {s s' : Setting} (differ : s.key ≠ s'.key) :
    s'.apply (s.apply c) = s.apply (s'.apply c) := by
  cases s with
  | optLevel level =>
    cases s' with
    | optLevel _ => exact absurd rfl differ
    | flag f _ => cases f <;> rfl
    | maxMemoryPages _ => rfl
  | flag f on =>
    cases s' with
    | optLevel _ => cases f <;> rfl
    | flag f' _ => cases f <;> cases f' <;> first | rfl | exact absurd rfl differ
    | maxMemoryPages _ => cases f <;> rfl
  | maxMemoryPages pages =>
    cases s' with
    | optLevel _ => rfl
    | flag f _ => cases f <;> rfl
    | maxMemoryPages _ => exact absurd rfl differ

end Setting

/-! ## Texts -/

/-- **A text of settings**, a line for each. The last line feed may be missing. -/
def Written (settings : List Setting) (text : String) : Prop :=
  text = String.join (settings.map Setting.text) ∨ text ++ "\n" = String.join (settings.map Setting.text)

/-- The configuration that settings make of the defaults, from the first to the last. -/
def ofSettings (settings : List Setting) : Config := settings.foldl Setting.apply {}

theorem toList_join_cons (s : Setting) (settings : List Setting) :
    (String.join ((s :: settings).map Setting.text)).toList =
      s.toLine.text ++ '\n' :: (String.join (settings.map Setting.text)).toList := by
  rw [List.map_cons, String.join_cons, String.toList_append, Setting.toList_text, List.append_assoc]
  rfl

theorem document_join : ∀ settings : List Setting,
    Toml.Document (settings.map Setting.toLine) (String.join (settings.map Setting.text)).toList
  | [] => .nil
  | s :: settings => by
    rw [toList_join_cons]
    exact .cons s.toLine (document_join settings)

theorem document_chopped : ∀ (s : Setting) (settings : List Setting),
    ∃ text, (String.join ((s :: settings).map Setting.text)).toList = text ++ ['\n'] ∧
      Toml.Document ((s :: settings).map Setting.toLine) text
  | s, [] => ⟨s.toLine.text, toList_join_cons s [], .last s.toLine⟩
  | s, s' :: settings => by
    obtain ⟨text, eq, document⟩ := document_chopped s' settings
    refine ⟨s.toLine.text ++ '\n' :: text, ?_, .cons s.toLine document⟩
    rw [toList_join_cons, eq, List.append_assoc]
    rfl

theorem Written.document {settings : List Setting} {text : String} (written : Written settings text) :
    Toml.Document (settings.map Setting.toLine) text.toList := by
  rcases written with rfl | chopped
  · exact document_join settings
  · have chopped : text.toList ++ ['\n'] = (String.join (settings.map Setting.text)).toList := by
      rw [← chopped, String.toList_append]
      rfl
    cases settings with
    | nil => cases List.append_ne_nil_of_right_ne_nil _ (List.cons_ne_nil _ _) chopped
    | cons s settings =>
      obtain ⟨body, eq, document⟩ := document_chopped s settings
      rw [List.append_cancel_right (chopped.trans eq)]
      exact document

theorem map_entry (settings : List Setting) :
    (settings.map Setting.toLine).map Toml.Line.entry = settings.map fun s => (s.key, s.node) := by
  rw [List.map_map]
  exact List.map_congr_left fun s _ => s.entry_toLine

theorem foldlM_set? : ∀ (settings : List Setting) (c : Config),
    (settings.map fun s => (s.key, s.node)).foldlM (fun c (key, node) => c.set? key node) c =
      some (settings.foldl Setting.apply c)
  | [], _ => rfl
  | s :: settings, c => by
    show (c.set? s.key s.node).bind _ = _
    rw [s.set?_node]
    exact foldlM_set? settings (s.apply c)

/-- **Settings are read** as what they make of the defaults, if none is given twice. -/
theorem ofToml_settings {settings : List Setting} {text : String} (written : Written settings text)
    (distinct : (settings.map Setting.key).Nodup) :
    ofToml text = match (ofSettings settings).validate with
      | .ok () => .ok (ofSettings settings)
      | .error cause => .error (.inconsistent cause) := by
  have plain : ∀ l ∈ settings.map Setting.toLine, l.Plain := List.forall_mem_map.2 fun s _ => s.plain_toLine
  have keys : ((settings.map Setting.toLine).map Toml.Line.entry).map Prod.fst = settings.map Setting.key := by
    rw [map_entry, List.map_map]
    rfl
  have read := Toml.read_document written.document plain (keys ▸ distinct)
  rw [map_entry] at read
  rw [ofToml, read, Option.bind_some, ofEntries?, foldlM_set?]
  rfl

/-! ## Assignments -/

/-- The settings that somebody cared to give. -/
structure Assignment where
  optLevel : Option OptLevel
  flag : Flag → Option Bool
  maxMemoryPages : Option UInt64

namespace Assignment

/-- The given settings, in their fixed order. -/
def settings (a : Assignment) : List Setting :=
  a.optLevel.toList.map .optLevel ++ Flag.all.filterMap (fun f => (a.flag f).map (.flag f)) ++
    a.maxMemoryPages.toList.map .maxMemoryPages

/-- The given values, and the defaults for the others. -/
def config (a : Assignment) : Config where
  optLevel := a.optLevel.getD default.optLevel
  multiValue := (a.flag .multiValue).getD default.multiValue
  bulkMemory := (a.flag .bulkMemory).getD default.bulkMemory
  referenceTypes := (a.flag .referenceTypes).getD default.referenceTypes
  simd := (a.flag .simd).getD default.simd
  memory64 := (a.flag .memory64).getD default.memory64
  multiMemory := (a.flag .multiMemory).getD default.multiMemory
  measureCalls := (a.flag .measureCalls).getD default.measureCalls
  maxMemoryPages := a.maxMemoryPages
where default : Config := {}

theorem mem_flags {a : Assignment} {s : Setting}
    (mem : s ∈ Flag.all.filterMap fun f => (a.flag f).map (Setting.flag f)) : ∃ f on, s = .flag f on := by
  obtain ⟨f, _, made⟩ := List.mem_filterMap.1 mem
  obtain ⟨on, _, rfl⟩ := Option.map_eq_some_iff.1 made
  exact ⟨f, on, rfl⟩

/-- No key is given twice. -/
theorem distinct_settings (a : Assignment) : (a.settings.map Setting.key).Nodup := by
  have flags : (Flag.all.filterMap fun f => (a.flag f).map (Setting.flag f)).Pairwise (·.key ≠ ·.key) := by
    refine List.Pairwise.filterMap _ ?_ (show Flag.all.Pairwise (·.name ≠ ·.name) by decide)
    intro f f' differ s mem s' mem'
    obtain ⟨on, _, rfl⟩ := Option.map_eq_some_iff.1 mem
    obtain ⟨on', _, rfl⟩ := Option.map_eq_some_iff.1 mem'
    exact differ
  have single {α : Type} (x : Option α) (make : α → Setting) :
      (x.toList.map make).Pairwise (·.key ≠ ·.key) := by
    cases x with
    | none => exact .nil
    | some x => exact List.pairwise_singleton _ _
  rw [List.Nodup, List.pairwise_map, settings, List.pairwise_append, List.pairwise_append]
  refine ⟨⟨single _ _, flags, ?level⟩, single _ _, ?pages⟩
  case level =>
    intro s mem s' mem'
    obtain ⟨level, _, rfl⟩ := List.mem_map.1 mem
    obtain ⟨f, on, rfl⟩ := mem_flags mem'
    show optLevelKey ≠ f.name
    cases f <;> decide
  case pages =>
    intro s mem s' mem'
    obtain ⟨pages, _, rfl⟩ := List.mem_map.1 mem'
    rcases List.mem_append.1 mem with mem | mem
    · obtain ⟨level, _, rfl⟩ := List.mem_map.1 mem
      show optLevelKey ≠ maxMemoryPagesKey
      decide
    · obtain ⟨f, on, rfl⟩ := mem_flags mem
      show f.name ≠ maxMemoryPagesKey
      cases f <;> decide

theorem setFlag_flag (c : Config) (f : Flag) : c.setFlag f (c.flag f) = c := by
  cases f <;> rfl

/-- A flag that is not given keeps its value. -/
theorem foldl_flags (a : Assignment) : ∀ (fs : List Flag) (c : Config),
    (fs.filterMap fun f => (a.flag f).map (Setting.flag f)).foldl Setting.apply c =
      fs.foldl (fun c f => c.setFlag f ((a.flag f).getD (c.flag f))) c
  | [], _ => rfl
  | f :: fs, c => by
    rw [List.foldl_cons]
    cases given : a.flag f with
    | none =>
      rw [List.filterMap_cons_none (by rw [given]; rfl), foldl_flags a fs, Option.getD_none, setFlag_flag]
    | some on =>
      rw [List.filterMap_cons_some (by rw [given]; rfl), List.foldl_cons, foldl_flags a fs]
      rfl

/-- **The given settings** make the configuration of the assignment. -/
theorem ofSettings_settings (a : Assignment) : ofSettings a.settings = a.config := by
  have level (c : Config) : (a.optLevel.toList.map Setting.optLevel).foldl Setting.apply c =
      { c with optLevel := a.optLevel.getD c.optLevel } := by
    cases a.optLevel <;> rfl
  have pages (c : Config) (absent : c.maxMemoryPages = none) :
      (a.maxMemoryPages.toList.map Setting.maxMemoryPages).foldl Setting.apply c =
        { c with maxMemoryPages := a.maxMemoryPages } := by
    cases a.maxMemoryPages with
    | none => exact congrArg (fun pages => { c with maxMemoryPages := pages }) absent
    | some _ => rfl
  rw [ofSettings, settings, List.foldl_append, List.foldl_append, level, foldl_flags]
  exact pages _ rfl

/-- **The order** in which settings are given does not matter. -/
theorem ofSettings_perm {order settings : List Setting} (perm : order.Perm settings)
    (distinct : (settings.map Setting.key).Nodup) : ofSettings order = ofSettings settings := by
  have distinct := (perm.map Setting.key).nodup_iff.2 distinct
  refine perm.foldl_eq' (fun s mem s' mem' c => ?_) ({} : Config)
  by_cases same : s.key = s'.key
  · rw [List.inj_on_of_nodup_map distinct mem mem' same]
  · exact Setting.apply_comm c same

/-- All settings of a configuration; the page limit only if there is one. -/
def ofConfig (c : Config) : Assignment := ⟨some c.optLevel, fun f => some (c.flag f), c.maxMemoryPages⟩

theorem config_ofConfig (c : Config) : (ofConfig c).config = c := rfl

theorem written_toToml (c : Config) : Written (ofConfig c).settings c.toToml := by
  have flags : Flag.all.filterMap (fun f => ((ofConfig c).flag f).map (Setting.flag f)) =
      Flag.all.map fun f => Setting.flag f (c.flag f) :=
    congrFun (List.filterMap_eq_map (f := fun f => Setting.flag f (c.flag f))) _
  refine .inl ?_
  rw [settings, flags, List.map_append, List.map_append, String.join_append, String.join_append, List.map_map]
  obtain ⟨_, _, _, _, _, _, _, _, _ | pages⟩ := c <;> rfl

end Assignment

/-- **Settings are read** in any order, with the defaults for those that are missing, if they go together. A
configuration is read back from the text that it is written as. -/
theorem ofToml_written (a : Assignment) {order : List Setting} (all : order.Perm a.settings) {text : String}
    (written : Written order text) :
    (ofToml text = match a.config.validate with
      | .ok () => .ok a.config
      | .error cause => .error (.inconsistent cause)) ∧
    ∀ c : Config, c.validate = .ok () → ofToml c.toToml = .ok c := by
  have distinct := (all.map Setting.key).nodup_iff.2 a.distinct_settings
  refine ⟨?_, fun c valid => ?_⟩
  · rw [ofToml_settings written distinct, Assignment.ofSettings_perm all a.distinct_settings, a.ofSettings_settings]
  · rw [ofToml_settings (Assignment.written_toToml c) (Assignment.distinct_settings _), Assignment.ofSettings_settings,
      Assignment.config_ofConfig, valid]

/-- Three settings in the opposite order, without the last line feed. -/
theorem ofToml_written_backwards :
    [Setting.maxMemoryPages 18446744073709551615, .flag .memory64 true, .optLevel .speedAndSize].Perm
        (Assignment.settings ⟨some .speedAndSize, fun f => if f = .memory64 then some true else none,
          some 18446744073709551615⟩) ∧
      Written [.maxMemoryPages 18446744073709551615, .flag .memory64 true, .optLevel .speedAndSize]
        "max-memory-pages = 18446744073709551615\nmemory64 = true\nopt-level = \"speed-and-size\"" ∧
      ofToml "max-memory-pages = 18446744073709551615\nmemory64 = true\nopt-level = \"speed-and-size\"" =
        .ok { optLevel := .speedAndSize, memory64 := true, maxMemoryPages := some 18446744073709551615 } :=
  have all := by decide
  have written := .inr (by decide +kernel)
  ⟨all, written, (ofToml_written ⟨_, _, _⟩ all written).1⟩

-- one setting may contradict the default of another
example : ofToml "bulk-memory = false" = .error (.inconsistent .referenceTypesNeedBulkMemory) := by cbv

end Config

end WasmLens
