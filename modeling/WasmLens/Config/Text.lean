import WasmLens.Config.Basic
import WasmLens.Number.Power
import WasmLens.Toml.Reader

/-!
# Configurations as text

A configuration is written as one `key = value` line for each setting, and read back from any TOML
document that has no other keys. Settings that a document leaves out keep their defaults.
-/
namespace WasmLens

namespace Config

def optLevelKey : String := "opt-level"

def maxMemoryPagesKey : String := "max-memory-pages"

/-! ## Writing -/

def line (key value : String) : String := key ++ " = " ++ value ++ "\n"

/-- The settings in their fixed order; the page limit only if there is one. -/
def toToml (c : Config) : String :=
  line optLevelKey ("\"" ++ c.optLevel.name ++ "\"")
    ++ String.join (Flag.all.map fun f => line f.name (toString (c.flag f)))
    ++ match c.maxMemoryPages with
      | some pages => line maxMemoryPagesKey (toString pages.toNat)
      | none => ""

/-! ## Reading -/

/-- A level is named by a string, or by the only key of a table, with nothing in it. -/
def optLevelOf? : Toml.Node → Option OptLevel
  | .string s => OptLevel.ofName? s
  | .table _ [(name, .table _ [])] => OptLevel.ofName? name
  | .table _ [(name, .array [])] => OptLevel.ofName? name
  | _ => none

def pagesOf? : Toml.Node → Option UInt64
  | .integer n => if 0 ≤ n ∧ n < twoTo 64 then some (UInt64.ofNat n.toNat) else none
  | _ => none

/-- Sets the setting of one key; `none` for a key that is no setting and for a value it cannot have. -/
def set? (c : Config) (key : String) (node : Toml.Node) : Option Config :=
  if key = optLevelKey then (optLevelOf? node).map fun level => { c with optLevel := level }
  else if key = maxMemoryPagesKey then
    (pagesOf? node).map fun pages => { c with maxMemoryPages := some pages }
  else
    match Flag.ofName? key, node with
    | some f, .boolean on => some (c.setFlag f on)
    | _, _ => none

def ofEntries? (es : Toml.Entries) : Option Config :=
  es.foldlM (fun c (key, node) => c.set? key node) {}

/-- Why a text gives no configuration. -/
inductive TextError where
  /-- It is no TOML, or has a key or a value that no setting has. -/
  | malformed
  | inconsistent (cause : Inconsistency)
  deriving Repr, DecidableEq

def TextError.message : TextError → String
  | .malformed => "failed to parse configuration"
  | .inconsistent cause => cause.message

/-- Reads a configuration and checks that its settings go together. -/
def ofToml (text : String) : Except TextError Config :=
  match (Toml.read text).bind ofEntries? with
  | none => .error .malformed
  | some c =>
    match c.validate with
    | .ok () => .ok c
    | .error cause => .error (.inconsistent cause)

end Config

end WasmLens
