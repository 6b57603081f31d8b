import WasmLens.Module.Compiled

/-!
# Catalogs

The functions that an instance has code for, in the order of that code, with what is known of them.
They are found by index or by any name that they are exported under.
-/
namespace WasmLens.Session

structure FunctionEntry where
  index : Nat
  /-- The first name that the function is exported under. -/
  name : Option String
  /-- The name that the module gives it for debugging. -/
  debugName : Option String
  code : List UInt8
  range : Code.Range
  signature : Signature
  deriving Repr, DecidableEq

namespace FunctionEntry

def isExported (e : FunctionEntry) : Bool := e.name.isSome

end FunctionEntry

structure Catalog where
  entries : List FunctionEntry := []
  /-- The names that functions of the catalog are exported under, with the index of each. -/
  exports : List (String × Nat) := []
  deriving Repr, DecidableEq

namespace Catalog

/-- The entry of a function whose code lies in a range of a layout. -/
def entryOf (o : Outline) (l : Code.Layout) (r : Code.Range) (index : Nat) : FunctionEntry :=
  { index
    name := o.functionExport? index
    debugName := o.functionNames[index]?
    code := (l.code r).getD []
    range := r
    signature := (o.signature? index).getD ⟨[], []⟩ }

/-- The entries of all functions of a layout. -/
def entriesOf (o : Outline) (l : Code.Layout) : List FunctionEntry :=
  l.functions.filterMap fun r => r.func.map (entryOf o l r)

def build (m : CompiledModule) : Catalog :=
  let entries := entriesOf m.outline m.layout
  let exports := m.outline.exports.filterMap fun e =>
    if e.kind = .function && entries.any (·.index = e.index) then some (e.name, e.index) else none
  ⟨entries, exports⟩

variable (c : Catalog)

def size : Nat := c.entries.length

def isEmpty : Bool := c.entries.isEmpty

/-- The entry of a function, the last one if there are several. -/
def ofIndex? (index : Nat) : Option FunctionEntry :=
  (c.entries.filter (·.index = index)).getLast?

/-- The entry of the function that is exported under a name. -/
def get? (name : String) : Option FunctionEntry :=
  (((c.exports.filter (·.1 = name)).getLast?).map (·.2)).bind c.ofIndex?

/-- The entry of the function that is exported under a name, which must be one. -/
def get (name : String) : Except Error FunctionEntry :=
  match c.get? name with
  | some e => .ok e
  | none => .error (.unknownExport name)

end Catalog

end WasmLens.Session
