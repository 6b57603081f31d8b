/-!
# Kinds of imports and exports
-/
namespace WasmLens

/-- What a module can import or export. -/
inductive ExternKind where
  | function
  | table
  | memory
  | global
  deriving Repr, DecidableEq

namespace ExternKind

def name : ExternKind → String
  | .function => "function"
  | .table => "table"
  | .memory => "memory"
  | .global => "global"

end ExternKind

end WasmLens
