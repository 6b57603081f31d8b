import WasmLens.Value.Basic

/-!
# Function signatures

Parameter and result types of a function as the host sees them, and their text.
-/
namespace WasmLens

structure Signature where
  params : List ValueType
  results : List ValueType
  deriving Repr, DecidableEq, Inhabited

namespace Signature

/-- The first result, or `void` for a function without results. -/
def returnType (s : Signature) : ValueType := s.results.headD .void

/-- Type names between parentheses, separated by commas. -/
def tuple (types : List ValueType) : String :=
  "(" ++ String.intercalate ", " (types.map ValueType.name) ++ ")"

/-- Parameters, an arrow and the results. One result stands alone, and no result reads `void`. -/
def text (s : Signature) : String :=
  let results := match s.results with
    | [] => ValueType.void.name
    | [single] => single.name
    | several => tuple several
  tuple s.params ++ " -> " ++ results

end Signature

end WasmLens
