import WasmLens.Module.Kind

/-!
# Warnings

What a module holds that a host cannot see or provide. None of it keeps the module from running.
-/
namespace WasmLens

inductive Warning where
  /-- A host cannot provide functions and tables. -/
  | unsupportedImport (module name : String) (kind : ExternKind)
  /-- A type that no host value has. The index is that of the function type or of the global. -/
  | unsupportedType (location : String) (index : Nat) (type : String)
  | multipleMemories (count : Nat)
  | malformedNames (message : String)
  deriving Repr, DecidableEq

namespace Warning

def text : Warning → String
  | .unsupportedImport module name kind =>
    kind.name ++ " import " ++ module ++ "::" ++ name ++ " cannot be provided"
  | .unsupportedType location index type =>
    location ++ " of type `" ++ type ++ "` in entry " ++ toString index ++ " is reflected as void"
  | .multipleMemories count =>
    "module declares " ++ toString count ++ " memories, only the first is reflected"
  | .malformedNames message => "ignoring malformed name section: " ++ message

end Warning

end WasmLens
