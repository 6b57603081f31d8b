import WasmLens.Module.Kind
import WasmLens.Session.Phase

/-!
# Errors

The ways in which compiling a module and using a session can fail, one constructor for each cause,
and their texts.
-/
namespace WasmLens

inductive Error where
  /-- The bytes are no valid module. -/
  | invalidModule (offset : Nat) (message : String)
  | outOfMemory
  /-- The engine refuses a module that validates. -/
  | compile (message : String)
  /-- The host cannot provide what the module imports. -/
  | allocation (message : String)
  | unsupported (feature : String)
  | missingImport (module name : String) (kind : ExternKind)
  /-- The module and its imports do not fit together, or its memories do not fit into the limits. -/
  | link (message : String)
  /-- A segment or the start function trapped. -/
  | trap (message : String)
  | notInstantiated
  | notExported (index : Nat)
  | unknownExport (name : String)
  | noMemory
  | immutableGlobal (name : String)
  /-- The operation, as it reads after `cannot`, is not allowed in this phase. -/
  | invalidPhase (operation : String) (phase : Session.Phase)
  | outOfBounds
  deriving Repr, DecidableEq

namespace Error

def message : Error → String
  | .invalidModule offset message => "invalid WASM input at " ++ toString offset ++ ": " ++ message
  | .outOfMemory => "out of memory while buffering bytecode"
  | .compile message => "failed to compile module: " ++ message
  | .allocation message => "failed to allocate import: " ++ message
  | .unsupported feature => "Feature used by the WebAssembly code is not supported: " ++ feature
  | .missingImport module name kind =>
    "Missing required import " ++ module ++ "::" ++ name ++ " (" ++ kind.name ++ ")"
  | .link message => "failed to link module: " ++ message
  | .trap message => "module initialization trapped: " ++ message
  | .notInstantiated => "module has not been instantiated"
  | .notExported index => "function " ++ toString index ++ " is not exported"
  | .unknownExport name => "no exported function named `" ++ name ++ "`"
  | .noMemory => "module has no linear memory"
  | .immutableGlobal name =>
    "global `" ++ name ++ "` is immutable and already bound to an instance"
  | .invalidPhase operation phase =>
    "cannot " ++ operation ++ " while the session is " ++ phase.text
  | .outOfBounds => "out of bounds memory access"

end Error

end WasmLens
