import WasmLens.Module.Outline
import WasmLens.Wasm.Decode.Content
import WasmLens.Wasm.Validate.Module

/-!
# Reading modules

The sections of a module are decoded, validated and entered into its outline one after another. The
first thing that is wrong decides the error, so a module that is refused for a proposal was valid up
to the section that uses it.
-/
namespace WasmLens

/-- A module as far as its sections have been read. -/
structure Reading where
  validator : Wasm.Validator
  outline : Outline := {}
  contents : List Wasm.Content := []

namespace Reading

def start (f : Features) : Reading := { validator := Wasm.Validator.start f }

def invalid (offset : Nat) (fault : Wasm.Fault) : Error := .invalidModule offset fault.message

/-- Reads one section. -/
def step (r : Reading) (s : Wasm.Placed) : Except Error Reading :=
  match Wasm.Content.ofSection r.validator.context.features s.payload with
  | .error fault => .error (invalid s.offset fault)
  | .ok content =>
    match r.validator.step content with
    | .error fault => .error (invalid s.offset fault)
    | .ok validator => (r.outline.add content).map fun outline =>
      ⟨validator, outline, r.contents ++ [content]⟩

/-- Reads a whole module. -/
def ofBytes (f : Features) (bytes : List UInt8) : Except Error Reading := do
  let sections := Wasm.Sections.split bytes
  let r ← sections.found.foldlM step (start f)
  match sections.fault, r.validator.context.finish with
  | some (offset, fault), _ => .error (invalid offset fault)
  | none, .error fault => .error (invalid bytes.length fault)
  | none, .ok () => .ok r

end Reading

/-- The outline of a valid module. -/
def Outline.ofBytes (f : Features) (bytes : List UInt8) : Except Error Outline :=
  (Reading.ofBytes f bytes).map (·.outline)

end WasmLens
