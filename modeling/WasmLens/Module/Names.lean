import WasmLens.Wasm.Reader

/-!
# The name section

A custom section that names the module and its functions. It is advisory, so a fault in it does not
make the module invalid: every name before the fault counts, and the rest of the section does not.
-/
namespace WasmLens

/-- One name that a section gives. -/
inductive Naming where
  | module (name : String)
  | function (index : Nat) (name : String)
  deriving Repr, DecidableEq

/-- The names of a section up to its first fault. -/
structure NameSection where
  names : List Naming
  fault : Option Wasm.Fault
  deriving Repr, DecidableEq

namespace NameSection

open Wasm

/-- Entries of a function name list, `count` of them, with nothing behind the last. -/
def functionNames : (count : Nat) → List UInt8 → NameSection
  | 0, [] => ⟨[], none⟩
  | 0, _ :: _ => ⟨[], some (.trailing "function names")⟩
  | count + 1, bytes =>
    match (do return Naming.function (← Reader.u32) (← Reader.text) : Reader Naming) bytes with
    | .error f => ⟨[], some f⟩
    | .ok (name, rest) =>
      let later := functionNames count rest
      ⟨name :: later.names, later.fault⟩

/-- The subsections that start with a count and are not read any further. -/
def isCounted (id : Nat) : Bool := 2 ≤ id && id ≤ 11

/-- What one subsection names. -/
def subsection (id : Nat) (contents : List UInt8) : NameSection :=
  if id = 0 then
    match Reader.text.runOn "module name" contents with
    | .ok name => ⟨[.module name], none⟩
    | .error f => ⟨[], some f⟩
  else if id = 1 then
    match Reader.u32 contents with
    | .ok (count, rest) => functionNames count rest
    | .error f => ⟨[], some f⟩
  else if isCounted id then
    match Reader.u32 contents with
    | .ok _ => ⟨[], none⟩
    | .error f => ⟨[], some f⟩
  else ⟨[], none⟩

/-- The id and the contents of a subsection. -/
def header : Reader (Nat × List UInt8) := do
  let id ← Reader.byte
  if 128 ≤ id.toNat then Reader.fail (.malformed "name subsection")
  return (id.toNat, ← Reader.take (← Reader.u32))

/-- Reads the contents of a name section, subsection by subsection. -/
def read (bytes : List UInt8) : NameSection :=
  match bytes with
  | [] => ⟨[], none⟩
  | b :: tail =>
    match header (b :: tail) with
    | .error f => ⟨[], some f⟩
    | .ok ((id, contents), rest) =>
      match subsection id contents with
      | ⟨names, some f⟩ => ⟨names, some f⟩
      | ⟨names, none⟩ =>
        if rest.length < (b :: tail).length then
          let later := read rest
          ⟨names ++ later.names, later.fault⟩
        else ⟨names, some .unexpectedEnd⟩
termination_by bytes.length
decreasing_by assumption

end NameSection

end WasmLens
