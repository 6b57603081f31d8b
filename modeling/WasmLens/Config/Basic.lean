import WasmLens.Features

/-!
# Configuration

The nine settings of an engine. Seven of them are flags and are handled as one family, so the text
form, the defaults and the features each treat them in one place.
-/
namespace WasmLens

inductive OptLevel where
  | none
  | speed
  | speedAndSize
  deriving Repr, DecidableEq, Inhabited

namespace OptLevel

def name : OptLevel → String
  | .none => "none"
  | .speed => "speed"
  | .speedAndSize => "speed-and-size"

def all : List OptLevel := [.none, .speed, .speedAndSize]

def ofName? (s : String) : Option OptLevel := all.find? (·.name == s)

end OptLevel

/-- Settings that are on or off. -/
inductive Flag where
  | multiValue
  | bulkMemory
  | referenceTypes
  | simd
  | memory64
  | multiMemory
  | measureCalls
  deriving Repr, DecidableEq

namespace Flag

def name : Flag → String
  | .multiValue => "multi-value"
  | .bulkMemory => "bulk-memory"
  | .referenceTypes => "reference-types"
  | .simd => "simd"
  | .memory64 => "memory64"
  | .multiMemory => "multi-memory"
  | .measureCalls => "measure-calls"

def all : List Flag :=
  [.multiValue, .bulkMemory, .referenceTypes, .simd, .memory64, .multiMemory, .measureCalls]

def ofName? (s : String) : Option Flag := all.find? (·.name == s)

end Flag

structure Config where
  optLevel : OptLevel := .speed
  multiValue : Bool := true
  bulkMemory : Bool := true
  referenceTypes : Bool := true
  simd : Bool := true
  memory64 : Bool := false
  multiMemory : Bool := false
  /-- Whether calls are timed. -/
  measureCalls : Bool := true
  /-- The most pages any memory may have: declared maxima above it are lowered to it. -/
  maxMemoryPages : Option UInt64 := none
  deriving Repr, DecidableEq, Inhabited

/-- Two settings that do not go together, or one that allows nothing. -/
inductive Inconsistency where
  | referenceTypesNeedBulkMemory
  | noMemoryPages
  deriving Repr, DecidableEq

def Inconsistency.message : Inconsistency → String
  | .referenceTypesNeedBulkMemory => "reference types require bulk memory to be enabled"
  | .noMemoryPages => "max-memory-pages must not be zero"

namespace Config

def flag (c : Config) : Flag → Bool
  | .multiValue => c.multiValue
  | .bulkMemory => c.bulkMemory
  | .referenceTypes => c.referenceTypes
  | .simd => c.simd
  | .memory64 => c.memory64
  | .multiMemory => c.multiMemory
  | .measureCalls => c.measureCalls

def setFlag (c : Config) (f : Flag) (on : Bool) : Config :=
  match f with
  | .multiValue => { c with multiValue := on }
  | .bulkMemory => { c with bulkMemory := on }
  | .referenceTypes => { c with referenceTypes := on }
  | .simd => { c with simd := on }
  | .memory64 => { c with memory64 := on }
  | .multiMemory => { c with multiMemory := on }
  | .measureCalls => { c with measureCalls := on }

/-- Checks that the settings go together. A feature that misses another one is reported before an
empty page limit. -/
def validate (c : Config) : Except Inconsistency Unit :=
  if c.referenceTypes && !c.bulkMemory then .error .referenceTypesNeedBulkMemory
  else if c.maxMemoryPages = some 0 then .error .noMemoryPages
  else .ok ()

/-- The proposals that modules may use. -/
def features (c : Config) : Features where
  multiValue := c.multiValue
  bulkMemory := c.bulkMemory
  referenceTypes := c.referenceTypes
  simd := c.simd
  memory64 := c.memory64
  multiMemory := c.multiMemory

/-- The page limit as a number of pages. -/
def pageCap (c : Config) : Option Nat := c.maxMemoryPages.map UInt64.toNat

end Config

end WasmLens
