/-!
# Features

The proposals on top of the first version of WebAssembly that a validator accepts by default. Mutable globals, sign
extension and saturating conversions are always among them. Proposals that have to be asked for are left out: the
operators of the older exception handling, of stack switching, of wide arithmetic, of memory control and of threads
that share more than memories are not known, and custom page sizes and shared tables and globals are refused by
whatever features there are.
-/
namespace WasmLens

structure Features where
  multiValue : Bool := false
  bulkMemory : Bool := false
  referenceTypes : Bool := false
  simd : Bool := false
  memory64 : Bool := false
  multiMemory : Bool := false
  threads : Bool := false
  exceptions : Bool := false
  /-- Garbage-collected types, and with them typed function references. -/
  gc : Bool := false
  tailCalls : Bool := false
  extendedConst : Bool := false
  relaxedSimd : Bool := false
  deriving Repr, DecidableEq, Inhabited

namespace Features

/-- The names of the features in force that a configuration can speak of. -/
def names (f : Features) : List String :=
  [(f.multiValue, "multi-value"), (f.bulkMemory, "bulk-memory"),
    (f.referenceTypes, "reference-types"), (f.simd, "simd"), (f.memory64, "memory64"),
    (f.multiMemory, "multi-memory"), (true, "mutable-global"), (true, "sign-extension"),
    (true, "saturating-float-to-int"), (f.threads, "threads")].filterMap
    fun (on, name) => if on then some name else none

end Features

end WasmLens
