import WasmLens.Text.Duration
import WasmLens.Text.Quoted

/-!
# Timers

A timer makes a measured call, once as a rule, and says how long it took.
-/
namespace WasmLens.Session

inductive Timer where
  /-- Measures. What it reports is known to nobody but the clock. -/
  | wallClock
  /-- Makes the call and reports no time at all. -/
  | disabled
  /-- Makes the call as often as it was told, and reports the time that it was told, in
  nanoseconds. -/
  | fake (runs elapsed : Nat)
  deriving Repr, DecidableEq

namespace Timer

/-- The timer of an engine. -/
def ofConfig (measureCalls : Bool) : Timer := if measureCalls then .wallClock else .disabled

/-- How often a timer makes the call. -/
def runs : Timer → Nat
  | .wallClock | .disabled => 1
  | .fake runs _ => runs

/-- The nanoseconds that a timer reports, unless it measures them. -/
def elapsed? : Timer → Option Nat
  | .wallClock => none
  | .disabled => some 0
  | .fake _ elapsed => some elapsed

def text : Timer → String
  | .wallClock => "WallClock"
  | .disabled => "Disabled"
  | .fake runs elapsed =>
    Text.record "Fake" [("runs", toString runs), ("elapsed", Text.duration elapsed)]

end Timer

end WasmLens.Session
