/-!
# The layout of a text section

A text section holds the code of a module's functions, at spans that need not be in order, disjoint
or even inside the text. `Layout.ofSpans` cuts the text into consecutive ranges: one for each span,
clipped to the text and to what earlier spans left of it, and one for every gap between them.
-/
namespace WasmLens.Code

/-- Where the code of a function is said to lie, from `start` up to `stop`. -/
structure Span where
  func : Nat
  start : Nat
  stop : Nat
  deriving Repr, DecidableEq

/-- A piece of the text section: the code of a function, or bytes that belong to none. -/
structure Range where
  func : Option Nat
  /-- Offset of the first byte. -/
  first : Nat
  /-- Offset at which calls enter. -/
  entry : Nat
  /-- Offset one past the last byte. -/
  stop : Nat
  deriving Repr, DecidableEq

/-- The range ends before its entry, so it has no length. -/
structure EndsBeforeEntry where
  deriving Repr, DecidableEq

def EndsBeforeEntry.message (_ : EndsBeforeEntry) : String := "attempt to subtract with overflow"

namespace Range

def isFunction (r : Range) : Bool := r.func.isSome

/-- Bytes from the entry to the end. -/
def length (r : Range) : Except EndsBeforeEntry Nat :=
  if r.stop < r.entry then .error ⟨⟩ else .ok (r.stop - r.entry)

def isEmpty (r : Range) : Except EndsBeforeEntry Bool := r.length.map (· == 0)

end Range

/-- A text section and the ranges it is cut into, in offset order. -/
structure Layout where
  text : List UInt8
  ranges : List Range

namespace Layout

/-- A span cut off at the end of the text; a start past its stop moves back to it. -/
def clamp (size : Nat) (s : Span) : Span :=
  let stop := min s.stop size
  { s with start := min s.start stop, stop }

/-- The gap from `cursor` up to `stop`, if there is one. -/
def gap (cursor stop : Nat) : List Range :=
  if cursor < stop then [⟨none, cursor, cursor, stop⟩] else []

/-- Cuts the text from `cursor` on. A span keeps the part of it that no earlier span has claimed. -/
def cut (size : Nat) : (cursor : Nat) → List Span → List Range
  | cursor, [] => gap cursor size
  | cursor, s :: spans =>
    let first := max s.start cursor
    let stop := max s.stop first
    gap cursor first ++ ⟨some s.func, first, first, stop⟩ :: cut size stop spans

/-- Spans in the order of their clamped starts, ties as they came. -/
def order (size : Nat) (spans : List Span) : List Span :=
  (spans.map (clamp size)).mergeSort fun a b => a.start ≤ b.start

def ofSpans (text : List UInt8) (spans : List Span) : Layout :=
  ⟨text, cut text.length 0 (order text.length spans)⟩

/-- The ranges that hold functions, in offset order. -/
def functions (l : Layout) : List Range := l.ranges.filter Range.isFunction

/-- The bytes of a range from its entry on; `none` if they do not all lie in the text. -/
def code (l : Layout) (r : Range) : Option (List UInt8) :=
  if r.entry ≤ r.stop ∧ r.stop ≤ l.text.length then
    some ((l.text.drop r.entry).take (r.stop - r.entry))
  else none

/-- The number of leading ranges that end at or before `offset`, by halving the candidates
`low ≤ i < high`. -/
def endedBefore (ranges : Array Range) (offset : Nat) (low high : Nat) : Nat :=
  if low < high then
    let mid := (low + high) / 2
    match ranges[mid]? with
    | some r =>
      if r.stop ≤ offset then endedBefore ranges offset (mid + 1) high
      else endedBefore ranges offset low mid
    | none => low
  else low
termination_by high - low

/-- The function whose code contains an offset. -/
def functionAt (l : Layout) (offset : Nat) : Option Nat :=
  let ranges := l.ranges.toArray
  match ranges[endedBefore ranges offset 0 ranges.size]? with
  | some r => if r.first ≤ offset ∧ offset < r.stop then r.func else none
  | none => none

end Layout

end WasmLens.Code
