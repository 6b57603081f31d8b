/-!
# Reports

What a command prints and how it ends. Times are measured by whoever runs the command, so a line
that tells a time says where it goes, and the time is filled in when the line is printed.
-/
namespace WasmLens.Cli

inductive Line where
  | text (s : String)
  /-- How long a call took; the time is known if no clock was asked. -/
  | elapsed (nanos : Option Nat)
  /-- How long a call took that trapped. -/
  | trapped (name : String) (nanos : Option Nat)
  deriving Repr, DecidableEq

namespace Line

/-- A number of nanoseconds, or what the clock has shown. -/
def time (measured : String) (nanos : Option Nat) : String := (nanos.map toString).getD measured

/-- The line with the time that the clock has shown. -/
def render (measured : String) : Line → String
  | .text s => s
  | .elapsed nanos => "elapsed: " ++ time measured nanos ++ " ns"
  | .trapped name nanos => "`" ++ name ++ "` trapped after " ++ time measured nanos ++ " ns"

end Line

structure Report where
  exit : Nat
  output : List Line := []
  /-- Why the command failed, the outermost reason first. -/
  causes : List Line := []
  /-- What may help to understand the failure. -/
  notes : List String := []
  deriving Repr, DecidableEq

namespace Report

def success (output : List Line) : Report := ⟨0, output, [], []⟩

/-- What went wrong, as far as a command had come. -/
structure Failure where
  causes : List Line
  notes : List String := []
  deriving Repr, DecidableEq

/-- A failure with one more reason around it. -/
def Failure.within (outer : String) (f : Failure) : Failure :=
  { f with causes := .text outer :: f.causes }

def Failure.ofText (s : String) : Failure := ⟨[.text s], []⟩

def failure (f : Failure) : Report := ⟨1, [], f.causes, f.notes⟩

/-- The words of the command line make no sense. -/
def misuse : Report := { exit := 2 }

/-- The program gave up. -/
def abort : Report := { exit := 101 }

end Report

end WasmLens.Cli
