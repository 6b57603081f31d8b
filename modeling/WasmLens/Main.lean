import WasmLens.Cli.Run

/-!
# The program

Reads the files that a command line asks for, carries it out, and prints its report. Only a call is
timed, not what comes before it. The program is complete once it is given a translator for modules as text.
-/
namespace WasmLens.Cli

/-- The environment variable that may name a configuration. -/
def configVariable : String := "WASM_INSPECT_CONFIG"

def readFile (path : String) : IO (Except String (List UInt8)) := do
  try
    return .ok (← IO.FS.readBinFile path).toList
  catch
    | .noFileOrDirectory .. => return .error "No such file or directory (os error 2)"
    | cause => return .error (toString cause)

/-- The contents of some files, read beforehand. -/
def readFiles (paths : List String) : IO Files := do
  let contents ← paths.mapM fun path => return (path, ← readFile path)
  return fun path => (contents.lookup path).getD (.error "file was not read")

/-- The report of a command. A command that has none never comes this far. -/
def reported : Option Report → IO Report
  | some r => return r
  | none => throw (IO.userError "there is no report")

/-- Plans a request, and then carries it out by the clock. -/
def perform (translate : Translator) (r : Request) : IO (Report × Nat) := do
  let files ← readFiles r.paths
  match ← IO.lazyPure fun _ => plan ⟨files, translate⟩ r with
  | .error stop => return (← reported (report (.error stop)), 0)
  | .ok ready =>
    let start ← IO.monoNanosNow
    let done ← IO.lazyPure fun _ => report ready.carryOut
    return (← reported done, (← IO.monoNanosNow) - start)

def printReport (r : Report) (nanos : Nat) : IO Unit := do
  let measured := toString nanos
  for line in r.output do
    IO.println (line.render measured)
  if !r.causes.isEmpty then
    IO.eprintln "Error:"
  for (line, number) in r.causes.zipIdx do
    IO.eprintln ("   " ++ toString number ++ ": " ++ line.render measured)
  for note in r.notes do
    IO.eprintln ("Note: " ++ note)
  if r = .misuse then
    IO.eprintln "the command line is not understood; try `--help`"

/-- Carries out the command line and answers its exit code. -/
def start (translate : Translator) (args : List String) : IO UInt32 := do
  let (report, nanos) ← match Request.parse (← IO.getEnv configVariable) args with
    | .ok r => perform translate r
    | .error r => pure (r.report, 0)
  printReport report nanos
  return UInt32.ofNat report.exit

end WasmLens.Cli
