import WasmLens.Cli.Report
import WasmLens.Cli.Request
import WasmLens.Config.Text
import WasmLens.Session.Invocation
import WasmLens.Text.Quoted
import WasmLens.Value.Text

/-!
# Running commands

What each command does with its module. Files are read by whoever runs the command; here they are a
function from paths to contents. Modules come in binary form or as text, and text is translated to binary
form by a function that is given along with the files.
-/
namespace WasmLens.Cli

/-- The contents of files, or why they cannot be read. -/
abbrev Files := String → Except String (List UInt8)

/-- Translates a module as text to binary form, or says what is wrong with the text. What it says may name
the path of the file. -/
abbrev Translator := (path : String) → List UInt8 → Except String (List UInt8)

/-- What commands need from outside. -/
structure Host where
  files : Files
  translate : Translator

/-- Why a command stops before its end. -/
inductive Stop where
  | failed (f : Report.Failure)
  | aborted
  /-- Code of the module never ends, and so nothing is ever reported. -/
  | endless

abbrev Task := Except Stop

def fail {α : Type} (s : String) : Task α := throw (.failed (.ofText s))

def tick (s : String) : String := "`" ++ s ++ "`"

/-- A failure of the library, with what was going on around it. -/
def orFail {α : Type} (outer : List String) : Except Error α → Task α
  | .ok a => .ok a
  | .error cause =>
    .error (.failed (outer.foldr (fun s f => f.within s) (Report.Failure.ofText cause.message)))

/-! ## Reading files -/

def textOf? (bytes : List UInt8) : Option String := String.fromUTF8? bytes.toByteArray

/-- The configuration of a request. -/
def readConfig (files : Files) : Option String → Task Config
  | none => .ok {}
  | some path =>
    match files path with
    | .error cause => fail ("failed to read configuration file: " ++ cause)
    | .ok bytes =>
      match textOf? bytes with
      | none => fail "failed to read configuration file: stream did not contain valid UTF-8"
      | some text =>
        match Config.ofToml text with
        | .ok c => .ok c
        | .error (.malformed) => fail ("in " ++ path ++ ": " ++ Config.TextError.malformed.message)
        | .error (.inconsistent cause) =>
          fail ("in " ++ path ++ ": " ++ (Error.unsupported cause.message).message)

/-- The first bytes of every module in binary form. -/
def magic : List UInt8 := [0x00, 0x61, 0x73, 0x6d]

/-- The module in a file, in binary form. -/
def readModule (h : Host) (path : String) : Task (List UInt8) :=
  let outer := "failed to read " ++ tick path
  match h.files path with
  | .error cause =>
    .error (.failed ⟨[.text outer, .text ("failed to read from " ++ tick path), .text cause], []⟩)
  | .ok bytes =>
    if bytes.take magic.length = magic then .ok bytes
    else
      match h.translate path bytes with
      | .ok bytes => .ok bytes
      | .error cause => .error (.failed ⟨[.text outer, .text cause], []⟩)

/-! ## Steps that commands share -/

/-- Compiles the module at a path and declares what it imports. -/
def declare (h : Host) (r : Request) (path : String) : Task Session := do
  let config ← readConfig h.files r.config
  let bytes ← readModule h path
  let s ← orFail ["failed to compile " ++ tick path] (Session.compile config bytes)
  let (s, memory) := s.declareMemory
  match memory with
  | .error .unaddressable => throw .aborted
  | .error (.refused cause) => orFail [] (.error cause)
  | .ok _ =>
    let (s, globals) := s.declareGlobals
    orFail [] globals
    return s

/-- Waits for what code of the module gives. -/
def await {α : Type} : Option α → Task α
  | some a => .ok a
  | none => .error .endless

def instantiate (s : Session) : Task Session := do
  let (s, result) ← await s.instantiate
  orFail [] result
  return s

/-- How a function is called in a list: by its export, or else by its name for debugging. -/
def label (e : Session.FunctionEntry) : String :=
  match e.name, e.debugName with
  | some name, _ => name
  | none, some name => "(" ++ name ++ ")"
  | none, none => "-"

/-! ## Listing functions -/

def padRight (width : Nat) (s : String) : String := s ++ String.ofList (List.replicate (width - s.length) ' ')

def padLeft (width : Nat) (s : String) : String := String.ofList (List.replicate (width - s.length) ' ') ++ s

def row (index name signature size : String) : String :=
  padLeft 5 index ++ "  " ++ padRight 24 name ++ " " ++ padRight 36 signature ++ " " ++ padLeft 10 size

def entryRow (e : Session.FunctionEntry) : String :=
  row (toString e.index) (label e) e.signature.text (toString e.code.length)

def functions (s : Session) : List Line :=
  .text (row "index" "name" "signature" "code size") :: s.catalog.entries.map (.text ∘ entryRow)

/-! ## Dumping code -/

def bytesPerLine : Nat := 16

/-- A byte as two digits. -/
def hexByte (b : UInt8) : String :=
  let digits := Text.hex b.toNat
  if b.toNat < 16 then "0" ++ digits else digits

/-- An offset as eight digits or more. -/
def hexOffset (n : Nat) : String :=
  let digits := Text.hex n
  String.ofList (List.replicate (8 - digits.length) '0') ++ digits

/-- Bytes in lines of sixteen, each with the offset of its first byte. -/
def hexLines (offset : Nat) (bytes : List UInt8) : List Line :=
  match bytes with
  | [] => []
  | b :: rest =>
    let here := (b :: rest).take bytesPerLine
    .text ("  " ++ hexOffset offset ++ ": " ++ String.intercalate " " (here.map hexByte))
      :: hexLines (offset + bytesPerLine) (rest.drop (bytesPerLine - 1))
termination_by bytes.length
decreasing_by simp only [List.length_drop, List.length_cons]; omega

/-- A function, its code, and an empty line. -/
def dumpEntry (e : Session.FunctionEntry) : List Line :=
  .text ("function " ++ toString e.index ++ " " ++ label e ++ ": " ++ e.signature.text ++ " ("
      ++ toString e.code.length ++ " bytes at 0x" ++ Text.hex e.range.entry ++ ")")
    :: hexLines e.range.entry e.code ++ [.text ""]

/-- Whether a function goes by a name, as any of its exports or for debugging. -/
def answersTo (s : Session) (name : String) (e : Session.FunctionEntry) : Bool :=
  (s.catalog.get? name).any (·.index = e.index) || e.debugName = some name

def dump (s : Session) : Option String → Task (List Line)
  | none => .ok (s.catalog.entries.flatMap dumpEntry)
  | some name =>
    match s.catalog.entries.filter (answersTo s name) with
    | [] => fail ("no function named " ++ tick name)
    | entries => .ok (entries.flatMap dumpEntry)

/-! ## Calling a function -/

/-- Reads a value of a type, with what is being read around the failure. -/
def readValue (outer : String) (t : ValueType) (raw : String) : Task Value :=
  match Value.read t raw with
  | .ok v => .ok v
  | .error cause => .error (.failed ((Report.Failure.ofText cause.message).within outer))

/-- Sets an imported global. Its type is that of the first global of the name. -/
def assign (s : Session) (name raw : String) : Task Session :=
  match s.globalImports.find? (·.name = name) with
  | none => fail ("module imports no global named " ++ tick name)
  | some g => do
    let v ← readValue ("invalid value for " ++ tick name) g.type raw
    let (s, result) := s.setGlobal name v
    orFail [] result
    return s

/-- Reads the arguments of a call, the first of which has a number. -/
def readArguments : (number : Nat) → List ValueType → List String → Task (List Value)
  | number, t :: types, raw :: rest => do
    let v ← readValue ("invalid argument #" ++ toString number) t raw
    return v :: (← readArguments (number + 1) types rest)
  | _, _, _ => .ok []

/-- A call that is ready to be made. -/
structure Call where
  session : Session
  name : String
  function : Nat
  args : List Value

/-- A call of an exported function with arguments as text. -/
def prepareCall (s : Session) (name : String) (args : List String) : Task Call :=
  match s.catalog.get? name with
  | none => fail ("module exports no function named " ++ tick name)
  | some e => do
    let params := e.signature.params
    if params.length ≠ args.length then
      throw (.failed
        ⟨[.text (tick name ++ " takes " ++ toString params.length ++ " arguments but "
          ++ toString args.length ++ " were given")], ["signature: " ++ e.signature.text]⟩)
    return ⟨s, name, e.index, ← readArguments 0 params args⟩

/-- Makes a call, and shows its results and the time it took. -/
def Call.make (c : Call) : Task (List Line) := do
  let (_, result) ← await (c.session.invoke c.function c.args)
  let invocation ← orFail [] result
  if invocation.success then
    return invocation.results.map (fun v => .text v.text) ++ [.elapsed invocation.elapsedNanos?]
  else throw (.failed ⟨[.trapped c.name invocation.elapsedNanos?], []⟩)

/-! ## Commands -/

/-- What a command comes down to: some lines, or a call that is to be made and timed. -/
inductive Plan where
  | print (lines : List Line)
  | call (c : Call)

/-- Everything that a command does before it prints or calls. -/
def plan (h : Host) (r : Request) : Task Plan := do
  match r.command with
  | .functions path => return .print (functions (← instantiate (← declare h r path)))
  | .dump path name => return .print (← dump (← instantiate (← declare h r path)) name)
  | .invoke path name args globals =>
    let declared ← declare h r path
    let assigned ← globals.foldlM (fun s (name, raw) => assign s name raw) declared
    return .call (← prepareCall (← instantiate assigned) name args)

def Plan.carryOut : Plan → Task (List Line)
  | .print lines => .ok lines
  | .call c => c.make

/-- How a command ends that has come this far; `none` if it does not end. -/
def report : Task (List Line) → Option Report
  | .ok output => some (.success output)
  | .error (.failed f) => some (.failure f)
  | .error .aborted => some .abort
  | .error .endless => none

/-- The files that a request reads. -/
def Request.paths (r : Request) : List String :=
  r.config.toList ++
    match r.command with
    | .functions path | .dump path _ | .invoke path _ _ _ => [path]

/-! ## Help -/

def versionText : String := "inspect 0.1.0"

def helpText : List String :=
  ["Compile WebAssembly modules and look at what the engine made of them",
    "",
    "Usage: wasm-inspect [OPTIONS] <COMMAND>",
    "",
    "Commands:",
    "  functions  Lists every compiled function of a module",
    "  dump       Prints the machine code generated for each function",
    "  invoke     Instantiates a module and calls one of its exported functions",
    "  help       Print this message or the help of the given subcommand(s)",
    "",
    "Options:",
    "  -v, --verbose...       Enables verbose logging",
    "      --config <CONFIG>  Path to the engine configuration file, in TOML",
    "  -h, --help             Print help",
    "  -V, --version          Print version"]

def Refusal.report : Refusal → Report
  | .misuse => .misuse
  | .help => .success (helpText.map .text)
  | .version => .success [.text versionText]

/-- Carries out a command line, which may take forever. -/
def run (environment : Option String) (h : Host) (words : List String) : Option Report :=
  match Request.parse environment words with
  | .ok r => report (plan h r >>= Plan.carryOut)
  | .error r => some r.report

end WasmLens.Cli
