import WasmLens.Cli.Grammar

/-!
# Requests

The three commands and what each is asked to do. Switches that every command knows may stand on
either side of the command's name.
-/
namespace WasmLens.Cli

inductive Command where
  /-- Lists the functions of a module. -/
  | functions (path : String)
  /-- Prints the code of all functions, or of those with one name. -/
  | dump (path : String) (function : Option String)
  /-- Sets imported globals, instantiates a module and calls one of its functions. -/
  | invoke (path export_ : String) (args : List String) (globals : List (String × String))
  deriving Repr, DecidableEq

structure Request where
  config : Option String
  verbosity : Nat
  command : Command
  deriving Repr, DecidableEq

/-- The name of a command. -/
inductive Topic where
  | functions
  | dump
  | invoke
  deriving Repr, DecidableEq

namespace Topic

def all : List Topic := [.functions, .dump, .invoke]

def name : Topic → String
  | .functions => "functions"
  | .dump => "dump"
  | .invoke => "invoke"

def ofName? (s : String) : Option Topic := all.find? (·.name = s)

def grammar : Topic → Grammar
  | .functions => ⟨[.verbose, .config, .help], 1, false⟩
  | .dump => ⟨[.verbose, .config, .help, .function], 1, false⟩
  | .invoke => ⟨[.verbose, .config, .help, .global], 2, true⟩

/-- The command that was found. Its grammar has seen to it that all words are there. -/
def command? (t : Topic) (f : Found) : Option Command :=
  match t, f.words with
  | .functions, [path] => some (.functions path)
  | .dump, [path] => some (.dump path f.function)
  | .invoke, path :: export_ :: args => some (.invoke path export_ args f.globals)
  | _, _ => none

end Topic

/-- What stands before the name of a command. -/
def commonGrammar : Grammar := ⟨[.verbose, .config, .help, .version], 0, false⟩

/-- The name of the command that only explains the others. -/
def helpName : String := "help"

/-- The environment may stand in for a configuration that is not given, and then it must name one. -/
def checkEnvironment (environment given : Option String) : Except Refusal Unit :=
  if given.isNone && environment = some "" then .error .misuse else .ok ()

/-- The words behind the name of a command. A configuration that is named there wins over one that
is named before the command, and that one over the environment. -/
def parseCommand (environment : Option String) (before : Found) (t : Topic) (words : List String) :
    Except Refusal Request := do
  let found ← t.grammar.parse words
  checkEnvironment environment found.config
  checkEnvironment environment before.config
  match t.command? found with
  | some command =>
    return ⟨found.config <|> before.config <|> environment, before.verbosity + found.verbosity, command⟩
  | none => throw .misuse

/-- The words behind the request for help: one command, or none. -/
def parseHelp : List String → Refusal
  | [] => .help
  | [name] => if (Topic.ofName? name).isSome || name = helpName then .help else .misuse
  | _ => .misuse

/-- The words from the first one on that may be the name of a command. -/
def parseFrom (environment : Option String) (before : Found) : List String → Except Refusal Request
  | [] => .error .misuse
  | word :: words =>
    if before.isFree || before.mode ≠ .between then
      (before.add commonGrammar word).bind fun f => parseFrom environment f words
    else if word = helpName then .error (parseHelp words)
    else
      match Topic.ofName? word with
      | some t => parseCommand environment before t words
      | none => (before.add commonGrammar word).bind fun f => parseFrom environment f words

/-- Takes a command line apart. The configuration may also be named by the environment. -/
def Request.parse (environment : Option String) (words : List String) : Except Refusal Request :=
  parseFrom environment {} words

end WasmLens.Cli
