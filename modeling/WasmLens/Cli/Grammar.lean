/-!
# Command line grammar

How the words of a command line are taken apart: switches with one or two dashes, values that are
attached to a switch or follow it, and positional words. The last positional word of a command may
repeat, and what looks like a switch can be one of those words: `-1` is a number wherever no switch
is called `-1`, and behind the first repeated word everything is a word.
-/
namespace WasmLens.Cli

inductive Switch where
  | verbose
  | config
  | function
  | global
  | help
  | version
  deriving Repr, DecidableEq

namespace Switch

def takesValue : Switch → Bool
  | .config | .function | .global => true
  | .verbose | .help | .version => false

def long : Switch → String
  | .verbose => "verbose"
  | .config => "config"
  | .function => "function"
  | .global => "global"
  | .help => "help"
  | .version => "version"

def short? : Switch → Option Char
  | .verbose => some 'v'
  | .function => some 'f'
  | .help => some 'h'
  | .version => some 'V'
  | .config | .global => none

end Switch

/-- Positional words of a command: `single` ones first, and whether any number follows them. -/
structure Grammar where
  switches : List Switch
  single : Nat
  repeats : Bool

namespace Grammar

def long? (g : Grammar) (name : String) : Option Switch := g.switches.find? (·.long = name)

def short? (g : Grammar) (c : Char) : Option Switch := g.switches.find? (·.short? = some c)

end Grammar

/-- What the parser is in the middle of. -/
inductive Mode where
  | between
  /-- The switch needs a value. -/
  | awaiting (s : Switch)
  /-- The last word was one of the repeated ones. -/
  | repeating
  deriving Repr, DecidableEq

/-- What has been found in the words of one command. -/
structure Found where
  mode : Mode := .between
  /-- Whether all further words are positional. -/
  isFree : Bool := false
  verbosity : Nat := 0
  config : Option String := none
  function : Option String := none
  globals : List (String × String) := []
  words : List String := []
  deriving Repr, DecidableEq

/-- Why a command line is not carried out. -/
inductive Refusal where
  | misuse
  | help
  | version
  deriving Repr, DecidableEq

/-! ## Words -/

/-- The parts before and behind the first equals sign. -/
def splitAtEquals (cs : List Char) : List Char × Option (List Char) :=
  (cs.takeWhile (· ≠ '='), (cs.dropWhile (· ≠ '=')).tail?)

inductive Word where
  /-- Two dashes alone. -/
  | escape
  | long (name : String) (value : Option String)
  | short (letters : List Char)
  | plain

def Word.classify (s : String) : Word :=
  match s.toList with
  | ['-', '-'] => .escape
  | '-' :: '-' :: rest =>
    let (name, value) := splitAtEquals rest
    .long (String.ofList name) (value.map String.ofList)
  | '-' :: c :: rest => .short (c :: rest)
  | _ => .plain

/-- An assignment, a name and a value around the first equals sign. -/
def assignment? (s : String) : Option (String × String) :=
  match splitAtEquals s.toList with
  | (name, some value) => some (String.ofList name, String.ofList value)
  | (_, none) => none

namespace Found

/-- Whether the next positional word is one that repeats. -/
def atRepeated (f : Found) (g : Grammar) : Bool := g.repeats && g.single ≤ f.words.length

/-! ## Taking words -/

/-- The value of a switch. A path cannot be empty, and only assignments can be given twice. -/
def setValue (f : Found) (s : Switch) (value : String) : Except Refusal Found :=
  let f := { f with mode := .between }
  match s with
  | .config =>
    if value.isEmpty || f.config.isSome then .error .misuse else .ok { f with config := some value }
  | .function => if f.function.isSome then .error .misuse else .ok { f with function := some value }
  | .global =>
    match assignment? value with
    | some a => .ok { f with globals := f.globals ++ [a] }
    | none => .error .misuse
  | _ => .error .misuse

/-- A switch without a value of its own. -/
def setFlag (f : Found) (s : Switch) : Except Refusal Found :=
  match f.mode, s with
  | .awaiting _, _ => .error .misuse
  | _, .verbose => .ok { f with mode := .between, verbosity := f.verbosity + 1 }
  | _, .help => .error .help
  | _, .version => .error .version
  | _, _ => .error .misuse

/-- A switch that needs a value, which is attached to it or comes next. -/
def openValue (f : Found) (s : Switch) (attached : Option String) : Except Refusal Found :=
  match attached, f.mode with
  | _, .awaiting _ => .error .misuse
  | some value, _ => f.setValue s value
  | none, _ => .ok { f with mode := .awaiting s }

/-- A positional word. The first one is a path and cannot be empty. -/
def addWord (f : Found) (g : Grammar) (s : String) : Except Refusal Found :=
  if f.words.isEmpty && s.isEmpty then .error .misuse
  else if f.words.length < g.single then .ok { f with mode := .between, words := f.words ++ [s] }
  else if g.repeats then .ok { f with mode := .repeating, words := f.words ++ [s] }
  else .error .misuse

/-- A word that is the value of a waiting switch, or else positional. -/
def addPlain (f : Found) (g : Grammar) (s : String) : Except Refusal Found :=
  match f.mode with
  | .awaiting switch => f.setValue switch s
  | _ => f.addWord g s

/-- Letters behind one dash: flags, and at most one switch with a value, which takes the rest. -/
def addLetters (f : Found) (g : Grammar) : List Char → Except Refusal Found
  | [] => .ok f
  | c :: rest =>
    match g.short? c with
    | none => .error .misuse
    | some s =>
      if s.takesValue then
        match rest with
        | [] => f.openValue s none
        | '=' :: value => f.openValue s (some (String.ofList value))
        | value => f.openValue s (some (String.ofList value))
      else
        match f.setFlag s with
        | .ok f => addLetters f g rest
        | .error r => .error r

/-- The next word of a command. -/
def add (f : Found) (g : Grammar) (s : String) : Except Refusal Found :=
  if f.isFree || f.mode = .repeating then f.addWord g s
  else
    match Word.classify s with
    | .escape =>
      match f.mode with
      | .awaiting _ => .error .misuse
      | _ => .ok { f with isFree := true }
    | .long name value =>
      match g.long? name, value with
      | some switch, value =>
        if switch.takesValue then f.openValue switch value
        else if value.isSome then .error .misuse
        else f.setFlag switch
      | none, _ => if f.atRepeated g then f.addPlain g s else .error .misuse
    | .short letters =>
      if f.atRepeated g && letters.any fun c => (g.short? c).isNone then f.addPlain g s
      else f.addLetters g letters
    | .plain => f.addPlain g s

/-- At the end no switch waits for its value, and no positional word is missing. -/
def finish (f : Found) (g : Grammar) : Except Refusal Found :=
  match f.mode with
  | .awaiting _ => .error .misuse
  | _ => if f.words.length < g.single then .error .misuse else .ok f

end Found

/-- Takes apart all words of a command. -/
def Grammar.parse (g : Grammar) (words : List String) : Except Refusal Found := do
  let found ← words.foldlM (fun (f : Found) s => f.add g s) {}
  found.finish g

end WasmLens.Cli
