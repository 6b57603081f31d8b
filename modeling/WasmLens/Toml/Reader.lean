import WasmLens.Toml.Node

/-!
# Reading TOML

The grammar of TOML 1.1 on a list of characters. Every reader takes the text and answers with what
it read and the rest of the text, or with `none` if the text is not of its form. Readers that call
themselves carry a bound on the number of calls; `read` starts them with more than the text has
characters, and each call takes at least one.
-/
namespace WasmLens.Toml

abbrev Reader (α : Type) := List Char → Option (α × List Char)

/-! ## Characters and blanks -/

def isBlank (c : Char) : Bool := c = ' ' || c = '\t'

/-- Characters that comments and strings may hold: all but the controls, and the tab. -/
def isPrintable (c : Char) : Bool := c = '\t' || (' ' ≤ c && c ≠ '\x7f')

def skipBlanks (text : List Char) : List Char := text.dropWhile isBlank

/-- A line feed, or a carriage return and a line feed. -/
def newline : Reader Unit
  | '\n' :: rest => some ((), rest)
  | '\r' :: '\n' :: rest => some ((), rest)
  | _ => none

/-- Leaves out a comment, up to the end of its line. -/
def skipComment : List Char → List Char
  | '#' :: rest => rest.dropWhile isPrintable
  | text => text

/-- Leaves out blanks, comments and line ends, as allowed inside brackets and braces. -/
def skipLines : (calls : Nat) → List Char → List Char
  | 0, text => text
  | calls + 1, text =>
    let text := skipComment (skipBlanks text)
    match newline text with
    | some ((), rest) => skipLines calls rest
    | none => text

/-- A line may end in blanks and a comment; after it stands a line end or nothing. -/
def endOfLine (text : List Char) : Option (List Char) :=
  match skipComment (skipBlanks text) with
  | [] => some []
  | rest => (newline rest).map (·.2)

/-! ## Strings -/

def hexDigit? (c : Char) : Option Nat :=
  if c.isDigit then some (c.toNat - '0'.toNat)
  else if 'a' ≤ c ∧ c ≤ 'f' then some (c.toNat - 'a'.toNat + 10)
  else if 'A' ≤ c ∧ c ≤ 'F' then some (c.toNat - 'A'.toNat + 10)
  else none

/-- The scalar value that exactly `count` hexadecimal digits name. -/
def hexScalar (count : Nat) (text : List Char) : Option (Char × List Char) := do
  let digits ← (text.take count).mapM hexDigit?
  if digits.length ≠ count then none
  let code := digits.foldl (fun n d => n * 16 + d) 0
  if code.isValidChar then some (Char.ofNat code, text.drop count) else none

/-- What follows a backslash. -/
def escape : Reader Char
  | 'b' :: rest => some ('\x08', rest)
  | 't' :: rest => some ('\t', rest)
  | 'n' :: rest => some ('\n', rest)
  | 'f' :: rest => some ('\x0c', rest)
  | 'r' :: rest => some ('\r', rest)
  | 'e' :: rest => some ('\x1b', rest)
  | '"' :: rest => some ('"', rest)
  | '\\' :: rest => some ('\\', rest)
  | 'x' :: rest => hexScalar 2 rest
  | 'u' :: rest => hexScalar 4 rest
  | 'U' :: rest => hexScalar 8 rest
  | _ => none

/-- The rest of a string after its opening quote, on one line. -/
def basicString : (calls : Nat) → Reader (List Char)
  | 0, _ => none
  | _ + 1, '"' :: rest => some ([], rest)
  | calls + 1, '\\' :: rest => do
    let (c, rest) ← escape rest
    let (cs, rest) ← basicString calls rest
    some (c :: cs, rest)
  | calls + 1, c :: rest => do
    if !isPrintable c then none
    let (cs, rest) ← basicString calls rest
    some (c :: cs, rest)
  | _, [] => none

/-- The rest of a literal string after its opening quote: nothing is escaped in it. -/
def literalString (text : List Char) : Option (List Char × List Char) :=
  match text.dropWhile fun c => c ≠ '\'' && isPrintable c with
  | '\'' :: rest => some (text.takeWhile fun c => c ≠ '\'' && isPrintable c, rest)
  | _ => none

/-- The end of a string over several lines: three quotes close it, and up to two before them belong
to its text. -/
def closing (quote : Char) (text : List Char) : Option (List Char × List Char) :=
  let run := (text.takeWhile (· = quote)).length
  if 3 ≤ run ∧ run ≤ 5 then some (List.replicate (run - 3) quote, text.drop run) else none

/-- After a backslash at the end of a line, blanks and line ends are left out up to the next
character. -/
def skipFold : (calls : Nat) → List Char → List Char
  | 0, text => text
  | calls + 1, text =>
    let text := skipBlanks text
    match newline text with
    | some ((), rest) => skipFold calls rest
    | none => text

/-- The rest of a string over several lines; `escapes` tells a basic string from a literal one. -/
def longString (quote : Char) (escapes : Bool) : (calls : Nat) → Reader (List Char)
  | 0, _ => none
  | _, [] => none
  | calls + 1, c :: rest =>
    if c = quote then
      match closing quote (c :: rest) with
      | some found => some found
      | none =>
        if (rest.takeWhile (· = quote)).length < 2 then
          (longString quote escapes calls rest).map fun (cs, rest) => (c :: cs, rest)
        else none
    else if escapes && c = '\\' then
      match newline (skipBlanks rest) with
      | some ((), rest) => longString quote escapes calls (skipFold (rest.length + 1) rest)
      | none => do
        let (d, rest) ← escape rest
        let (cs, rest) ← longString quote escapes calls rest
        some (d :: cs, rest)
    else match newline (c :: rest) with
      | some ((), rest) => (longString quote escapes calls rest).map fun (cs, rest) => ('\n' :: cs, rest)
      | none =>
        if isPrintable c then
          (longString quote escapes calls rest).map fun (cs, rest) => (c :: cs, rest)
        else none

/-- A line end right after the opening quotes is left out. -/
def skipFirstNewline (text : List Char) : List Char :=
  match newline text with
  | some ((), rest) => rest
  | none => text

/-- A string in any of the four notations. -/
def string (text : List Char) : Option (String × List Char) :=
  let calls := text.length + 1
  let made (found : Option (List Char × List Char)) := found.map fun (cs, rest) => (String.ofList cs, rest)
  match text with
  | '"' :: '"' :: '"' :: rest => made (longString '"' true calls (skipFirstNewline rest))
  | '\'' :: '\'' :: '\'' :: rest => made (longString '\'' false calls (skipFirstNewline rest))
  | '"' :: rest => made (basicString calls rest)
  | '\'' :: rest => made (literalString rest)
  | _ => none

/-! ## Keys -/

def isBare (c : Char) : Bool := c.isAlphanum || c = '_' || c = '-'

/-- One part of a key: bare, or quoted on one line. -/
def simpleKey (text : List Char) : Option (String × List Char) :=
  match text with
  | '"' :: rest => (basicString (text.length + 1) rest).map fun (cs, rest) => (String.ofList cs, rest)
  | '\'' :: rest => (literalString rest).map fun (cs, rest) => (String.ofList cs, rest)
  | _ =>
    match text.takeWhile isBare with
    | [] => none
    | bare => some (String.ofList bare, text.dropWhile isBare)

/-- A key of one or more parts with dots between them. -/
def key : (calls : Nat) → Reader (List String)
  | 0, _ => none
  | calls + 1, text => do
    let (part, rest) ← simpleKey text
    match skipBlanks rest with
    | '.' :: rest =>
      let (parts, rest) ← key calls (skipBlanks rest)
      some (part :: parts, rest)
    | _ => some ([part], rest)

/-! ## Numbers -/

/-- Digits of a base with single underscores between them, as their values. -/
def digits (digit? : Char → Option Nat) : List Char → Option (List Nat)
  | [] => none
  | [c] => (digit? c).map ([·])
  | c :: '_' :: rest => do return (← digit? c) :: (← digits digit? rest)
  | c :: rest => do return (← digit? c) :: (← digits digit? rest)

def ofDigits (base : Nat) (ds : List Nat) : Nat := ds.foldl (fun n d => n * base + d) 0

def digitBelow (base : Nat) (c : Char) : Option Nat :=
  (hexDigit? c).filter (· < base)

/-- A decimal number: no leading zero before other digits. -/
def decimal (text : List Char) : Option Nat := do
  let ds ← digits (digitBelow 10) text
  if ds.head? = some 0 ∧ 1 < ds.length then none else some (ofDigits 10 ds)

/-- An integer: decimal with an optional sign, or unsigned in base sixteen, eight or two. -/
def integer (text : List Char) : Option Int :=
  match text with
  | '0' :: 'x' :: rest => (digits (digitBelow 16) rest).map fun ds => Int.ofNat (ofDigits 16 ds)
  | '0' :: 'o' :: rest => (digits (digitBelow 8) rest).map fun ds => Int.ofNat (ofDigits 8 ds)
  | '0' :: 'b' :: rest => (digits (digitBelow 2) rest).map fun ds => Int.ofNat (ofDigits 2 ds)
  | '+' :: rest => (decimal rest).map Int.ofNat
  | '-' :: rest => (decimal rest).map fun n => -(n : Int)
  | _ => (decimal text).map Int.ofNat

/-- Characters that a number or a word runs through. -/
def isWordChar (c : Char) : Bool := isBare c || c = '+' || c = '.' || c = ':'

/-! ## Values -/

/-- A truth value or a number. -/
def word (text : List Char) : Option (Node × List Char) :=
  let run := text.takeWhile isWordChar
  let rest := text.dropWhile isWordChar
  match String.ofList run with
  | "true" => some (.boolean true, rest)
  | "false" => some (.boolean false, rest)
  | _ => (integer run).map fun n => (.integer n, rest)

mutual

def value : (calls : Nat) → Reader Node
  | 0, _ => none
  | calls + 1, text =>
    match text with
    | '{' :: rest => (entries calls [] rest).map fun (es, rest) => (.table .inline es, rest)
    | '[' :: rest => (items calls rest).map fun (ns, rest) => (.array ns, rest)
    | '"' :: _ | '\'' :: _ => (string text).map fun (s, rest) => (.string s, rest)
    | _ => word text

/-- What is left of an array after its bracket or one of its commas. -/
def items : (calls : Nat) → Reader (List Node)
  | 0, _ => none
  | calls + 1, text =>
    match skipLines (text.length + 1) text with
    | ']' :: rest => some ([], rest)
    | text => do
      let (node, rest) ← value calls text
      match skipLines (rest.length + 1) rest with
      | ',' :: rest =>
        let (nodes, rest) ← items calls rest
        some (node :: nodes, rest)
      | ']' :: rest => some ([node], rest)
      | _ => none

/-- What is left of an inline table after its brace or one of its commas. -/
def entries : (calls : Nat) → Entries → Reader Entries
  | 0, _, _ => none
  | calls + 1, known, text =>
    match skipLines (text.length + 1) text with
    | '}' :: rest => some (known, rest)
    | text => do
      let (path, rest) ← key (text.length + 1) text
      let '=' :: rest := skipBlanks rest | none
      let (node, rest) ← value calls (skipBlanks rest)
      let known ← Entries.define node path known
      match skipLines (rest.length + 1) rest with
      | ',' :: rest => entries calls known rest
      | '}' :: rest => some (known, rest)
      | _ => none

end

/-! ## Documents -/

/-- A document while it is read: what is known, and the table that keys go into. -/
structure Progress where
  root : Entries := []
  header : List String := []

/-- A header in brackets. -/
def header (text : List Char) : Option (List String × List Char) := do
  let (path, rest) ← key (text.length + 1) (skipBlanks text)
  let ']' :: rest := skipBlanks rest | none
  some (path, rest)

/-- A key, an equals sign and a value. -/
def assignment (text : List Char) : Option ((List String × Node) × List Char) := do
  let (path, rest) ← key (text.length + 1) text
  let '=' :: rest := skipBlanks rest | none
  let (node, rest) ← value (rest.length + 1) (skipBlanks rest)
  some ((path, node), rest)

/-- One line: a header, an assignment, or nothing. A header in double brackets is refused. -/
def statement (p : Progress) (text : List Char) : Option (Progress × List Char) :=
  match skipBlanks text with
  | '[' :: rest => do
    let (path, rest) ← header rest
    some (⟨← p.root.openTable path, path⟩, rest)
  | text =>
    match skipComment text with
    | [] => some (p, [])
    | c :: rest =>
      if (newline (c :: rest)).isSome then some (p, c :: rest)
      else do
        let ((path, node), rest) ← assignment text
        some ({ p with root := ← p.root.defineIn path node p.header }, rest)

def statements : (calls : Nat) → Progress → List Char → Option Entries
  | 0, _, _ => none
  | _ + 1, p, [] => some p.root
  | calls + 1, p, text => do
    let (p, rest) ← statement p text
    statements calls p (← endOfLine rest)

/-- Reads a document; a byte order mark before it is left out. -/
def read (text : String) : Option Entries :=
  let text := match text.toList with
    | '\uFEFF' :: rest => rest
    | text => text
  statements (text.length + 1) {} text

end WasmLens.Toml
