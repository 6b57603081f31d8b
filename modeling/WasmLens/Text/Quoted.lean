import WasmLens.Text.Unprintable

/-!
# Quoted text and records

How names and structured values are shown: text between double quotes with everything escaped that
could not be seen, and records as a name and fields between braces.
-/
namespace WasmLens.Text

/-- Lower-case hexadecimal digits. -/
def hex (n : Nat) : String := String.ofList (Nat.toDigits 16 n)

/-- One character inside double quotes. -/
def escape (c : Char) : String :=
  match c with
  | '\x00' => "\\0"
  | '\t' => "\\t"
  | '\r' => "\\r"
  | '\n' => "\\n"
  | '"' => "\\\""
  | '\\' => "\\\\"
  | c => if isUnprintable c then "\\u\x7b" ++ hex c.toNat ++ "\x7d" else c.toString

def quoted (s : String) : String := "\"" ++ String.join (s.toList.map escape) ++ "\""

/-- An optional text, quoted. -/
def quotedOption : Option String → String
  | none => "None"
  | some s => "Some(" ++ quoted s ++ ")"

def list (items : List String) : String := "[" ++ String.intercalate ", " items ++ "]"

/-- Named fields, separated by commas. -/
def fields (fs : List (String × String)) : String :=
  String.intercalate ", " (fs.map fun (name, value) => name ++ ": " ++ value)

/-- A record with all its fields. -/
def record (name : String) (fs : List (String × String)) : String :=
  name ++ " \x7b " ++ fields fs ++ " \x7d"

/-- A record that has more fields than are shown. -/
def openRecord (name : String) (fs : List (String × String)) : String :=
  name ++ " \x7b " ++ fields fs ++ ", .. \x7d"

end WasmLens.Text
