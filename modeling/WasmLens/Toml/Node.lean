/-!
# TOML documents as trees

A document is a table, built up statement by statement. Each table remembers how it came to be,
because that decides what later statements may still add to it. Only the values that a settings file
needs have a place here: floats, dates and arrays of tables do not.
-/
namespace WasmLens.Toml

/-- How a table was introduced. -/
inductive Form where
  /-- Written as a value; nothing can be added to it. -/
  | inline
  /-- Named by a header of its own. -/
  | header
  /-- Named only on the way to the header of another table. -/
  | implied
  /-- Made by dotted keys. -/
  | dotted
  deriving Repr, DecidableEq

inductive Node where
  | string (s : String)
  | integer (n : Int)
  | boolean (b : Bool)
  | array (items : List Node)
  | table (form : Form) (entries : List (String × Node))
  deriving Repr, Inhabited

abbrev Entries := List (String × Node)

namespace Entries

def get? (es : Entries) (key : String) : Option Node := es.lookup key

/-- Changes the entry of a key in place, or adds it at the end. The change sees what was there. -/
def alter (key : String) (change : Option Node → Option Node) : Entries → Option Entries
  | [] => (change none).map fun node => [(key, node)]
  | (k, node) :: es =>
    if k = key then (change (some node)).map fun node => (k, node) :: es
    else (alter key change es).map ((k, node) :: ·)

/-- Sets the value of a dotted key. No key is set twice, and only tables that dotted keys made are
extended by them. -/
def define (node : Node) : (path : List String) → Entries → Option Entries
  | [], _ => none
  | [key], es => alter key (fun | none => some node | some _ => none) es
  | key :: path, es =>
    alter key (fun
      | none => (define node path []).map (.table .dotted)
      | some (.table .dotted inner) => (define node path inner).map (.table .dotted)
      | some _ => none) es

/-- Opens the table of a header. A table that was only implied so far may be opened once. -/
def openTable : (path : List String) → Entries → Option Entries
  | [], _ => none
  | [key], es =>
    alter key (fun
      | none => some (.table .header [])
      | some (.table .implied inner) => some (.table .header inner)
      | some _ => none) es
  | key :: path, es =>
    alter key (fun
      | none => (openTable path []).map (.table .implied)
      | some (.table .inline _) => none
      | some (.table form inner) => (openTable path inner).map (.table form)
      | some _ => none) es

/-- Sets a dotted key inside the table of a header. -/
def defineIn (path : List String) (node : Node) : (header : List String) → Entries → Option Entries
  | [], es => define node path es
  | key :: header, es =>
    alter key (fun
      | some (.table form inner) => (defineIn path node header inner).map (.table form)
      | _ => none) es

end Entries

end WasmLens.Toml
