import WasmLens.Proofs.Text.Digits
import WasmLens.Toml.Reader

/-!
# Documents of plain lines

The simplest documents: each line is a bare key, an equals sign with blanks around it, and a string, a truth value or an
unsigned number. Such a document is read as the table of its keys and values, in the order of its lines
(`read_document`).
-/
namespace WasmLens.Toml

open Text

/-! ## Ends of lines -/

/-- What can stand behind a value: nothing, or the end of the line. -/
inductive LineEnd : List Char → Prop
  | nil : LineEnd []
  | newline (more : List Char) : LineEnd ('\n' :: more)

variable {rest : List Char}

/-- A run of characters ends with the line, unless it can have line feeds. -/
theorem LineEnd.stops {p : Char → Bool} (ends : LineEnd rest) (no : p '\n' = false) : Stops p rest := by
  cases ends with
  | nil => exact stops_nil
  | newline more => exact stops_cons no

/-! ## Keys -/

theorem simpleKey_bare {bare : List Char} (nonempty : bare ≠ []) (all : ∀ c ∈ bare, isBare c)
    (stops : Stops isBare rest) : simpleKey (bare ++ rest) = some (String.ofList bare, rest) := by
  obtain ⟨c, cs, rfl⟩ := List.exists_cons_of_ne_nil nonempty
  have first := all c List.mem_cons_self
  unfold simpleKey
  split
  · rename_i eq
    cases eq
    cases first
  · rename_i eq
    cases eq
    cases first
  · rw [takeWhile_run all stops, dropWhile_run all stops]

/-- A bare key in front of an equals sign. -/
theorem key_bare {bare : List Char} (nonempty : bare ≠ []) (all : ∀ c ∈ bare, isBare c) (calls : Nat) :
    key (calls + 1) (bare ++ ' ' :: '=' :: rest) = some ([String.ofList bare], ' ' :: '=' :: rest) := by
  rw [key, simpleKey_bare nonempty all (stops_cons rfl)]
  rfl

/-- A character of a kind without blanks is none. -/
theorem isBlank_eq_false {p : Char → Bool} {c : Char} (kind : p c) (noSpace : p ' ' = false)
    (noTab : p '\t' = false) : isBlank c = false := by
  rw [isBlank, Bool.or_eq_false_iff, decide_eq_false_iff_not, decide_eq_false_iff_not]
  constructor <;> rintro rfl
  · exact Bool.false_ne_true (noSpace.symm.trans kind)
  · exact Bool.false_ne_true (noTab.symm.trans kind)

/-! ## Words -/

theorem word_boolean (on : Bool) (ends : LineEnd rest) :
    word ((toString on).toList ++ rest) = some (.boolean on, rest) := by
  have all : ∀ c ∈ (toString on).toList, isWordChar c := List.all_eq_true.1 (by cases on <;> decide)
  rw [word, takeWhile_run all (ends.stops rfl), dropWhile_run all (ends.stops rfl)]
  cases on <;> rfl

/-- What is no truth value is read as a number. -/
theorem word_number {run : List Char} (all : ∀ c ∈ run, isWordChar c) (ends : LineEnd rest)
    (noTrue : String.ofList run ≠ "true") (noFalse : String.ofList run ≠ "false") :
    word (run ++ rest) = (integer run).map fun n => (.integer n, rest) := by
  rw [word, takeWhile_run all (ends.stops rfl), dropWhile_run all (ends.stops rfl)]
  split
  · exact absurd ‹_› noTrue
  · exact absurd ‹_› noFalse
  · rfl

/-! ## Numbers -/

theorem digitBelow_ten {c : Char} (digit : c.isDigit) : digitBelow 10 c = some (c.toNat - '0'.toNat) := by
  have small : c.toNat - '0'.toNat < 10 := by
    have := toNat_of_isDigit digit
    omega
  rw [digitBelow, hexDigit?, if_pos digit, Option.filter_some, if_pos (decide_eq_true small)]

/-- Digits without underscores are read one by one. -/
theorem digits_run : ∀ {cs : List Char}, cs ≠ [] → (∀ c ∈ cs, c.isDigit) →
    digits (digitBelow 10) cs = some (cs.map fun c => c.toNat - '0'.toNat)
  | [c], _, all => by
    rw [digits, digitBelow_ten (all c List.mem_cons_self)]
    rfl
  | c :: d :: cs, _, all => by
    have next := (List.forall_mem_cons.1 all).2
    have noUnderscore : d ≠ '_' := by
      rintro rfl
      cases next '_' List.mem_cons_self
    rw [digits, digitBelow_ten (all c List.mem_cons_self), digits_run (List.cons_ne_nil d cs) next]
    · rfl
    · exact nofun
    · rintro _ ⟨⟩
      exact noUnderscore rfl

theorem ofDigits_run (cs : List Char) :
    ofDigits 10 (cs.map fun c => c.toNat - '0'.toNat) = Nat.ofDigitChars 10 cs 0 := by
  simp only [ofDigits, List.foldl_map, Nat.ofDigitChars_eq_foldl, Nat.mul_comm]

/-- **The digits of a number** are read as the number: there is no zero in front of others. -/
theorem decimal_toDigits (n : Nat) : decimal (Nat.toDigits 10 n) = some n := by
  obtain ⟨c, cs, eq, first, zero⟩ := head_toDigits n
  have noZero : ¬(((Nat.toDigits 10 n).map fun c => c.toNat - '0'.toNat).head? = some 0 ∧
      1 < ((Nat.toDigits 10 n).map fun c => c.toNat - '0'.toNat).length) := by
    rw [eq]
    rintro ⟨front, many⟩
    have least := toNat_of_isDigit first
    have front : c.toNat - '0'.toNat = 0 := Option.some.inj front
    have isZero : c = '0' := Char.toNat_inj.1 (by omega)
    rw [(zero isZero).2] at many
    exact absurd many (Nat.lt_irrefl 1)
  rw [decimal, digits_run Nat.toDigits_ne_nil isDigit_of_mem_digits]
  show (if _ then none else some _) = _
  rw [if_neg noZero, ofDigits_run, Nat.ofDigitChars_ten_toDigits]

theorem integer_toDigits (n : Nat) : integer (Nat.toDigits 10 n) = some (n : Int) := by
  have read := decimal_toDigits n
  obtain ⟨c, cs, eq, first, zero⟩ := head_toDigits n
  rw [eq] at read ⊢
  -- a prefix of another base has a zero in front of something, and a sign is no digit
  unfold integer
  split <;> rename_i split
  iterate 3
    · cases split
      cases (zero rfl).2
  · cases split
    cases first
  · cases split
    cases first
  · rw [read]
    rfl

theorem word_toDigits (n : Nat) (ends : LineEnd rest) :
    word (Nat.toDigits 10 n ++ rest) = some (.integer n, rest) := by
  have all : ∀ c ∈ Nat.toDigits 10 n, isWordChar c := fun c mem => by
    simp [isWordChar, isBare, Char.isAlphanum, isDigit_of_mem_digits c mem]
  -- a truth value has letters
  have noWord {w : String} (letter : ∃ c ∈ w.toList, c.isDigit = false) : String.ofList (Nat.toDigits 10 n) ≠ w := by
    rintro rfl
    obtain ⟨c, mem, other⟩ := letter
    rw [String.toList_ofList] at mem
    rw [isDigit_of_mem_digits c mem] at other
    cases other
  rw [word_number all ends (noWord ⟨'t', by decide, rfl⟩) (noWord ⟨'f', by decide, rfl⟩), integer_toDigits]
  rfl

/-! ## Values -/

theorem value_word {c : Char} {text : List Char} (calls : Nat) (starts : isWordChar c) :
    value (calls + 1) (c :: text) = word (c :: text) := by
  rw [value] <;> rintro _ ⟨⟩ <;> cases starts

/-- Characters that stand for themselves in a string. -/
def isPlain (c : Char) : Bool := isPrintable c && c ≠ '"' && c ≠ '\\'

theorem basicString_plain : ∀ {cs : List Char} (calls : Nat), (∀ c ∈ cs, isPlain c) → cs.length < calls →
    basicString calls (cs ++ '"' :: rest) = some (cs, rest)
  | [], calls + 1, _, _ => rfl
  | c :: cs, calls + 1, all, enough => by
    obtain ⟨plain, others⟩ := List.forall_mem_cons.1 all
    simp only [isPlain, Bool.and_eq_true, decide_eq_true_eq] at plain
    obtain ⟨⟨printable, noQuote⟩, noBackslash⟩ := plain
    have later := basicString_plain calls others (Nat.lt_of_succ_lt_succ enough)
    rw [List.cons_append, basicString, later, printable]
    · rfl
    · exact noQuote
    · exact noBackslash

/-- **A text that is read as a value**, wherever the line ends behind it. -/
structure Writes (text : List Char) (node : Node) : Prop where
  starts : ∃ c cs, text = c :: cs ∧ isBlank c = false
  reads : ∀ {rest : List Char} (calls : Nat), LineEnd rest → value (calls + 1) (text ++ rest) = some (node, rest)

theorem writes_string {cs : List Char} (nonempty : cs ≠ []) (plain : ∀ c ∈ cs, isPlain c) :
    Writes ('"' :: cs ++ ['"']) (.string (String.ofList cs)) where
  starts := ⟨'"', cs ++ ['"'], rfl, rfl⟩
  reads {rest} calls _ := by
    obtain ⟨c, cs, rfl⟩ := List.exists_cons_of_ne_nil nonempty
    have noQuote : c ≠ '"' := by
      rintro rfl
      cases plain '"' List.mem_cons_self
    have inside : basicString (('"' :: (c :: cs ++ '"' :: rest)).length + 1) (c :: cs ++ '"' :: rest) =
        some (c :: cs, rest) :=
      basicString_plain _ plain (by simp only [List.length_append, List.length_cons]; omega)
    have text : '"' :: (c :: cs) ++ ['"'] ++ rest = '"' :: (c :: cs ++ '"' :: rest) := by simp
    rw [text, value, string, inside]
    · rfl
    · exact fun _ eq => noQuote (List.cons.inj eq).1

theorem writes_boolean (on : Bool) : Writes (toString on).toList (.boolean on) where
  starts := by cases on <;> exact ⟨_, _, rfl, rfl⟩
  reads calls ends := by
    rw [← word_boolean on ends]
    cases on <;> exact value_word calls rfl

theorem writes_number (n : Nat) : Writes (Nat.toDigits 10 n) (.integer n) := by
  obtain ⟨c, cs, eq, digit, _⟩ := head_toDigits n
  refine ⟨⟨c, cs, eq, ?_⟩, fun calls ends => ?_⟩
  · exact isBlank_eq_false digit rfl rfl
  · rw [← word_toDigits n ends, eq]
    exact value_word calls (by simp [isWordChar, isBare, Char.isAlphanum, digit])

/-! ## Lines -/

/-- A key and a value as they are written, and what the value is. -/
structure Line where
  key : List Char
  value : List Char
  node : Node

namespace Line

def text (l : Line) : List Char := l.key ++ ' ' :: '=' :: ' ' :: l.value

/-- What a line adds to a table. -/
def entry (l : Line) : String × Node := (String.ofList l.key, l.node)

/-- A line that can be read. -/
structure Plain (l : Line) : Prop where
  nonempty : l.key ≠ []
  bare : ∀ c ∈ l.key, isBare c
  writes : Writes l.value l.node

end Line

theorem skipBlanks_of_first {c : Char} {text : List Char} (first : isBlank c = false) :
    skipBlanks (c :: text) = c :: text := Stops.dropWhile (stops_cons first)

theorem assignment_line {l : Line} (plain : l.Plain) (ends : LineEnd rest) :
    assignment (l.text ++ rest) = some (([String.ofList l.key], l.node), rest) := by
  obtain ⟨c, cs, front, noBlank⟩ := plain.writes.starts
  have blanks : skipBlanks (' ' :: (l.value ++ rest)) = l.value ++ rest := by
    rw [front]
    exact skipBlanks_of_first noBlank
  have text : l.text ++ rest = l.key ++ ' ' :: '=' :: ' ' :: (l.value ++ rest) := by simp [Line.text]
  have equals : skipBlanks (' ' :: '=' :: ' ' :: (l.value ++ rest)) = '=' :: ' ' :: (l.value ++ rest) := rfl
  rw [assignment, text, key_bare plain.nonempty plain.bare]
  simp only [Option.bind_eq_bind, Option.bind_some, equals, blanks, plain.writes.reads _ ends]

/-- A new key stands behind the others. -/
theorem define_new {k : String} {node : Node} : ∀ {es : Entries}, k ∉ es.map Prod.fst →
    Entries.define node [k] es = some (es ++ [(k, node)])
  | [], _ => rfl
  | (k', node') :: es, new => by
    obtain ⟨other, new⟩ := not_or.1 (mt List.mem_cons.2 new)
    have later : Entries.alter k _ es = some (es ++ [(k, node)]) := define_new new
    rw [Entries.define, Entries.alter, if_neg (Ne.symm other), later]
    rfl

/-- A line that starts with a bare character is an assignment. -/
theorem statement_bare {c : Char} {text : List Char} (bare : isBare c) (p : Progress) :
    statement p (c :: text) = (assignment (c :: text)).bind fun ((path, node), rest) =>
      (p.root.defineIn path node p.header).bind fun root => some ({ p with root }, rest) := by
  have noBlank : isBlank c = false := isBlank_eq_false bare rfl rfl
  have noComment : skipComment (c :: text) = c :: text := by
    unfold skipComment
    split
    · rename_i eq
      cases eq
      cases bare
    · rfl
  have noNewline : newline (c :: text) = none := by
    unfold newline
    split
    · rename_i eq
      cases eq
      cases bare
    · rename_i eq
      cases eq
      cases bare
    · rfl
  rw [statement, skipBlanks_of_first noBlank]
  split
  · rename_i eq
    cases eq
    cases bare
  · rw [noComment]
    dsimp only
    rw [noNewline, Option.isSome_none, if_neg Bool.false_ne_true]
    rfl

/-- **One line** adds its entry. -/
theorem statement_line {l : Line} (plain : l.Plain) (ends : LineEnd rest) {known : Entries}
    (new : l.entry.1 ∉ known.map Prod.fst) :
    statement ⟨known, []⟩ (l.text ++ rest) = some (⟨known ++ [l.entry], []⟩, rest) := by
  obtain ⟨c, cs, front⟩ := List.exists_cons_of_ne_nil plain.nonempty
  have starts : ∃ more, l.text ++ rest = c :: more := ⟨_, by rw [Line.text, front]; rfl⟩
  obtain ⟨more, eq⟩ := starts
  rw [eq, statement_bare (plain.bare c (front ▸ List.mem_cons_self)), ← eq, assignment_line plain ends,
    Option.bind_some]
  show (Entries.define l.node [l.entry.1] known).bind _ = _
  rw [define_new new]
  rfl

/-- **A document of plain lines.** Each ends with a line feed, which the last one may leave out. -/
inductive Document : List Line → List Char → Prop
  | nil : Document [] []
  | last (l : Line) : Document [l] l.text
  | cons (l : Line) {lines : List Line} {text : List Char} (rest : Document lines text) :
      Document (l :: lines) (l.text ++ '\n' :: text)

theorem Line.length_pos {l : Line} : 0 < l.text.length := by
  rw [text, List.length_append, List.length_cons]
  omega

theorem statements_of_pos {calls : Nat} {p : Progress} {text : List Char} (nonempty : 0 < text.length) :
    statements (calls + 1) p text = (statement p text).bind fun (p, rest) =>
      (endOfLine rest).bind (statements calls p) := by
  rw [statements]
  · rfl
  · rintro rfl
    cases nonempty

theorem new_of_distinct {l : Line} {lines : List Line} {known : Entries}
    (distinct : ((known ++ (l :: lines).map Line.entry).map Prod.fst).Nodup) : l.entry.1 ∉ known.map Prod.fst := by
  rw [List.map_append, List.nodup_append] at distinct
  exact fun mem => distinct.2.2 _ mem _ List.mem_cons_self rfl

/-- **The lines of a document** add their entries one by one. -/
theorem statements_document {lines : List Line} {text : List Char} (document : Document lines text)
    (plain : ∀ l ∈ lines, l.Plain) {known : Entries}
    (distinct : ((known ++ lines.map Line.entry).map Prod.fst).Nodup) {calls : Nat} (enough : text.length < calls) :
    statements calls ⟨known, []⟩ text = some (known ++ lines.map Line.entry) := by
  induction document generalizing known calls with
  | nil =>
    obtain ⟨calls, rfl⟩ := Nat.exists_eq_add_of_lt enough
    rw [List.map_nil, List.append_nil]
    rfl
  | last l =>
    obtain ⟨here, _⟩ := List.forall_mem_cons.1 plain
    have step := statement_line here .nil (new_of_distinct distinct)
    rw [List.append_nil] at step
    obtain ⟨calls, rfl⟩ : ∃ more, calls = more + 2 := ⟨calls - 2, by have := l.length_pos; omega⟩
    rw [statements_of_pos l.length_pos, step]
    rfl
  | @cons l lines text rest ih =>
    obtain ⟨here, others⟩ := List.forall_mem_cons.1 plain
    have step := statement_line here (.newline text) (new_of_distinct distinct)
    obtain ⟨calls, rfl⟩ : ∃ more, calls = more + 1 := ⟨calls - 1, by omega⟩
    have shorter : text.length < calls := by
      rw [List.length_append, List.length_cons] at enough
      omega
    have order : known ++ (l :: lines).map Line.entry = known ++ [l.entry] ++ lines.map Line.entry := by simp
    rw [order] at distinct ⊢
    rw [statements_of_pos (by rw [List.length_append, List.length_cons]; omega), step]
    exact ih others distinct shorter

/-- What is not empty starts with a key. -/
theorem Document.first {lines : List Line} {text : List Char} (document : Document lines text)
    (plain : ∀ l ∈ lines, l.Plain) : ∀ c ∈ text.head?, isBare c := by
  have head {l : Line} (plain : l.Plain) (more : List Char) : ∀ c ∈ (l.text ++ more).head?, isBare c := by
    obtain ⟨c, cs, front⟩ := List.exists_cons_of_ne_nil plain.nonempty
    rw [Line.text, front]
    rintro _ ⟨⟩
    exact plain.bare c (front ▸ List.mem_cons_self)
  cases document with
  | nil => exact nofun
  | last l =>
    have first := head (plain l List.mem_cons_self) []
    rwa [List.append_nil] at first
  | cons l rest => exact head (plain l List.mem_cons_self) _

/-- **A document of plain lines** whose keys are different is the table of its entries. -/
theorem read_document {lines : List Line} {text : String} (document : Document lines text.toList)
    (plain : ∀ l ∈ lines, l.Plain) (distinct : ((lines.map Line.entry).map Prod.fst).Nodup) :
    read text = some (lines.map Line.entry) := by
  have statements : statements (text.toList.length + 1) ⟨[], []⟩ text.toList = some (lines.map Line.entry) :=
    statements_document document plain distinct (Nat.lt_succ_self _)
  rw [read]
  split
  · rename_i rest marked
    cases document.first plain '\uFEFF' (by rw [marked]; rfl)
  · exact statements

end WasmLens.Toml
