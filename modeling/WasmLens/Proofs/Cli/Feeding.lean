import WasmLens.Cli.Run
import WasmLens.Proofs.Value.Text

/-!
# Results as arguments

What the command prints as a result is a number with its type, and the number is a word that the command takes again: as
the next argument of a call, although it may look like a switch, and as the value of a global. **It is read as the value
that was printed** (`number_fedBack`).
-/
namespace WasmLens.Cli

open Text Floating Floating.Format

/-! ## Words -/

/-- A number starts with a digit or with a letter of infinity, behind its sign. -/
theorem first_of_numeral {text : String} (numeral : Numeral text) : ∃ negative c rest,
    text.toList = (sign negative).toList ++ c :: rest ∧ (c.isDigit ∨ c = 'i') := by
  obtain ⟨negative, body, rfl, rfl | ⟨digits, power, decimal⟩⟩ := numeral
  · exact ⟨negative, 'i', ['n', 'f'], String.toList_append, .inr rfl⟩
  · obtain ⟨c, rest, front, digit⟩ := decimal.first
    exact ⟨negative, c, rest, front ▸ String.toList_append, .inl digit⟩

/-- No switch of the command is called like this. -/
theorem short?_eq_none {c : Char} (first : c.isDigit ∨ c = 'i') : Topic.invoke.grammar.short? c = none := by
  have noV : 'v' ≠ c := by
    rintro rfl
    revert first
    decide
  have noH : 'h' ≠ c := by
    rintro rfl
    revert first
    decide
  simp [Grammar.short?, Topic.grammar, Switch.short?, noV, noH]

theorem classify_numeral {text : String} (numeral : Numeral text) : Word.classify text = .plain ∨
    ∃ letters, Word.classify text = .short letters ∧ letters.any fun c => (Topic.invoke.grammar.short? c).isNone := by
  obtain ⟨negative, c, rest, front, first⟩ := first_of_numeral numeral
  have noDash : c ≠ '-' := by
    rintro rfl
    revert first
    decide
  cases negative with
  | false =>
    have front : text.toList = c :: rest := front
    refine .inl ?_
    rw [Word.classify, front]
    split <;> rename_i eq
    iterate 3
      · cases eq
        exact absurd rfl noDash
    · rfl
  | true =>
    have front : text.toList = '-' :: c :: rest := front
    refine .inr ⟨c :: rest, ?_, ?_⟩
    · rw [Word.classify, front]
      split <;> rename_i eq
      iterate 2
        · cases eq
          exact absurd rfl noDash
      · cases eq
        rfl
      · exact absurd rfl (eq c rest)
    · rw [List.any_cons, short?_eq_none first]
      rfl

/-- **An argument** is taken wherever the command takes arguments. -/
theorem add_numeral {f : Found} {text : String} (numeral : Numeral text) (reached : f.atRepeated Topic.invoke.grammar)
    (idle : ∀ switch, f.mode ≠ .awaiting switch) :
    f.add Topic.invoke.grammar text = .ok { f with mode := .repeating, words := f.words ++ [text] } := by
  have enough : 2 ≤ f.words.length := of_decide_eq_true (Bool.and_eq_true_iff.1 reached).2
  have word : f.addWord Topic.invoke.grammar text = .ok { f with mode := .repeating, words := f.words ++ [text] } := by
    have some : f.words.isEmpty = false := by
      cases words : f.words with
      | nil => rw [words] at enough; cases enough
      | cons _ _ => rfl
    rw [Found.addWord, some, Bool.false_and, if_neg Bool.false_ne_true]
    exact if_neg (Nat.not_lt_of_le enough)
  have plain : f.addPlain Topic.invoke.grammar text = f.addWord Topic.invoke.grammar text := by
    unfold Found.addPlain
    split
    · rename_i switch waits
      exact absurd waits (idle switch)
    · rfl
  unfold Found.add
  split
  · exact word
  · rcases classify_numeral numeral with eq | ⟨letters, eq, unknown⟩
    · rw [eq]
      exact plain.trans word
    · rw [eq]
      dsimp only
      rw [reached, unknown]
      exact plain.trans word

/-! ## Globals -/

theorem splitAtEquals_eq {front back : List Char} (noEquals : '=' ∉ front) :
    splitAtEquals (front ++ '=' :: back) = (front, some back) := by
  have all : ∀ c ∈ front, (c ≠ '=' : Bool) := fun c mem => decide_eq_true fun eq => noEquals (eq ▸ mem)
  have stops : Stops (· ≠ '=') ('=' :: back) := stops_cons rfl
  rw [splitAtEquals, takeWhile_run all stops, dropWhile_run all stops]
  rfl

theorem classify_global (value : String) : Word.classify ("--global=" ++ value) = .long "global" (some value) := by
  have list : ("--global=" ++ value).toList = '-' :: '-' :: (['g', 'l', 'o', 'b', 'a', 'l'] ++ '=' :: value.toList) :=
    String.toList_append
  have split : splitAtEquals (['g', 'l', 'o', 'b', 'a', 'l'] ++ '=' :: value.toList) =
      (['g', 'l', 'o', 'b', 'a', 'l'], some value.toList) := splitAtEquals_eq (by decide)
  rw [Word.classify, list]
  simp only [List.cons_append, List.nil_append] at split ⊢
  rw [split]
  exact congrArg (fun value => Word.long "global" (some value)) String.ofList_toList

theorem assignment?_eq {name text : String} (noEquals : '=' ∉ name.toList) :
    assignment? (name ++ "=" ++ text) = some (name, text) := by
  have list : (name ++ "=" ++ text).toList = name.toList ++ '=' :: text.toList := by
    rw [String.toList_append, String.toList_append, List.append_assoc]
    rfl
  rw [assignment?, list, splitAtEquals_eq noEquals]
  dsimp only
  rw [String.ofList_toList, String.ofList_toList]

/-- **The value of a global** is taken with its name, whatever it looks like. -/
theorem add_global {f : Found} {name text : String} (noEquals : '=' ∉ name.toList) (locked : f.isFree = false)
    (idle : f.mode = .between) : f.add Topic.invoke.grammar ("--global=" ++ (name ++ "=" ++ text)) =
      .ok { f with globals := f.globals ++ [(name, text)] } := by
  obtain ⟨_, _, verbosity, config, function, globals, words⟩ := f
  cases idle
  cases locked
  have sets : Found.setValue ⟨.between, false, verbosity, config, function, globals, words⟩ .global
      (name ++ "=" ++ text) = .ok ⟨.between, false, verbosity, config, function, globals ++ [(name, text)], words⟩ := by
    simp only [Found.setValue, assignment?_eq noEquals]
  rw [Found.add, classify_global]
  exact sets

/-! ## Values -/

/-- **A value whose text the command takes again.** -/
structure FedBack (v : Value) : Prop where
  /-- The number is the next argument, wherever the command takes arguments. -/
  argument : ∀ f : Found, f.atRepeated Topic.invoke.grammar → (∀ switch, f.mode ≠ .awaiting switch) →
    f.add Topic.invoke.grammar v.number = .ok { f with mode := .repeating, words := f.words ++ [v.number] }
  /-- Behind the name of a global and an equals sign, it is the value of this global, -/
  assignment : ∀ name : String, '=' ∉ name.toList → assignment? (name ++ "=" ++ v.number) = some (name, v.number)
  /-- wherever the command takes switches. -/
  global : ∀ (f : Found) (name : String), '=' ∉ name.toList → f.isFree = false → f.mode = .between →
    f.add Topic.invoke.grammar ("--global=" ++ (name ++ "=" ++ v.number)) =
      .ok { f with globals := f.globals ++ [(name, v.number)] }
  /-- At the type of the value, it is read as the value. -/
  value : ∀ outer, readValue outer v.type v.number = .ok v
  /-- So it is among the arguments of a call, in its place. -/
  arguments : ∀ {place : Nat} {types : List ValueType} {raws : List String} {vs : List Value},
    readArguments (place + 1) types raws = .ok vs →
      readArguments place (v.type :: types) (v.number :: raws) = .ok (v :: vs)

section

variable {v : Value} (number : v.IsNumber)

include number

theorem readValue_number (outer : String) : readValue outer v.type v.number = .ok v := by
  rw [readValue, (Value.readBack number).read]

theorem readArguments_number {place : Nat} {types : List ValueType} {raws : List String} {vs : List Value}
    (later : readArguments (place + 1) types raws = .ok vs) :
    readArguments place (v.type :: types) (v.number :: raws) = .ok (v :: vs) := by
  rw [readArguments, readValue_number number, later]
  rfl

end

/-- **What is printed as a number** is read back as the value, bit for bit, and the command takes it again. -/
theorem number_fedBack (v : Value) (number : v.IsNumber) : v.ReadBack ∧ FedBack v :=
  have back := Value.readBack number
  ⟨back, fun _ => add_numeral back.numeral, fun _ => assignment?_eq, fun _ _ => add_global, readValue_number number,
    readArguments_number number⟩

/-- The float next to zero from below, with all its decimal places. -/
theorem number_fedBack_least :
    (Value.f32 0x80000001#32).IsNumber ∧
      (Value.f32 0x80000001#32).text = "-0.000000000000000000000000000000000000000000001:f32" ∧
      Value.read .f32 "-0.000000000000000000000000000000000000000000001" = .ok (.f32 0x80000001#32) :=
  have number := by decide
  have digits : (Value.f32 0x80000001#32).number = "-0.000000000000000000000000000000000000000000001" := by
    decide +kernel
  have back := (number_fedBack (.f32 0x80000001#32) number).1
  ⟨number, back.written.trans (by rw [digits]; rfl), digits ▸ back.read⟩

/-! ## Results of a call -/

/-- **Numbers are taken** one after another. -/
theorem foldlM_numbers : ∀ {vs : List Value} {f : Found}, (∀ v ∈ vs, v.IsNumber) →
    f.atRepeated Topic.invoke.grammar → (∀ switch, f.mode ≠ .awaiting switch) →
    ∃ mode, (∀ switch, mode ≠ .awaiting switch) ∧
      (vs.map Value.number).foldlM (fun f s => Found.add f Topic.invoke.grammar s) f =
        .ok { f with mode, words := f.words ++ vs.map Value.number }
  | [], f, _, _, idle => ⟨f.mode, idle, by rw [List.map_nil, List.append_nil]; rfl⟩
  | v :: vs, f, numbers, reached, idle => by
    obtain ⟨number, others⟩ := List.forall_mem_cons.1 numbers
    have further : Found.atRepeated { f with mode := .repeating, words := f.words ++ [v.number] }
        Topic.invoke.grammar := by
      have enough : 2 ≤ f.words.length := of_decide_eq_true (Bool.and_eq_true_iff.1 reached).2
      refine decide_eq_true (?_ : 2 ≤ (f.words ++ [v.number]).length)
      rw [List.length_append]
      omega
    obtain ⟨mode, still, rest⟩ := foldlM_numbers others further (fun _ => nofun)
    refine ⟨mode, still, ?_⟩
    rw [List.map_cons, List.foldlM_cons, add_numeral (Value.readBack number).numeral reached idle]
    refine rest.trans ?_
    rw [List.append_assoc]
    rfl

theorem readArguments_numbers : ∀ {vs : List Value} (place : Nat), (∀ v ∈ vs, v.IsNumber) →
    readArguments place (vs.map Value.type) (vs.map Value.number) = .ok vs
  | [], _, _ => rfl
  | v :: vs, place, numbers => by
    obtain ⟨number, others⟩ := List.forall_mem_cons.1 numbers
    exact readArguments_number number (readArguments_numbers (place + 1) others)

/-- **All results of a call** are arguments of another one, in their order. -/
theorem results_fedBack {vs : List Value} (numbers : ∀ v ∈ vs, v.IsNumber) {path export_ : String} (named : path ≠ "")
    (noSwitch : Word.classify path = .plain) (noSwitch' : Word.classify export_ = .plain) :
    (∃ f, Topic.invoke.grammar.parse (path :: export_ :: vs.map Value.number) = .ok f ∧
      Topic.invoke.command? f = some (.invoke path export_ (vs.map Value.number) [])) ∧
    readArguments 0 (vs.map Value.type) (vs.map Value.number) = .ok vs := by
  refine ⟨?_, readArguments_numbers 0 numbers⟩
  have first : Found.add {} Topic.invoke.grammar path = .ok { words := [path] } := by
    have some : path.isEmpty = false := by
      rw [← Bool.not_eq_true, String.isEmpty_iff]
      exact named
    rw [Found.add, noSwitch]
    show (if true && path.isEmpty then _ else _) = _
    rw [some]
    rfl
  have second : Found.add { words := [path] } Topic.invoke.grammar export_ = .ok { words := [path, export_] } := by
    rw [Found.add, noSwitch']
    rfl
  obtain ⟨mode, idle, rest⟩ := foldlM_numbers (f := { words := [path, export_] }) numbers rfl (fun _ => nofun)
  have words : (path :: export_ :: vs.map Value.number).foldlM (fun f s => Found.add f Topic.invoke.grammar s) {} =
      .ok { mode, words := path :: export_ :: vs.map Value.number } := by
    rw [List.foldlM_cons, first]
    show (export_ :: vs.map Value.number).foldlM (fun f s => Found.add f Topic.invoke.grammar s) _ = _
    rw [List.foldlM_cons, second]
    exact rest
  refine ⟨{ mode, words := path :: export_ :: vs.map Value.number }, ?_, rfl⟩
  rw [Grammar.parse, words]
  show Found.finish _ _ = _
  unfold Found.finish
  split
  · rename_i switch waits
    exact absurd waits (idle switch)
  · rfl

end WasmLens.Cli
