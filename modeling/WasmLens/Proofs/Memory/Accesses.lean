import WasmLens.Memory.Buffer
import WasmLens.Number.Power

/-!
# Accesses to a buffer

A buffer is a list of bytes, one at every offset below its size. A read gives the part of the list that it asks for, and
a write puts another part in its place (`toList_store`). Either is refused as a whole if it reaches past the end. So
after any accesses **each byte is the one that was last written over it** (`run_accesses`).
-/
namespace WasmLens.Memory

namespace Buffer

variable (b : Buffer)

/-! ## Parts of a buffer -/

theorem length_slice : ∀ offset length, (b.slice offset length).length = length
  | _, 0 => rfl
  | offset, length + 1 => congrArg (· + 1) (length_slice (offset + 1) length)

theorem getElem?_slice : ∀ offset length (k : Nat),
    (b.slice offset length)[k]? = if k < length then some (b.byte (offset + k)) else none
  | _, 0, _ => rfl
  | offset, length + 1, 0 => rfl
  | offset, length + 1, k + 1 => by
    rw [slice, List.getElem?_cons_succ, getElem?_slice (offset + 1) length k, Nat.add_right_comm offset 1 k]
    simp only [Nat.add_lt_add_iff_right, Nat.add_assoc]

theorem length_toList : b.toList.length = b.size := b.length_slice 0 b.size

theorem getElem?_toList (i : Nat) : b.toList[i]? = if i < b.size then some (b.byte i) else none := by
  rw [toList, getElem?_slice, Nat.zero_add]

variable {b}

/-- What lies in the buffer is a part of its list. -/
theorem slice_eq {offset length : Nat} (inside : offset + length ≤ b.size) :
    b.slice offset length = (b.toList.drop offset).take length := by
  refine List.ext_getElem? fun k => ?_
  rw [getElem?_slice]
  by_cases within : k < length
  · rw [if_pos within, List.getElem?_take_of_lt within, List.getElem?_drop, getElem?_toList, if_pos (by omega)]
  · rw [if_neg within, List.getElem?_take_eq_none (Nat.le_of_not_lt within)]

/-! ## Stored bytes -/

/-- **Stored bytes lie where they were stored**, and all others where they were. -/
theorem byte_store : ∀ (bytes : List UInt8) (b : Buffer) (offset i : Nat), (b.store offset bytes).byte i =
    if offset ≤ i then (bytes[i - offset]?).getD (b.byte i) else b.byte i
  | [], b, offset, i => by simp [store]
  | x :: bytes, b, offset, i => by
    rw [store, byte_store bytes]
    have here : ({ b with written := b.written.insert offset x } : Buffer).byte i =
        if offset = i then x else b.byte i := by
      simp only [byte, Std.HashMap.getD_insert, beq_iff_eq]
    rw [here]
    rcases Nat.lt_trichotomy i offset with before | rfl | behind
    · rw [if_neg (by omega), if_neg (by omega), if_neg (by omega)]
    · rw [if_neg (by omega), if_pos rfl, if_pos (Nat.le_refl i), Nat.sub_self]
      rfl
    · obtain ⟨k, rfl⟩ := Nat.exists_eq_add_of_lt behind
      rw [if_pos (by omega), if_neg (by omega), if_pos (by omega), show offset + k + 1 - offset = k + 1 by omega,
        show offset + k + 1 - (offset + 1) = k by omega, List.getElem?_cons_succ]

/-- **A write puts its bytes in the place of others.** -/
theorem toList_store {offset : Nat} {bytes : List UInt8} (inside : offset + bytes.length ≤ b.size) :
    (b.store offset bytes).toList =
      b.toList.take offset ++ bytes ++ b.toList.drop (offset + bytes.length) := by
  refine List.ext_getElem? fun i => ?_
  rw [getElem?_toList, store_size, byte_store, List.append_assoc]
  have front : (b.toList.take offset).length = offset := by
    rw [List.length_take, length_toList]
    omega
  rcases Nat.lt_or_ge i offset with before | notBefore
  · rw [List.getElem?_append_left (by omega), List.getElem?_take_of_lt before, getElem?_toList,
      if_neg (show ¬offset ≤ i by omega)]
  rw [if_pos notBefore, List.getElem?_append_right (by omega), front]
  rcases Nat.lt_or_ge (i - offset) bytes.length with within | behind
  · rw [List.getElem?_append_left within, List.getElem?_eq_getElem within, Option.getD_some, if_pos (by omega)]
  · rw [List.getElem?_append_right behind, List.getElem?_eq_none behind, Option.getD_none, List.getElem?_drop,
      show offset + bytes.length + (i - offset - bytes.length) = i by omega, getElem?_toList]

/-- What was stored is found again. -/
theorem slice_store {offset : Nat} {bytes : List UInt8} (inside : offset + bytes.length ≤ b.size) :
    (b.store offset bytes).slice offset bytes.length = bytes := by
  have front : (b.toList.take offset).length = offset := by
    rw [List.length_take, length_toList]
    omega
  rw [slice_eq (by rwa [store_size]), toList_store inside, List.append_assoc, List.drop_left' front,
    List.take_left' rfl]

end Buffer

/-! ## Accesses -/

/-- What a host does with a buffer, at any offset that a word can say. -/
inductive Access where
  | read (offset : UInt64) (length : Nat)
  | write (offset : UInt64) (bytes : List UInt8)
  deriving Repr, DecidableEq

namespace Access

def offset : Access → UInt64
  | .read offset _ | .write offset _ => offset

def length : Access → Nat
  | .read _ length => length
  | .write _ bytes => bytes.length

/-- The end of the range, which is a number and no word: it does not wrap around. -/
def stop (a : Access) : Nat := a.offset.toNat + a.length

/-- The byte that an access writes at an index. -/
def byteAt? : Access → Nat → Option UInt8
  | .read _ _, _ => none
  | .write offset bytes, i => if offset.toNat ≤ i then bytes[i - offset.toNat]? else none

end Access

/-- The byte that was last written at an index, by an access that lies in a buffer of this size. -/
def lastWritten? (size : Nat) (accesses : List Access) (i : Nat) : Option UInt8 :=
  ((accesses.filter (·.stop ≤ size)).filterMap (·.byteAt? i)).getLast?

namespace Buffer

/-- Makes an access: the buffer that there is then, and what is read. -/
def access (b : Buffer) : Access → Buffer × Except OutOfBounds (List UInt8)
  | .read offset length => (b, b.read offset.toNat length)
  | .write offset bytes =>
    match b.write offset.toNat bytes with
    | .ok b' => (b', .ok [])
    | .error e => (b, .error e)

/-- Makes one access after another, whatever they answer. -/
def run (b : Buffer) (accesses : List Access) : Buffer := accesses.foldl (fun b a => (b.access a).1) b

/-- **All that an access does** to a buffer, and what it answers. -/
structure Accesses (b : Buffer) (a : Access) (now : Buffer) (answer : Except OutOfBounds (List UInt8)) : Prop where
  /-- It is made exactly if its range lies in the buffer; an empty one may lie at the very end. -/
  made_iff : (∃ bytes, answer = .ok bytes) ↔ a.stop ≤ b.size
  refused : b.size < a.stop → answer = .error ⟨⟩ ∧ now = b
  /-- The end of a range in the buffer is the same in words. -/
  unwrapped : b.size < twoTo 64 → a.stop ≤ b.size → (a.offset + UInt64.ofNat a.length).toNat = a.stop
  size : now.size = b.size
  reads : ∀ offset length, a = .read offset length →
    now = b ∧ ∀ found, answer = .ok found → found = (b.toList.drop offset.toNat).take length
  writes : ∀ offset bytes, a = .write offset bytes → a.stop ≤ b.size →
    now.read offset.toNat bytes.length = .ok bytes ∧
      now.toList = b.toList.take offset.toNat ++ bytes ++ b.toList.drop a.stop

variable {b : Buffer}

theorem read_eq_ok_iff {offset length : Nat} {found : List UInt8} :
    b.read offset length = .ok found ↔ offset + length ≤ b.size ∧ b.slice offset length = found := by
  by_cases inside : offset + length ≤ b.size <;> simp [read, inBounds, inside]

theorem read_of_outside {offset length : Nat} (outside : b.size < offset + length) :
    b.read offset length = .error ⟨⟩ := by
  simp [read, inBounds, outside]

theorem access_inside {offset : UInt64} {bytes : List UInt8} (inside : offset.toNat + bytes.length ≤ b.size) :
    b.access (.write offset bytes) = (b.store offset.toNat bytes, .ok []) := by
  simp [access, write, inBounds, inside]

theorem access_outside {offset : UInt64} {bytes : List UInt8} (outside : b.size < offset.toNat + bytes.length) :
    b.access (.write offset bytes) = (b, .error ⟨⟩) := by
  simp [access, write, inBounds, Nat.not_le.2 outside]

theorem unwrapped_of_inside {offset : UInt64} {length : Nat} (small : b.size < twoTo 64)
    (inside : offset.toNat + length ≤ b.size) : (offset + UInt64.ofNat length).toNat = offset.toNat + length := by
  have fits : offset.toNat + length < 2 ^ 64 := Nat.lt_of_le_of_lt inside small
  rw [UInt64.toNat_add, UInt64.toNat_ofNat', Nat.add_mod_mod, Nat.mod_eq_of_lt fits]

/-- **One access.** -/
theorem accesses (b : Buffer) : ∀ a : Access, Accesses b a (b.access a).1 (b.access a).2
  | .read offset length => by
    refine ⟨?_, fun outside => ⟨read_of_outside outside, rfl⟩, unwrapped_of_inside, rfl, ?_, nofun⟩
    · exact ⟨fun ⟨_, found⟩ => (read_eq_ok_iff.1 found).1, fun inside => ⟨_, read_eq_ok_iff.2 ⟨inside, rfl⟩⟩⟩
    · rintro _ _ ⟨⟩
      refine ⟨rfl, fun found read => ?_⟩
      obtain ⟨inside, rfl⟩ := read_eq_ok_iff.1 read
      exact slice_eq inside
  | .write offset bytes => by
    rcases Nat.lt_or_ge b.size (offset.toNat + bytes.length) with outside | inside
    · rw [access_outside outside]
      exact ⟨iff_of_false nofun (Nat.not_le.2 outside), fun _ => ⟨rfl, rfl⟩, unwrapped_of_inside, rfl, nofun,
        fun _ _ _ inside => absurd inside (Nat.not_le.2 outside)⟩
    · rw [access_inside inside]
      refine ⟨iff_of_true ⟨[], rfl⟩ inside, fun outside => absurd inside (Nat.not_le.2 outside), unwrapped_of_inside,
        store_size b _ bytes, nofun, ?_⟩
      rintro _ _ ⟨⟩ _
      refine ⟨read_eq_ok_iff.2 ⟨?_, slice_store inside⟩, toList_store inside⟩
      rwa [store_size]

/-- What an access that is made writes at an index is there then; all else is as it was. -/
theorem byte_access (b : Buffer) (a : Access) (i : Nat) :
    (b.access a).1.byte i = ((if a.stop ≤ b.size then a.byteAt? i else none).getD (b.byte i)) := by
  cases a with
  | read offset length => cases decide ((Access.read offset length).stop ≤ b.size) <;> simp [access, Access.byteAt?]
  | write offset bytes =>
    rcases Nat.lt_or_ge b.size (offset.toNat + bytes.length) with outside | inside
    · rw [access_outside outside, if_neg (show ¬(Access.write offset bytes).stop ≤ b.size from Nat.not_le.2 outside)]
      rfl
    · rw [access_inside inside, if_pos (show (Access.write offset bytes).stop ≤ b.size from inside), byte_store,
        Access.byteAt?]
      split <;> rfl

theorem size_run : ∀ (accesses : List Access) (b : Buffer), (b.run accesses).size = b.size
  | [], _ => rfl
  | a :: accesses, b => (size_run accesses (b.access a).1).trans (b.accesses a).size

/-- **The last write wins**, whatever was read or refused in between. -/
theorem byte_run (i : Nat) : ∀ (accesses : List Access) (b : Buffer),
    (b.run accesses).byte i = (lastWritten? b.size accesses i).getD (b.byte i)
  | [], _ => rfl
  | a :: accesses, b => by
    have later : (b.run (a :: accesses)).byte i = ((b.access a).1.run accesses).byte i := rfl
    rw [later, byte_run i accesses, (b.accesses a).size, byte_access, lastWritten?, lastWritten?, List.filter_cons]
    by_cases made : a.stop ≤ b.size
    · rw [if_pos made, if_pos (decide_eq_true made), List.filterMap_cons]
      cases a.byteAt? i with
      | none => rfl
      | some x => rw [List.getLast?_cons, Option.getD_some, Option.getD_some]
    · rw [if_neg made, if_neg (by simpa using made), Option.getD_none]

/-- **Any accesses to a buffer**, one after another, with what one more of them does: the buffer keeps its size, each
byte is the one that was last written over it, or else the first one, and the next access is made exactly if its range
lies in the buffer. -/
theorem run_accesses (b : Buffer) (earlier : List Access) (a : Access) :
    (b.run earlier).size = b.size ∧
      (b.run earlier).toList =
          (List.range b.size).map (fun i => (lastWritten? b.size earlier i).getD (b.byte i)) ∧
        Accesses (b.run earlier) a ((b.run earlier).access a).1 ((b.run earlier).access a).2 := by
  refine ⟨size_run earlier b, List.ext_getElem? fun i => ?_, (b.run earlier).accesses a⟩
  rw [getElem?_toList, size_run, byte_run, List.getElem?_map]
  by_cases inside : i < b.size
  · rw [if_pos inside, List.getElem?_range inside, Option.map_some]
  · rw [if_neg inside, List.getElem?_eq_none (by rw [List.length_range]; omega), Option.map_none]

/-- Of two writes over one byte the later one is found, and one that reaches past the end leaves nothing behind. The
last range would lie in the buffer if its end were a word. -/
example : ((ofList [1, 2, 3, 4]).run [.write 1 [7, 8], .write 3 [9, 9], .write 2 [5]]).toList = [1, 7, 5, 4] ∧
    ((ofList [1, 2, 3, 4]).access (.read 0xffffffffffffffff 2)).2 = .error ⟨⟩ := ⟨by cbv, rfl⟩

end Buffer

end WasmLens.Memory
