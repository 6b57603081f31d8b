import WasmLens.Proofs.Outcome
import WasmLens.Wasm.Reader
import WasmLens.Wasm.Writer

/-!
# Reading back what was written

Every reader that has a writer takes off exactly what that wrote, whatever stands behind it
(`unsigned_write`, `text_write`, `vector_write`). The readers accept more than the writers produce:
an integer may be padded with zero bits up to its width. So the other direction says only what holds
of the values that are read (`unsigned_lt`, `text_ok_iff`), which is what makes them writable again.
-/
namespace WasmLens.Wasm.Reader

variable {α β : Type}

/-! ## Taking a reader apart -/

theorem bind_ok_iff {r : Reader α} {f : α → Reader β} {bytes rest : List UInt8} {b : β} :
    (r >>= f) bytes = .ok (b, rest) ↔
      ∃ a between, r bytes = .ok (a, between) ∧ f a between = .ok (b, rest) := by
  show (r bytes).bind (fun p => f p.1 p.2) = _ ↔ _
  cases r bytes with
  | error f => simp [Except.bind]
  | ok p =>
    obtain ⟨a, between⟩ := p
    simp only [Except.bind, Except.ok.injEq, Prod.mk.injEq]
    exact ⟨fun h => ⟨a, between, ⟨rfl, rfl⟩, h⟩, fun ⟨_, _, ⟨rfl, rfl⟩, h⟩ => h⟩

theorem pure_ok_iff {a b : α} {bytes rest : List UInt8} :
    (pure a : Reader α) bytes = .ok (b, rest) ↔ a = b ∧ bytes = rest := by
  show Except.ok (a, bytes) = _ ↔ _
  simp

/-- A reader that succeeds goes on with what it read and with what it left. -/
theorem bind_of_ok {r : Reader α} {f : α → Reader β} {bytes rest : List UInt8} {a : α}
    (h : r bytes = .ok (a, rest)) : (r >>= f) bytes = f a rest := by
  show (r bytes).bind (fun p => f p.1 p.2) = _
  rw [h]; rfl

theorem runOn_ok_iff {r : Reader α} {what : String} {bytes : List UInt8} {a : α} :
    r.runOn what bytes = .ok a ↔ r bytes = .ok (a, []) := by
  unfold runOn
  split <;> simp_all

theorem byte_ok_iff {bytes rest : List UInt8} {b : UInt8} :
    byte bytes = .ok (b, rest) ↔ bytes = b :: rest := by
  cases bytes <;> simp [byte]

theorem take_ok_iff {n : Nat} {bytes taken rest : List UInt8} :
    take n bytes = .ok (taken, rest) ↔ bytes = taken ++ rest ∧ taken.length = n := by
  unfold take
  constructor
  · intro h
    split at h
    · simp only [List.splitAt_eq, Except.ok.injEq, Prod.mk.injEq] at h
      obtain ⟨rfl, rfl⟩ := h
      exact ⟨(List.take_append_drop n bytes).symm, by simp; omega⟩
    · cases h
  · rintro ⟨rfl, rfl⟩
    simp

/-! ## Integers -/

theorem toNat_ofNat {n : Nat} (h : n < 256) : (UInt8.ofNat n).toNat = n := by
  simp [Nat.mod_eq_of_lt h]

/-- Seven more bits are a factor of 128. -/
theorem twoTo_split {bits : Nat} (h : 7 ≤ bits) : twoTo bits = 128 * twoTo (bits - 7) := by
  show 2 ^ bits = 128 * 2 ^ (bits - 7)
  rw [show bits = 7 + (bits - 7) by omega, Nat.pow_add, Nat.add_sub_cancel_left]

/-- **An integer reads back**, if it has at most the bits that are read. -/
theorem unsigned_write (n : Nat) : ∀ (bits : Nat) (rest : List UInt8), n < twoTo bits →
    unsigned bits (Writer.unsigned n ++ rest) = .ok (n, rest) := by
  induction n using Nat.strongRecOn with
  | ind n ih =>
    intro bits rest fits
    rw [Writer.unsigned]
    split
    · rename_i small
      simp only [List.cons_append, List.nil_append, unsigned, toNat_ofNat (show n < 256 by omega),
        if_pos small, Nat.mod_eq_of_lt small, if_pos fits]
    · rename_i big
      have wide : 7 < bits := by
        rcases Nat.lt_or_ge 7 bits with wide | narrow
        · exact wide
        · have : twoTo bits ≤ 2 ^ 7 := Nat.pow_le_pow_right (by omega) narrow
          omega
      have high : n / 128 < twoTo (bits - 7) := by
        rw [twoTo_split (by omega)] at fits
        omega
      have byte := toNat_ofNat (show n % 128 + 128 < 256 by omega)
      simp only [List.cons_append, unsigned, byte, show ¬n % 128 + 128 < 128 by omega, if_false,
        show ¬bits ≤ 7 by omega, ih (n / 128) (by omega) (bits - 7) rest high]
      simp only [Except.ok.injEq, Prod.mk.injEq, and_true]
      omega

theorem u32_write {n : Nat} (rest : List UInt8) (fits : n < twoTo 32) :
    u32 (Writer.unsigned n ++ rest) = .ok (n, rest) :=
  unsigned_write n 32 rest fits

/-- An integer that is read has no more bits than were asked for. -/
theorem unsigned_lt : ∀ {bits : Nat} {bytes rest : List UInt8} {n : Nat},
    unsigned bits bytes = .ok (n, rest) → n < twoTo bits
  | _, [], _, _, h => by simp [unsigned] at h
  | bits, b :: bytes, rest, n, h => by
    simp only [unsigned] at h
    split at h
    · split at h
      · simp only [Except.ok.injEq, Prod.mk.injEq] at h
        omega
      · cases h
    · split at h
      · cases h
      · rename_i wide
        split at h
        · rename_i high rest' tail
          simp only [Except.ok.injEq, Prod.mk.injEq] at h
          have := unsigned_lt tail
          rw [twoTo_split (by omega)]
          omega
        · cases h

/-- An integer that was written reads as itself or not at all. -/
theorem unsigned_of_write (n : Nat) : ∀ (bits : Nat) (rest : List UInt8) {m : Nat} {rest' : List UInt8},
    unsigned bits (Writer.unsigned n ++ rest) = .ok (m, rest') → m = n := by
  induction n using Nat.strongRecOn with
  | ind n ih =>
    intro bits rest m rest' h
    rw [Writer.unsigned] at h
    split at h
    · rename_i small
      simp only [List.cons_append, List.nil_append, unsigned, toNat_ofNat (show n < 256 by omega),
        if_pos small, Nat.mod_eq_of_lt small] at h
      split at h
      · exact (Prod.mk.inj (Except.ok.inj h)).1.symm
      · cases h
    · have byte := toNat_ofNat (show n % 128 + 128 < 256 by omega)
      simp only [List.cons_append, unsigned, byte, show ¬n % 128 + 128 < 128 by omega, if_false] at h
      split at h
      · cases h
      · split at h
        · rename_i high rest₂ tail
          have := ih (n / 128) (by omega) (bits - 7) rest tail
          have := (Prod.mk.inj (Except.ok.inj h)).1
          omega
        · cases h

/-- A reader of integers takes a byte at least. -/
theorem unsigned_shorter : ∀ {bits : Nat} {bytes rest : List UInt8} {n : Nat},
    unsigned bits bytes = .ok (n, rest) → rest.length < bytes.length
  | _, [], _, _, h => by simp [unsigned] at h
  | bits, b :: bytes, rest, n, h => by
    simp only [unsigned] at h
    split at h
    · split at h
      · simp only [Except.ok.injEq, Prod.mk.injEq] at h
        simp [← h.2]
      · cases h
    · split at h
      · cases h
      · split at h
        · rename_i high rest' tail
          simp only [Except.ok.injEq, Prod.mk.injEq] at h
          have := unsigned_shorter tail
          simp only [List.length_cons, ← h.2]
          omega
        · cases h

/-! ## Bytes and texts with their size in front -/

/-- **Sized bytes read back.** -/
theorem sized_write (bytes rest : List UInt8) (fits : bytes.length < twoTo 32) :
    (do take (← u32)) (Writer.sized bytes ++ rest) = .ok (bytes, rest) := by
  rw [Writer.sized, List.append_assoc, bind_of_ok (u32_write _ fits)]
  exact take_ok_iff.2 ⟨rfl, rfl⟩

theorem count_ok_iff {limit n : Nat} {what : String} {bytes rest : List UInt8} :
    count limit what bytes = .ok (n, rest) ↔ u32 bytes = .ok (n, rest) ∧ n ≤ limit := by
  unfold count
  rw [bind_ok_iff]
  constructor
  · rintro ⟨m, between, read, h⟩
    split at h
    · cases h
    · rw [pure_ok_iff] at h
      obtain ⟨rfl, rfl⟩ := h
      exact ⟨read, by omega⟩
  · rintro ⟨read, le⟩
    refine ⟨n, rest, read, ?_⟩
    rw [if_neg (by omega)]
    rfl

theorem toByteArray_eq_iff {bytes : List UInt8} {a : ByteArray} :
    bytes.toByteArray = a ↔ bytes = a.data.toList := by
  constructor
  · rintro rfl
    exact List.toList_data_toByteArray.symm
  · rintro rfl
    exact ByteArray.ext (by simp)

/-- Bytes are the encoding of a text exactly if they decode to it. -/
theorem fromUTF8_eq_some_iff {bytes : List UInt8} {s : String} :
    String.fromUTF8? bytes.toByteArray = some s ↔ bytes = s.toUTF8.data.toList := by
  rw [← toByteArray_eq_iff, String.fromUTF8?]
  constructor
  · intro h
    split at h
    · simp only [Option.some.injEq] at h
      rw [← h]; rfl
    · cases h
  · intro h
    rw [dif_pos (by rw [h]; exact s.isValidUTF8), Option.some.injEq]
    exact String.toByteArray_inj.1 h

theorem length_toUTF8 (s : String) : s.toUTF8.data.toList.length = s.utf8ByteSize := rfl

/-- **A text is read** from a size within the limit and its encoding. -/
theorem text_ok_iff {bytes rest : List UInt8} {s : String} :
    text bytes = .ok (s, rest) ↔
      s.utf8ByteSize ≤ maxTextSize ∧ u32 bytes = .ok (s.utf8ByteSize, s.toUTF8.data.toList ++ rest) := by
  unfold text
  simp only [bind_ok_iff, count_ok_iff, take_ok_iff]
  constructor
  · rintro ⟨n, between, ⟨size, le⟩, encoded, _, ⟨rfl, rfl⟩, h⟩
    cases decoded : String.fromUTF8? encoded.toByteArray with
    | none => simp [decoded, fail] at h
    | some t =>
      simp only [decoded, pure_ok_iff] at h
      obtain ⟨rfl, rfl⟩ := h
      rw [fromUTF8_eq_some_iff] at decoded
      subst decoded
      exact ⟨le, size⟩
  · rintro ⟨le, size⟩
    refine ⟨_, _, ⟨size, le⟩, _, _, ⟨rfl, length_toUTF8 s⟩, ?_⟩
    rw [fromUTF8_eq_some_iff.2 rfl]
    rfl

/-- **A text reads back**, if it is not too long. -/
theorem text_write {s : String} {rest : List UInt8} (fits : s.utf8ByteSize ≤ maxTextSize) :
    text (Writer.text s ++ rest) = .ok (s, rest) := by
  refine text_ok_iff.2 ⟨fits, ?_⟩
  rw [Writer.text, Writer.sized, List.append_assoc, length_toUTF8]
  exact u32_write _ (Nat.lt_of_le_of_lt fits (by decide))

/-! ## Vectors -/

/-- **Items read back one after another.** -/
theorem vector_write (item : Reader α) (write : α → List UInt8) (rest : List UInt8) : ∀ {xs : List α},
    (∀ x ∈ xs, ∀ rest, item (write x ++ rest) = .ok (x, rest)) →
      vector item xs.length (xs.flatMap write ++ rest) = .ok (xs, rest)
  | [], _ => rfl
  | x :: xs, reads => by
    rw [List.length_cons, vector, List.flatMap_cons, List.append_assoc,
      bind_of_ok (reads x (by simp) _),
      bind_of_ok (vector_write item write rest fun y mem => reads y (List.mem_cons_of_mem x mem))]
    rfl

/-- What holds of every item that can be read holds of all items of a vector. -/
theorem vector_forall {item : Reader α} {P : α → Prop}
    (reads : ∀ bytes x rest, item bytes = .ok (x, rest) → P x) :
    ∀ {count : Nat} {bytes rest : List UInt8} {xs : List α},
      vector item count bytes = .ok (xs, rest) → xs.length = count ∧ ∀ x ∈ xs, P x
  | 0, bytes, rest, xs, h => by
    simp only [vector, pure_ok_iff] at h
    simp [← h.1]
  | count + 1, bytes, rest, xs, h => by
    simp only [vector, bind_ok_iff, pure_ok_iff] at h
    obtain ⟨x, _, first, ys, _, others, rfl, rfl⟩ := h
    obtain ⟨length, all⟩ := vector_forall reads others
    refine ⟨by simp [length], ?_⟩
    simp only [List.mem_cons, forall_eq_or_imp]
    exact ⟨reads _ _ _ first, all⟩

end WasmLens.Wasm.Reader
