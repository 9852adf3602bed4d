import DocStore.Codec.Crc32c
/-!
What a checksum tells apart.

A shift can be undone: the highest bit of the polynomial is set, so the register
tells afterwards whether the polynomial was added.  Registers that differ thus
stay different whatever bytes follow, and a single byte that differs makes them
differ, however long the message is.
-/

namespace DocStore.Crc32c

theorem toNat_half (register : UInt32) : (register >>> 1).toNat = register.toNat / 2 := by
  simp [UInt32.toNat_shiftRight, Nat.shiftRight_eq_div_pow]

theorem shift_eq (register : UInt32) :
    shift register = (register >>> 1) ^^^ if register.toNat % 2 = 1 then polynomial else 0 := by
  have odd : register &&& 1 = 1 ↔ register.toNat % 2 = 1 := by
    rw [← UInt32.toNat_inj, UInt32.toNat_and]
    exact Nat.and_one_is_mod register.toNat ▸ Iff.rfl
  simp only [shift, odd]
  split
  · rfl
  · exact UInt32.xor_zero.symm

/-- After a shift the highest bit is what the lowest one was before. -/
theorem testBit_shift (register : UInt32) :
    (shift register).toNat.testBit 31 = decide (register.toNat % 2 = 1) := by
  have below : (register >>> 1).toNat < 2 ^ 31 := by
    have := register.toNat_lt
    rw [toNat_half]
    omega
  rw [shift_eq, UInt32.toNat_xor, Nat.testBit_xor, Nat.testBit_lt_two_pow below, Bool.false_xor]
  by_cases odd : register.toNat % 2 = 1
  · simp only [odd, if_true, decide_true]
    decide
  · simp [odd]

theorem shift_inj {a b : UInt32} (same : shift a = shift b) : a = b := by
  have odd : a.toNat % 2 = 1 ↔ b.toNat % 2 = 1 := by
    rw [← decide_eq_decide, ← testBit_shift, ← testBit_shift, same]
  rw [shift_eq, shift_eq] at same
  simp only [odd, UInt32.xor_left_inj] at same
  have halves : a.toNat / 2 = b.toNat / 2 := by rw [← toNat_half, ← toNat_half, same]
  rw [← UInt32.toNat_inj]
  omega

theorem repeat_shift_inj (count : Nat) {a b : UInt32}
    (same : Nat.repeat shift count a = Nat.repeat shift count b) : a = b := by
  induction count with
  | zero => exact same
  | succ count ih => exact ih (shift_inj same)

theorem foldl_feed_inj (bytes : Bytes) {a b : UInt32}
    (same : bytes.foldl feed a = bytes.foldl feed b) : a = b := by
  induction bytes generalizing a b with
  | nil => exact same
  | cons byte rest ih =>
      have fed := repeat_shift_inj 8 (ih same)
      exact UInt32.xor_left_inj byte.toUInt32 |>.mp fed

theorem feed_byte_inj {register : UInt32} {a b : UInt8} (same : feed register a = feed register b) :
    a = b := by
  have fed := repeat_shift_inj 8 same
  exact UInt8.toUInt32_inj.mp ((UInt32.xor_right_inj register).mp fed)

/-- Messages that differ in one byte have different checksums. -/
theorem checksum_set_ne {bytes : Bytes} {place : Nat} {byte : UInt8} (inside : place < bytes.length)
    (changed : bytes[place] ≠ byte) : checksum (bytes.set place byte) ≠ checksum bytes := by
  intro same
  have whole : bytes = bytes.take place ++ bytes[place] :: bytes.drop (place + 1) := by simp
  have damaged : bytes.set place byte = bytes.take place ++ byte :: bytes.drop (place + 1) := by
    rw [List.set_eq_take_append_cons_drop, if_pos inside]
  rw [checksum, checksum, UInt32.xor_left_inj, damaged] at same
  conv at same => rhs; rw [whole]
  simp only [List.foldl_append, List.foldl_cons] at same
  exact changed (feed_byte_inj (foldl_feed_inj _ same)).symm

end DocStore.Crc32c
