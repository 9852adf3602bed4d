import DocStore.Codec.Base64Url

namespace DocStore.Base64Url

theorem digitValue?_digit {value : Nat} (below : value < 64) :
    digitValue? (digit value) = some value := by
  revert value
  decide

theorem digit_ne_dot {value : Nat} (below : value < 64) : digit value ≠ '.' := by
  revert value
  decide

/-- A character is the digit of the value that is read from it. -/
theorem digitValue?_eq_some {c : Char} {value : Nat} (read : digitValue? c = some value) :
    value < 64 ∧ digit value = c := by
  have own : Char.ofNat c.toNat = c := c.ofNat_toNat
  dsimp only [digitValue?] at read
  split at read
  case isTrue upper =>
    cases read
    refine ⟨by omega, ?_⟩
    rw [digit, if_pos (by omega), Nat.add_sub_cancel' upper.1, own]
  split at read
  case isTrue lower =>
    cases read
    refine ⟨by omega, ?_⟩
    rw [digit, if_neg (by omega), if_pos (by omega), Nat.add_sub_cancel,
      Nat.add_sub_cancel' lower.1, own]
  split at read
  case isTrue decimal =>
    cases read
    refine ⟨by omega, ?_⟩
    rw [digit, if_neg (by omega), if_neg (by omega), if_pos (by omega), Nat.add_sub_cancel,
      Nat.add_sub_cancel' decimal.1, own]
  split at read
  case isTrue hyphen =>
    cases read
    exact ⟨by decide, hyphen.symm⟩
  split at read
  case isTrue underscore =>
    cases read
    exact ⟨by decide, underscore.symm⟩
  case isFalse => cases read

theorem mapM_digitValue?_iff {text : List Char} {values : List Nat} :
    text.mapM digitValue? = some values ↔ (∀ value ∈ values, value < 64) ∧
      text = values.map digit := by
  induction text generalizing values with
  | nil => cases values <;> simp
  | cons c rest ih =>
      simp only [List.mapM_cons, Option.bind_eq_bind, Option.bind_eq_some_iff, Option.pure_def,
        Option.some.injEq, ih]
      constructor
      · rintro ⟨value, read, more, ⟨below, rfl⟩, rfl⟩
        obtain ⟨small, rfl⟩ := digitValue?_eq_some read
        exact ⟨List.forall_mem_cons.mpr ⟨small, below⟩, rfl⟩
      · rintro ⟨below, written⟩
        cases values with
        | nil => cases written
        | cons value more =>
            obtain ⟨rfl, rfl⟩ := List.cons.inj written
            obtain ⟨small, later⟩ := List.forall_mem_cons.mp below
            exact ⟨value, digitValue?_digit small, more, ⟨later, rfl⟩, rfl⟩

/-- The values of the digits of bytes. -/
def sextets : Bytes → List Nat
  | [] => []
  | [a] => [a.toNat / 4, a.toNat % 4 * 16]
  | [a, b] => [a.toNat / 4, a.toNat % 4 * 16 + b.toNat / 16, b.toNat % 16 * 4]
  | a :: b :: c :: rest =>
      a.toNat / 4 :: (a.toNat % 4 * 16 + b.toNat / 16) :: (b.toNat % 16 * 4 + c.toNat / 64) ::
        (c.toNat % 64) :: sextets rest

theorem encodeBytes_eq (bytes : Bytes) : encodeBytes bytes = (sextets bytes).map digit := by
  fun_induction encodeBytes bytes with
  | case1 => rfl
  | case2 => rfl
  | case3 => rfl
  | case4 a b c rest ih => simp [sextets, ih]

theorem sextets_lt (bytes : Bytes) : ∀ value ∈ sextets bytes, value < 64 := by
  have bound (byte : UInt8) : byte.toNat < 256 := byte.toNat_lt
  fun_induction sextets bytes with
  | case1 => exact nofun
  | case2 a =>
      have := bound a
      simp only [List.forall_mem_cons]
      exact ⟨by omega, by omega, nofun⟩
  | case3 a b =>
      have := bound a
      have := bound b
      simp only [List.forall_mem_cons]
      exact ⟨by omega, by omega, by omega, nofun⟩
  | case4 a b c rest ih =>
      have := bound a
      have := bound b
      have := bound c
      simp only [List.forall_mem_cons]
      exact ⟨by omega, by omega, by omega, by omega, ih⟩

private theorem byte_eq (byte : UInt8) {value : Nat} (below : value < 256)
    (same : byte.toNat = value) : UInt8.ofNat value = byte := by
  subst same
  exact UInt8.ofNat_toNat

theorem joinDigits_sextets (bytes : Bytes) : joinDigits (sextets bytes) = some bytes := by
  fun_induction sextets bytes with
  | case1 => rfl
  | case2 a =>
      have first := a.toNat_lt
      rw [joinDigits, if_pos (by omega), byte_eq a (by omega) (by omega)]
  | case3 a b =>
      have first := a.toNat_lt
      have second := b.toNat_lt
      rw [joinDigits, if_pos (by omega), byte_eq a (by omega) (by omega),
        byte_eq b (by omega) (by omega)]
  | case4 a b c rest ih =>
      have first := a.toNat_lt
      have second := b.toNat_lt
      have third := c.toNat_lt
      rw [joinDigits, ih, Option.map_some, byte_eq a (by omega) (by omega),
        byte_eq b (by omega) (by omega), byte_eq c (by omega) (by omega)]

private theorem toNat_byte {value : Nat} (below : value < 256) :
    (UInt8.ofNat value).toNat = value := by
  rw [UInt8.toNat_ofNat', Nat.mod_eq_of_lt below]

/-- Digits that are read as bytes are the digits of these bytes: no bit of them is left over. -/
theorem sextets_of_joinDigits {values : List Nat} {bytes : Bytes}
    (below : ∀ value ∈ values, value < 64) (joined : joinDigits values = some bytes) :
    sextets bytes = values := by
  fun_induction joinDigits values generalizing bytes with
  | case1 =>
      cases joined
      rfl
  | case2 => cases joined
  | case3 p q unused =>
      cases joined
      simp only [List.forall_mem_cons] at below
      obtain ⟨first, second, -⟩ := below
      simp only [sextets, List.cons.injEq, and_true,
        toNat_byte (show p * 4 + q / 16 < 256 by omega)]
      omega
  | case4 => cases joined
  | case5 p q r unused =>
      cases joined
      simp only [List.forall_mem_cons] at below
      obtain ⟨first, second, third, -⟩ := below
      simp only [sextets, List.cons.injEq, and_true,
        toNat_byte (show p * 4 + q / 16 < 256 by omega),
        toNat_byte (show q % 16 * 16 + r / 4 < 256 by omega)]
      omega
  | case6 => cases joined
  | case7 p q r s rest ih =>
      obtain ⟨more, inner, rfl⟩ := Option.map_eq_some_iff.mp joined
      simp only [List.forall_mem_cons] at below
      obtain ⟨first, second, third, fourth, later⟩ := below
      simp only [sextets, List.cons.injEq, ih later inner, and_true,
        toNat_byte (show p * 4 + q / 16 < 256 by omega),
        toNat_byte (show q % 16 * 16 + r / 4 < 256 by omega),
        toNat_byte (show r % 4 * 64 + s < 256 by omega)]
      omega

/-- A text is read as bytes exactly if it is what is written for them. -/
theorem decode?_eq_some_iff {text : List Char} {bytes : Bytes} :
    decode? text = some bytes ↔ text = encodeBytes bytes := by
  rw [decode?, Option.bind_eq_some_iff, encodeBytes_eq]
  constructor
  · rintro ⟨values, read, joined⟩
    obtain ⟨below, rfl⟩ := mapM_digitValue?_iff.mp read
    rw [sextets_of_joinDigits below joined]
  · rintro rfl
    exact ⟨sextets bytes, mapM_digitValue?_iff.mpr ⟨sextets_lt bytes, rfl⟩,
      joinDigits_sextets bytes⟩

theorem decode?_encodeBytes (bytes : Bytes) : decode? (encodeBytes bytes) = some bytes :=
  decode?_eq_some_iff.mpr rfl

theorem dot_notMem_encodeBytes (bytes : Bytes) : '.' ∉ encodeBytes bytes := by
  rw [encodeBytes_eq]
  intro member
  obtain ⟨value, listed, same⟩ := List.mem_map.mp member
  exact digit_ne_dot (sextets_lt bytes value listed) same

end DocStore.Base64Url
