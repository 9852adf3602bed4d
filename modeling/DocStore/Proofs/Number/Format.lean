import DocStore.Proofs.Number.Nearest

namespace DocStore.FloatFormat

/-- The encodings of finite magnitudes stay below the bit of the sign. -/
structure Signed (format : FloatFormat) : Prop where
  wide : 0 < format.bytes
  limit : format.encodingLimit ≤ format.signBit

theorem signed_half : half.Signed := ⟨by decide, by decide⟩

theorem signed_single : single.Signed := ⟨by decide, by decide⟩

theorem signed_double : double.Signed := ⟨by decide, by decide⟩

variable {format : FloatFormat} {x : Binary64} {bits : Nat}

theorem signBit_add_signBit (signed : format.Signed) :
    format.signBit + format.signBit = 256 ^ format.bytes := by
  have wide := signed.wide
  rw [signBit, ← Nat.two_mul, ← Nat.pow_succ', show (256 : Nat) = 2 ^ 8 from rfl, ← Nat.pow_mul]
  congr 1
  omega

/-- What is encoded is decoded again, and has as many bytes as the format. -/
theorem decode?_encode? (signed : format.Signed) (encoded : format.encode? x = some bits) :
    bits < 256 ^ format.bytes ∧ format.decode? bits = some x := by
  have sum := signBit_add_signBit signed
  have limit := signed.limit
  unfold encode? at encoded
  extract_lets units count shift encoding at encoded
  obtain ⟨⟨whole, exact, finite⟩, same⟩ := Option.ite_none_right_eq_some.mp encoded
  have same := Option.some.inj same
  have scaled : count * 2 ^ format.unitShift = units :=
    Nat.div_mul_cancel (Nat.dvd_of_mod_eq_zero whole)
  have value : format.unitsOf encoding = count := by
    obtain ⟨normal, bounded⟩ := significand_bounds count format.fractionBits
    have split := format.unitsOf_shift shift (count / 2 ^ shift) normal (Nat.le_of_lt bounded)
    rw [Nat.div_mul_cancel (Nat.dvd_of_mod_eq_zero exact)] at split
    exact split
  have below : encoding < format.signBit := Nat.lt_of_lt_of_le finite limit
  have signPart : bits % format.signBit = encoding ∧
      decide (format.signBit ≤ bits) = x.negative := by
    rw [← same]
    cases x.negative with
    | true => simp [Nat.add_mod_left, Nat.mod_eq_of_lt below]
    | false => simp [Nat.mod_eq_of_lt below, below]
  refine ⟨?_, ?_⟩
  · rw [← same]
    split <;> omega
  · unfold decode?
    simp only [signPart.1, finite, if_true, signPart.2, value, scaled, units]
    rw [Binary64.nearestEncoding_unitsOf, Binary64.ofEncoding?_eq_some_iff.mpr ⟨rfl, rfl⟩]

private theorem log2_shift {shift significand : Nat}
    (normal : shift = 0 ∨ 2 ^ 52 ≤ significand) (bounded : significand < 2 ^ 53) :
    (significand * 2 ^ shift).log2 - 52 = shift := by
  rcases Nat.eq_zero_or_pos shift with rfl | positive
  · rw [Nat.pow_zero, Nat.mul_one]
    rcases Nat.eq_zero_or_pos significand with rfl | some
    · rfl
    · have := (Nat.log2_lt (Nat.ne_of_gt some)).mpr bounded
      omega
  · have large : 2 ^ 52 ≤ significand := by omega
    have scale : 0 < 2 ^ shift := Nat.two_pow_pos shift
    have some : significand * 2 ^ shift ≠ 0 := Nat.mul_ne_zero (by omega) (by omega)
    have lower : 52 + shift ≤ (significand * 2 ^ shift).log2 := by
      rw [Nat.le_log2 some, Nat.pow_add]
      exact Nat.mul_le_mul_right _ large
    have upper : (significand * 2 ^ shift).log2 < 53 + shift := by
      rw [Nat.log2_lt some, Nat.pow_add]
      exact Nat.mul_lt_mul_of_pos_right bounded scale
    omega

/-- Binary64 has every number. -/
theorem exists_encode?_double (x : Binary64) : ∃ bits, double.encode? x = some bits := by
  obtain ⟨shift, significand, written, normal, bounded⟩ :=
    Binary64.exists_significand x.magnitude.val
  have units : Binary64.unitsOf x.magnitude.val = significand * 2 ^ shift := by
    rw [written, Binary64.unitsOf_shift shift significand normal (Nat.le_of_lt bounded)]
  have place := log2_shift normal bounded
  have finite : x.magnitude.val < 2047 * 2 ^ 52 := x.magnitude.isLt
  refine ⟨_, if_pos ⟨?_, ?_, ?_⟩⟩
  · exact Nat.mod_one _
  · simp only [units, double, Nat.pow_zero, Nat.div_one, place, Nat.mul_mod_left]
  · simp only [units, double, Nat.pow_zero, Nat.div_one, place,
      Nat.mul_div_cancel _ (Nat.two_pow_pos shift), encodingLimit]
    omega

end DocStore.FloatFormat
