import DocStore.Number.Format
import DocStore.Proofs.Number.Binary64
import Mathlib.Tactic.Ring

namespace DocStore

/-- A significand above an exponent field; the one past the greatest begins the next field. -/
theorem FloatFormat.unitsOf_shift (format : FloatFormat) (shift significand : Nat)
    (normal : shift = 0 ∨ 2 ^ format.fractionBits ≤ significand)
    (bounded : significand ≤ 2 * 2 ^ format.fractionBits) :
    format.unitsOf (shift * 2 ^ format.fractionBits + significand) = significand * 2 ^ shift := by
  have positive : 0 < 2 ^ format.fractionBits := Nat.two_pow_pos _
  unfold unitsOf
  generalize 2 ^ format.fractionBits = scale at *
  have field : (shift * scale + significand) / scale = shift + significand / scale := by
    rw [Nat.add_comm, Nat.add_mul_div_right _ _ positive, Nat.add_comm]
  have fraction : (shift * scale + significand) % scale = significand % scale := by
    rw [Nat.add_comm, Nat.add_mul_mod_self_right]
  simp only [field, fraction]
  rcases Nat.lt_or_ge significand scale with small | large
  · obtain rfl : shift = 0 := by omega
    simp [Nat.div_eq_of_lt small, Nat.mod_eq_of_lt small]
  · rcases Nat.lt_or_ge significand (2 * scale) with within | next
    · have one : significand / scale = 1 :=
        Nat.div_eq_of_lt_le (by omega) (by omega)
      have rest : significand % scale = significand - scale := by
        rw [Nat.mod_eq_sub_mod large, Nat.mod_eq_of_lt (by omega)]
      rw [one, rest, if_neg (Nat.succ_ne_zero _), Nat.add_sub_cancel,
        Nat.add_sub_cancel' large]
    · obtain rfl : significand = 2 * scale := by omega
      rw [Nat.mul_div_cancel _ positive, Nat.mul_mod_left, if_neg (by omega), Nat.add_zero,
        show shift + 2 - 1 = shift + 1 from rfl]
      ring

/-- The quotient that a rounded encoding keeps has one bit more than the fraction, or fewer bits
without an exponent. -/
theorem significand_bounds (quotient bits : Nat) :
    (quotient.log2 - bits = 0 ∨ 2 ^ bits ≤ quotient / 2 ^ (quotient.log2 - bits)) ∧
      quotient / 2 ^ (quotient.log2 - bits) < 2 * 2 ^ bits := by
  have upper : quotient < 2 ^ (quotient.log2 + 1) := Nat.lt_log2_self
  rw [← Nat.pow_succ']
  rcases Nat.lt_or_ge quotient.log2 (bits + 1) with small | large
  · have within : quotient < 2 ^ (bits + 1) :=
      Nat.lt_of_lt_of_le upper (Nat.pow_le_pow_right (by decide) small)
    have none : quotient.log2 - bits = 0 := by omega
    rw [none]
    exact ⟨.inl rfl, by simpa using within⟩
  · have some : quotient ≠ 0 := by
      rintro rfl
      simp at large
    have lower := Nat.log2_self_le some
    have scale : 0 < 2 ^ (quotient.log2 - bits) := Nat.two_pow_pos _
    refine ⟨.inr ?_, ?_⟩
    · rw [Nat.le_div_iff_mul_le scale, ← Nat.pow_add]
      exact Nat.le_trans (Nat.pow_le_pow_right (by decide) (by omega)) lower
    · rw [Nat.div_lt_iff_lt_mul scale, ← Nat.pow_add]
      exact Nat.lt_of_lt_of_le upper (Nat.pow_le_pow_right (by decide) (by omega))

namespace Binary64

theorem unitsOf_shift (shift significand : Nat) (normal : shift = 0 ∨ 2 ^ 52 ≤ significand)
    (bounded : significand ≤ 2 ^ 53) :
    unitsOf (shift * 2 ^ 52 + significand) = significand * 2 ^ shift :=
  FloatFormat.double.unitsOf_shift shift significand normal bounded

theorem unitsOf_of_lt {significand : Nat} (small : significand < 2 ^ 52) :
    unitsOf significand = significand := by
  have here := unitsOf_shift 0 significand (.inl rfl) (by omega)
  simpa using here

/-- Every encoding has such a significand. -/
theorem exists_significand (encoding : Nat) :
    ∃ shift significand, encoding = shift * 2 ^ 52 + significand ∧
      (shift = 0 ∨ 2 ^ 52 ≤ significand) ∧ significand < 2 ^ 53 := by
  rcases Nat.lt_or_ge encoding (2 ^ 52) with small | large
  · exact ⟨0, encoding, by omega, .inl rfl, by omega⟩
  · refine ⟨encoding / 2 ^ 52 - 1, 2 ^ 52 + encoding % 2 ^ 52, ?_, .inr ?_, ?_⟩ <;> omega

/-- The ratio lies between the midpoints to the neighbours of the encoding; at a midpoint the
encoding is even. -/
structure Nearest (encoding numerator denominator : Nat) : Prop where
  above : (unitsOf (encoding - 1) + unitsOf encoding) * denominator ≤ 2 * numerator
  below : 2 * numerator ≤ (unitsOf encoding + unitsOf (encoding + 1)) * denominator
  tie : encoding % 2 = 1 →
    (unitsOf (encoding - 1) + unitsOf encoding) * denominator ≠ 2 * numerator ∧
      2 * numerator ≠ (unitsOf encoding + unitsOf (encoding + 1)) * denominator

namespace Nearest

variable {encoding other numerator denominator : Nat}

theorem of_readsBack {candidate scale units : Nat}
    (reads : readsBack encoding scale units candidate = true) :
    Nearest encoding (candidate * units) scale := by
  have doubled : 2 * (candidate * units) = 2 * candidate * units := (Nat.mul_assoc _ _ _).symm
  unfold readsBack at reads
  simp only at reads
  split at reads
  · next even =>
      simp only [Bool.and_eq_true, decide_eq_true_eq, ← doubled] at reads
      exact ⟨reads.1, reads.2, fun odd => by omega⟩
  · simp only [Bool.and_eq_true, decide_eq_true_eq, ← doubled] at reads
    exact ⟨Nat.le_of_lt reads.1, Nat.le_of_lt reads.2,
      fun _ => ⟨Nat.ne_of_lt reads.1, Nat.ne_of_lt reads.2⟩⟩

theorem not_lt (here : Nearest encoding numerator denominator)
    (there : Nearest other numerator denominator) (positive : 0 < denominator) :
    ¬ encoding < other := by
  intro less
  have atMost : unitsOf encoding + unitsOf (encoding + 1) ≤ unitsOf (other - 1) + unitsOf other :=
    Nat.add_le_add (unitsOf_strictMono.monotone (by omega)) (unitsOf_strictMono.monotone less)
  have between := Nat.mul_le_mul_right denominator atMost
  have upper := here.below
  have lower := there.above
  -- The ratio is the one midpoint between them, and one of the two is odd.
  have next : other = encoding + 1 := by
    by_contra apart
    have first : unitsOf encoding < unitsOf (other - 1) := unitsOf_strictMono (by omega)
    have second : unitsOf (encoding + 1) < unitsOf other := unitsOf_strictMono (by omega)
    have strictly := Nat.mul_lt_mul_of_pos_right (Nat.add_lt_add first second) positive
    omega
  rcases Nat.mod_two_eq_zero_or_one encoding with even | odd
  · exact (there.tie (by omega)).1 (by omega)
  · exact (here.tie odd).2 (by omega)

theorem unique (here : Nearest encoding numerator denominator)
    (there : Nearest other numerator denominator) (positive : 0 < denominator) :
    encoding = other :=
  Nat.le_antisymm (Nat.not_lt.mp (there.not_lt here positive))
    (Nat.not_lt.mp (here.not_lt there positive))

/-- Only the ratio counts. -/
theorem of_ratio {numerator' denominator' : Nat}
    (nearest : Nearest encoding numerator denominator)
    (same : numerator * denominator' = numerator' * denominator)
    (positive : 0 < denominator) (positive' : 0 < denominator') :
    Nearest encoding numerator' denominator' := by
  have across (units : Nat) :
      units * denominator' * denominator = units * denominator * denominator' := by ring
  have doubled : 2 * numerator' * denominator = 2 * numerator * denominator' := by
    rw [Nat.mul_assoc, ← same, Nat.mul_assoc]
  refine ⟨?_, ?_, fun odd => ⟨fun equal => ?_, fun equal => ?_⟩⟩
  · refine Nat.le_of_mul_le_mul_right ?_ positive
    rw [across, doubled]
    exact Nat.mul_le_mul_right _ nearest.above
  · refine Nat.le_of_mul_le_mul_right ?_ positive
    rw [across, doubled]
    exact Nat.mul_le_mul_right _ nearest.below
  · refine (nearest.tie odd).1 (Nat.eq_of_mul_eq_mul_right positive' ?_)
    rw [← across, ← doubled, equal]
  · refine (nearest.tie odd).2 (Nat.eq_of_mul_eq_mul_right positive' ?_)
    rw [← across, ← doubled, equal]

/-- An encoding is nearest to its own magnitude. -/
theorem unitsOf (encoding : Nat) : Nearest encoding (unitsOf encoding) 1 := by
  have after : Binary64.unitsOf encoding < Binary64.unitsOf (encoding + 1) :=
    unitsOf_strictMono (Nat.lt_succ_self encoding)
  have before : encoding ≠ 0 → Binary64.unitsOf (encoding - 1) < Binary64.unitsOf encoding :=
    fun some => unitsOf_strictMono (by omega)
  have atMost : Binary64.unitsOf (encoding - 1) ≤ Binary64.unitsOf encoding :=
    unitsOf_strictMono.monotone (Nat.sub_le encoding 1)
  exact ⟨by omega, by omega, fun odd => by have := before (by omega); omega⟩

end Nearest

theorem nearest_nearestEncoding (numerator : Nat) {denominator : Nat}
    (positive : 0 < denominator) :
    Nearest (nearestEncoding numerator denominator) numerator denominator := by
  obtain ⟨normal, bounded⟩ := significand_bounds (numerator / denominator) 52
  unfold nearestEncoding
  simp only
  generalize (numerator / denominator).log2 - 52 = shift at normal bounded ⊢
  rw [Nat.div_div_eq_div_mul] at normal bounded
  have scale : 0 < denominator * 2 ^ shift := Nat.mul_pos positive (Nat.pow_pos (by decide))
  have split := Nat.div_add_mod numerator (denominator * 2 ^ shift)
  have within := Nat.mod_lt numerator scale
  unfold roundDiv
  simp only
  generalize numerator / (denominator * 2 ^ shift) = quotient at normal bounded split ⊢
  generalize numerator % (denominator * 2 ^ shift) = remainder at split within ⊢
  have floor := unitsOf_shift shift quotient normal (Nat.le_of_lt bounded)
  have ceiling := unitsOf_shift shift (quotient + 1) (by omega) bounded
  rw [← Nat.add_assoc] at ceiling
  have floorScaled : unitsOf (shift * 2 ^ 52 + quotient) * denominator =
      denominator * 2 ^ shift * quotient := by rw [floor]; ring
  have ceilingScaled : unitsOf (shift * 2 ^ 52 + quotient + 1) * denominator =
      denominator * 2 ^ shift * quotient + denominator * 2 ^ shift := by rw [ceiling]; ring
  split
  case isTrue down =>
    have before : shift * 2 ^ 52 + quotient ≠ 0 →
        unitsOf (shift * 2 ^ 52 + quotient - 1) * denominator <
          unitsOf (shift * 2 ^ 52 + quotient) * denominator := fun some =>
      Nat.mul_lt_mul_of_pos_right (unitsOf_strictMono (by omega)) positive
    have atMost : unitsOf (shift * 2 ^ 52 + quotient - 1) * denominator ≤
        unitsOf (shift * 2 ^ 52 + quotient) * denominator :=
      Nat.mul_le_mul_right _ (unitsOf_strictMono.monotone (Nat.sub_le _ 1))
    refine ⟨?_, ?_, fun odd => ?_⟩ <;> simp only [Nat.add_mul]
    · omega
    · omega
    · have := before (by omega)
      omega
  case isFalse up =>
    have after : unitsOf (shift * 2 ^ 52 + quotient + 1) * denominator <
        unitsOf (shift * 2 ^ 52 + quotient + 1 + 1) * denominator :=
      Nat.mul_lt_mul_of_pos_right (unitsOf_strictMono (Nat.lt_succ_self _)) positive
    rw [← Nat.add_assoc]
    refine ⟨?_, ?_, fun odd => ?_⟩ <;> simp only [Nat.add_mul, Nat.add_sub_cancel]
    · omega
    · omega
    · omega

theorem nearestEncoding_eq {encoding numerator denominator : Nat}
    (nearest : Nearest encoding numerator denominator) (positive : 0 < denominator) :
    nearestEncoding numerator denominator = encoding :=
  (nearest_nearestEncoding numerator positive).unique nearest positive

@[simp] theorem nearestEncoding_unitsOf (encoding : Nat) :
    nearestEncoding (unitsOf encoding) 1 = encoding :=
  nearestEncoding_eq (.unitsOf encoding) Nat.one_pos

end Binary64

end DocStore
