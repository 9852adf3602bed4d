import DocStore.Number.Shortest
import DocStore.Proofs.Number.Nearest
import Mathlib.Algebra.Order.Monoid.Unbundled.Pow

namespace DocStore

namespace ShortDecimal

open Binary64 (Nearest)

/-- The value in units of 2^-1074 is `numerator / denominator`. -/
def numerator (decimal : ShortDecimal) : Nat :=
  decimal.digits * (2 ^ 1074 * 10 ^ decimal.power.toNat)

def denominator (decimal : ShortDecimal) : Nat := 10 ^ (-decimal.power).toNat

/-- The magnitude nearest to the decimal has the encoding. -/
def RoundsTo (decimal : ShortDecimal) (encoding : Nat) : Prop :=
  Nearest encoding decimal.numerator decimal.denominator

theorem denominator_pos (decimal : ShortDecimal) : 0 < decimal.denominator :=
  Nat.pow_pos (by decide)

/-- A zero at the end of the digits may be moved into the power of ten. -/
theorem roundsTo_mul_ten {digits encoding : Nat} {power : Int} :
    RoundsTo ⟨digits * 10, power⟩ encoding ↔ RoundsTo ⟨digits, power + 1⟩ encoding := by
  have same : numerator ⟨digits * 10, power⟩ * denominator ⟨digits, power + 1⟩ =
      numerator ⟨digits, power + 1⟩ * denominator ⟨digits * 10, power⟩ := by
    simp only [numerator, denominator]
    generalize 2 ^ 1074 = unit
    rcases Int.lt_or_le power 0 with negative | nonnegative
    · have upper : (-power).toNat = (-(power + 1)).toNat + 1 := by omega
      have none : power.toNat = 0 ∧ (power + 1).toNat = 0 := by omega
      rw [upper, none.1, none.2]
      ring
    · have upper : (power + 1).toNat = power.toNat + 1 := by omega
      have none : (-power).toNat = 0 ∧ (-(power + 1)).toNat = 0 := by omega
      rw [upper, none.1, none.2]
      ring
  exact ⟨fun nearest => Nearest.of_ratio nearest same (denominator_pos _) (denominator_pos _),
    fun nearest => Nearest.of_ratio nearest same.symm (denominator_pos _) (denominator_pos _)⟩

theorem roundsTo_mul_pow {digits encoding : Nat} {power : Int} (zeros : Nat) :
    RoundsTo ⟨digits * 10 ^ zeros, power - zeros⟩ encoding ↔
      RoundsTo ⟨digits, power⟩ encoding := by
  induction zeros with
  | zero => simp
  | succ zeros ih =>
      have next : power - (zeros + 1 : Nat) + 1 = power - zeros := by omega
      rw [Nat.pow_succ, ← Nat.mul_assoc, roundsTo_mul_ten, next, ih]

theorem RoundsTo.dropZeros {decimal : ShortDecimal} {encoding : Nat}
    (rounds : decimal.RoundsTo encoding) (fuel : Nat) :
    (Binary64.dropZeros fuel decimal).RoundsTo encoding := by
  induction fuel generalizing decimal with
  | zero => exact rounds
  | succ fuel ih =>
      unfold Binary64.dropZeros
      split
      · next zero =>
          refine ih (roundsTo_mul_ten.mp ?_)
          rwa [Nat.div_mul_cancel (Nat.dvd_of_mod_eq_zero zero.2)]
      · exact rounds

theorem RoundsTo.digits_ne_zero {decimal : ShortDecimal} {encoding : Nat}
    (rounds : decimal.RoundsTo encoding) (positive : 0 < encoding) : decimal.digits ≠ 0 := by
  intro zero
  have some : 0 < Binary64.unitsOf encoding := by
    rw [← Binary64.unitsOf_of_lt (show 0 < 2 ^ 52 by decide)]
    exact Binary64.unitsOf_strictMono positive
  have none : decimal.numerator = 0 := mul_eq_zero_of_left zero _
  have above := rounds.above
  rw [none, Nat.mul_zero] at above
  exact absurd above (Nat.not_le.mpr (Nat.mul_pos (by omega) decimal.denominator_pos))

end ShortDecimal

namespace Binary64

private theorem pow_le_pow_of_base {x y a b m n : Nat} (base : x ^ a ≤ y ^ b) (some : b ≠ 0)
    (positive : 0 < x) (less : b * m ≤ a * n) : x ^ m ≤ y ^ n := by
  refine (Nat.pow_le_pow_iff_left some).mp ?_
  calc (x ^ m) ^ b = x ^ (b * m) := by rw [← Nat.pow_mul, Nat.mul_comm]
    _ ≤ x ^ (a * n) := Nat.pow_le_pow_right positive less
    _ = (x ^ a) ^ n := Nat.pow_mul _ _ _
    _ ≤ (y ^ b) ^ n := Nat.pow_le_pow_left base n
    _ = (y ^ n) ^ b := Nat.pow_right_comm _ _ _

private theorem ten_pow_1233_le : 10 ^ 1233 ≤ 2 ^ 4096 := by decide +kernel

private theorem two_pow_4096_le : 2 ^ 4096 ≤ 10 ^ 1234 := by decide +kernel

/-- The estimate from the binary logarithm is not too high. -/
private theorem reachesPower_estimate {units : Nat} (positive : units ≠ 0) :
    reachesPower units (((units.log2 : Int) - 1074) * 1233 / 4096 - 1) = true := by
  have lower := Nat.log2_self_le positive
  have floor := Int.ediv_mul_le (((units.log2 : Int) - 1074) * 1233)
    (show (4096 : Int) ≠ 0 by decide)
  have ceiling := Int.lt_ediv_add_one_mul_self (((units.log2 : Int) - 1074) * 1233)
    (show (0 : Int) < 4096 by decide)
  generalize ((units.log2 : Int) - 1074) * 1233 / 4096 = quotient at floor ceiling ⊢
  unfold reachesPower
  split
  case isTrue nonnegative =>
    rw [decide_eq_true_eq]
    have enough : 1074 ≤ units.log2 := by omega
    have ten : 10 ^ (quotient - 1).toNat ≤ 2 ^ (units.log2 - 1074) :=
      pow_le_pow_of_base ten_pow_1233_le (by decide) (by decide) (by omega)
    generalize 1074 = unit at enough ten ⊢
    exact Nat.le_trans (Nat.mul_le_mul_left _ ten) ((pow_mul_pow_sub 2 enough).trans_le lower)
  case isFalse negative =>
    rw [decide_eq_true_eq]
    have two : 2 ^ (1074 - units.log2) ≤ 10 ^ (-(quotient - 1)).toNat :=
      pow_le_pow_of_base two_pow_4096_le (by decide) (by decide) (by omega)
    generalize 1074 = unit at two ⊢
    refine Nat.le_trans ?_ (Nat.mul_le_mul lower two)
    rw [← Nat.pow_add]
    exact Nat.pow_le_pow_right (by decide) (by omega)

private theorem reachesPower_raiseExponent {units : Nat} (fuel : Nat) {exponent : Int}
    (reaches : reachesPower units exponent = true) :
    reachesPower units (raiseExponent units fuel exponent) = true := by
  induction fuel generalizing exponent with
  | zero => exact reaches
  | succ fuel ih =>
      unfold raiseExponent
      split
      · exact ih ‹_›
      · exact reaches

/-- The value has as many integer digits as its decimal exponent says, or more. -/
theorem reachesPower_decimalExponent {units : Nat} (positive : units ≠ 0) :
    reachesPower units (decimalExponent units) = true :=
  reachesPower_raiseExponent 4 (reachesPower_estimate positive)

private theorem roundDiv_cases (numerator denominator : Nat) :
    roundDiv numerator denominator = numerator / denominator ∨
      roundDiv numerator denominator = numerator / denominator + 1 := by
  simp only [roundDiv]
  split
  · exact .inl rfl
  · exact .inr rfl

theorem roundsTo_of_decimalOf? {encoding count : Nat} {exponent : Int} {decimal : ShortDecimal}
    (found : decimalOf? encoding exponent count = some decimal) : decimal.RoundsTo encoding := by
  unfold decimalOf? at found
  extract_lets power numeratorScale denominatorScale numerator below belowFits aboveFits at found
  have fits {candidate : Nat}
      (reads : readsBack encoding numeratorScale denominatorScale candidate = true) :
      ShortDecimal.RoundsTo ⟨candidate, power⟩ encoding := Nearest.of_readsBack reads
  split at found
  · next both =>
      rw [Bool.and_eq_true] at both
      obtain rfl := Option.some.inj found
      rcases roundDiv_cases numerator denominatorScale with rounded | rounded
      · exact rounded ▸ fits both.1
      · exact rounded ▸ fits both.2
  · split at found
    · next below =>
        obtain rfl := Option.some.inj found
        exact fits below
    · split at found
      · next above =>
          obtain rfl := Option.some.inj found
          exact fits above
      · cases found

/-- The midpoints around an encoding are farther apart than two parts in 10^16 of it. -/
private theorem spread {encoding : Nat} (positive : 0 < encoding) :
    2 * unitsOf encoding + 10 ^ 16 * unitsOf (encoding - 1) <
      10 ^ 16 * unitsOf (encoding + 1) := by
  obtain ⟨shift, significand, rfl, normal, bounded⟩ := exists_significand encoding
  have here := unitsOf_shift shift significand normal (Nat.le_of_lt bounded)
  have after := unitsOf_shift shift (significand + 1) (by omega) bounded
  rw [← Nat.add_assoc] at after
  by_cases inside : shift = 0 ∨ 2 ^ 52 < significand
  · -- Both neighbours have the same exponent.
    have before := unitsOf_shift shift (significand - 1) (by omega)
      (by omega)
    rw [← Nat.add_sub_assoc (by omega)] at before
    have factors : 2 * significand + 10 ^ 16 * (significand - 1) < 10 ^ 16 * (significand + 1) := by
      omega
    have scaled := Nat.mul_lt_mul_of_pos_right factors (Nat.two_pow_pos shift)
    rwa [here, after, before, ← Nat.mul_assoc, ← Nat.mul_assoc, ← Nat.mul_assoc, ← Nat.add_mul]
  · -- The neighbour below has the smaller exponent.
    obtain ⟨lower, rfl⟩ : ∃ lower, shift = lower + 1 := ⟨shift - 1, by omega⟩
    obtain rfl : significand = 2 ^ 52 := by omega
    have before := unitsOf_shift lower (2 ^ 53 - 1) (by omega) (by omega)
    have place : (lower + 1) * 2 ^ 52 + 2 ^ 52 - 1 = lower * 2 ^ 52 + (2 ^ 53 - 1) := by omega
    have scale : 0 < 2 ^ lower := Nat.two_pow_pos lower
    rw [here, after, place, before, Nat.pow_succ]
    omega

/-- Sixteen places behind the first digit, a step is at most 10^-16 of the value. -/
private theorem step_le {units : Nat} {exponent : Int}
    (reaches : reachesPower units exponent = true) :
    10 ^ 16 * (2 ^ 1074 * 10 ^ (exponent - 16).toNat) ≤ units * 10 ^ (-(exponent - 16)).toNat := by
  unfold reachesPower at reaches
  generalize 2 ^ 1074 = unit at reaches ⊢
  split at reaches
  · rw [decide_eq_true_eq] at reaches
    have places : 16 + (exponent - 16).toNat = exponent.toNat + (-(exponent - 16)).toNat := by
      omega
    calc 10 ^ 16 * (unit * 10 ^ (exponent - 16).toNat)
        = unit * 10 ^ (16 + (exponent - 16).toNat) := by rw [Nat.pow_add, Nat.mul_left_comm]
      _ = unit * 10 ^ exponent.toNat * 10 ^ (-(exponent - 16)).toNat := by
          rw [places, Nat.pow_add, Nat.mul_assoc]
      _ ≤ units * 10 ^ (-(exponent - 16)).toNat := Nat.mul_le_mul_right _ reaches
  · rw [decide_eq_true_eq] at reaches
    have none : (exponent - 16).toNat = 0 := by omega
    have places : (-(exponent - 16)).toNat = (-exponent).toNat + 16 := by omega
    calc 10 ^ 16 * (unit * 10 ^ (exponent - 16).toNat)
        = unit * 10 ^ 16 := by rw [none, Nat.pow_zero, Nat.mul_one, Nat.mul_comm]
      _ ≤ units * 10 ^ (-exponent).toNat * 10 ^ 16 := Nat.mul_le_mul_right _ reaches
      _ = units * 10 ^ (-(exponent - 16)).toNat := by rw [places, Nat.pow_add, Nat.mul_assoc]

private theorem readsBack_below_or_above {encoding numeratorScale denominatorScale : Nat}
    (positive : 0 < encoding) (scaled : 0 < denominatorScale)
    (step : 10 ^ 16 * denominatorScale ≤ unitsOf encoding * numeratorScale) :
    readsBack encoding numeratorScale denominatorScale
        (unitsOf encoding * numeratorScale / denominatorScale) = true ∨
      readsBack encoding numeratorScale denominatorScale
        (unitsOf encoding * numeratorScale / denominatorScale + 1) = true := by
  have some : 0 < numeratorScale := by
    rcases Nat.eq_zero_or_pos numeratorScale with rfl | some
    · omega
    · exact some
  have before : unitsOf (encoding - 1) * numeratorScale < unitsOf encoding * numeratorScale :=
    Nat.mul_lt_mul_of_pos_right (unitsOf_strictMono (by omega)) some
  have after : unitsOf encoding * numeratorScale < unitsOf (encoding + 1) * numeratorScale :=
    Nat.mul_lt_mul_of_pos_right (unitsOf_strictMono (by omega)) some
  have apart := Nat.mul_lt_mul_of_pos_right (spread positive) some
  have split := Nat.div_add_mod (unitsOf encoding * numeratorScale) denominatorScale
  have within := Nat.mod_lt (unitsOf encoding * numeratorScale) scaled
  rw [Nat.mul_comm denominatorScale] at split
  simp only [readsBack, Nat.add_mul, Nat.mul_add, Nat.mul_assoc, Nat.mul_one]
    at before after apart split ⊢
  generalize unitsOf (encoding - 1) * numeratorScale = lower at before apart ⊢
  generalize unitsOf (encoding + 1) * numeratorScale = upper at after apart ⊢
  generalize unitsOf encoding * numeratorScale = value at *
  generalize value / denominatorScale * denominatorScale = rounded at *
  by_cases reached : lower + value < 2 * rounded
  · left
    split <;> simp only [Bool.and_eq_true, decide_eq_true_eq] <;> omega
  · right
    split <;> simp only [Bool.and_eq_true, decide_eq_true_eq] <;> omega

/-- Seventeen digits always suffice. -/
private theorem decimalOf?_isSome {encoding : Nat} (positive : 0 < encoding) {exponent : Int}
    (reaches : reachesPower (unitsOf encoding) exponent = true) :
    (decimalOf? encoding exponent 17).isSome = true := by
  have scaled : 0 < 2 ^ 1074 * 10 ^ (exponent - 16).toNat :=
    Nat.mul_pos (Nat.two_pow_pos 1074) (Nat.pow_pos (by decide))
  have fits := readsBack_below_or_above positive scaled (step_le reaches)
  unfold decimalOf?
  extract_lets power numeratorScale denominatorScale numerator below belowFits aboveFits
  have fits : belowFits = true ∨ aboveFits = true := fits
  rcases fits with fits | fits
  · rw [fits]
    cases aboveFits <;> rfl
  · rw [fits]
    cases belowFits <;> rfl

/-- The shortest decimal of a positive magnitude is nearest to it. -/
theorem shortest_roundsTo {encoding : Nat} (positive : 0 < encoding) :
    (shortest encoding).RoundsTo encoding := by
  have some : unitsOf encoding ≠ 0 := by
    have := unitsOf_strictMono positive
    omega
  have last := decimalOf?_isSome positive (reachesPower_decimalExponent some)
  have found : (((List.range 17).map (· + 1)).findSome?
      (decimalOf? encoding (decimalExponent (unitsOf encoding)))).isSome = true :=
    List.findSome?_isSome_iff.mpr ⟨17, by decide, last⟩
  obtain ⟨decimal, first⟩ := Option.isSome_iff_exists.mp found
  obtain ⟨count, -, here⟩ := List.exists_of_findSome?_eq_some first
  unfold shortest
  simp only [first, Option.getD_some]
  exact (roundsTo_of_decimalOf? here).dropZeros 17

end Binary64

end DocStore
