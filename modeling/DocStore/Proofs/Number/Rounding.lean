import DocStore.Proofs.Number.Decimal
import Mathlib.Algebra.Order.Field.Power
import Mathlib.Data.Rat.Cast.Order
import Mathlib.Tactic.FieldSimp
import Mathlib.Tactic.Linarith

namespace DocStore

namespace Binary64

/-- A rational number from its sign and its magnitude. -/
def signed (negative : Bool) (magnitude : ℚ) : ℚ := if negative then -magnitude else magnitude

/-- The magnitude with the given encoding. -/
def magnitudeOf (encoding : Nat) : ℚ := unitsOf encoding / 2 ^ 1074

/-- The rational number that a binary64 number is. -/
def value (x : Binary64) : ℚ := x.units / 2 ^ 1074

/-- Halfway from the largest finite number to 2^1024, the one that would follow it.  Magnitudes
from here on round to infinity. -/
def overflow : ℚ := 2 ^ 1024 - 2 ^ 970

/-- No number is nearer to the value; if another one is as near, the encoding is even. -/
structure NearestTo (x : Binary64) (value : ℚ) : Prop where
  closest : ∀ y : Binary64, |value - x.value| ≤ |value - y.value|
  even : ∀ y : Binary64, y.value ≠ x.value → |value - y.value| = |value - x.value| →
    x.magnitude.val % 2 = 0

theorem value_eq_signed (x : Binary64) :
    x.value = signed x.negative (magnitudeOf x.magnitude.val) := by
  unfold value units signed magnitudeOf
  cases x.negative
  · rfl
  · rw [if_pos rfl, if_pos rfl, Int.cast_neg, Int.cast_natCast, neg_div]

theorem abs_signed (negative : Bool) (magnitude : ℚ) :
    |signed negative magnitude| = |magnitude| := by
  cases negative
  · rfl
  · exact abs_neg magnitude

theorem abs_signed_sub (negative : Bool) (left right : ℚ) :
    |signed negative left - signed negative right| = |left - right| := by
  cases negative
  · rfl
  · exact (congrArg abs (neg_sub_neg left right)).trans (abs_sub_comm right left)

theorem signed_injective (negative : Bool) : Function.Injective (signed negative) := by
  cases negative
  · exact fun _ _ same => same
  · exact neg_injective

/-- Numbers of different signs are as far apart as their magnitudes together. -/
theorem abs_signed_sub_of_ne {negative other : Bool} (different : negative ≠ other) {left right : ℚ}
    (leftNonneg : 0 ≤ left) (rightNonneg : 0 ≤ right) :
    |signed negative left - signed other right| = left + right := by
  cases negative <;> cases other
  · exact absurd rfl different
  · exact (congrArg abs (sub_neg_eq_add left right)).trans (abs_of_nonneg (by linarith))
  · refine (congrArg abs (neg_sub_left left right)).trans ?_
    rw [abs_neg, abs_of_nonneg (by linarith)]
    exact add_comm right left
  · exact absurd rfl different

theorem abs_sub_le_abs_signed_sub (negative other : Bool) {left right : ℚ} (leftNonneg : 0 ≤ left)
    (rightNonneg : 0 ≤ right) : |left - right| ≤ |signed negative left - signed other right| := by
  by_cases same : negative = other
  · rw [same, abs_signed_sub]
  · rw [abs_signed_sub_of_ne same leftNonneg rightNonneg, abs_le]
    constructor <;> linarith

theorem magnitudeOf_strictMono : StrictMono magnitudeOf := fun _ _ less =>
  div_lt_div_of_pos_right (Nat.cast_lt.mpr (unitsOf_strictMono less)) (by positivity)

@[simp] theorem magnitudeOf_zero : magnitudeOf 0 = 0 := zero_div _

theorem magnitudeOf_nonneg (encoding : Nat) : 0 ≤ magnitudeOf encoding :=
  magnitudeOf_zero ▸ magnitudeOf_strictMono.monotone (Nat.zero_le encoding)

theorem magnitudeOf_shift (shift significand : Nat) (normal : shift = 0 ∨ 2 ^ 52 ≤ significand)
    (bounded : significand ≤ 2 ^ 53) :
    magnitudeOf (shift * 2 ^ 52 + significand) = significand * 2 ^ shift / 2 ^ 1074 := by
  rw [magnitudeOf, unitsOf_shift shift significand normal bounded, Nat.cast_mul, Nat.cast_pow,
    Nat.cast_ofNat]

/-- Halfway between the largest finite magnitude and the one that would follow it. -/
theorem magnitudeOf_largest :
    magnitudeOf (2047 * 2 ^ 52 - 1) + magnitudeOf (2047 * 2 ^ 52) = 2 * overflow := by
  have largest := magnitudeOf_shift 2045 (2 ^ 53 - 1) (.inr (by decide)) (by decide)
  have next := magnitudeOf_shift 2046 (2 ^ 52) (.inr (by decide)) (by decide)
  have scaled (places : Nat) : (2 : ℚ) ^ (1074 + places) / 2 ^ 1074 = 2 ^ places := by
    rw [pow_add, mul_div_cancel_left₀ _ (by positivity)]
  have top : (2 : ℚ) ^ 1024 = 2 ^ 970 * 2 ^ 54 := (pow_add 2 970 54)
  rw [mul_div_assoc, scaled 971, pow_succ 2 970] at largest
  rw [mul_div_assoc, scaled 972, pow_add 2 970 2] at next
  rw [overflow, top]
  generalize (2 : ℚ) ^ 970 = unit at *
  rw [show 2047 * 2 ^ 52 - 1 = 2045 * 2 ^ 52 + (2 ^ 53 - 1) from rfl, largest,
    show 2047 * 2 ^ 52 = 2046 * 2 ^ 52 + 2 ^ 52 from rfl, next]
  norm_num
  ring

/-- The midpoint of two numbers says which of them is nearer. -/
private theorem abs_sub_le_iff_of_lt (value : ℚ) {low high : ℚ} (less : low < high) :
    (|value - low| ≤ |value - high| ↔ 2 * value ≤ low + high) ∧
      (|value - high| ≤ |value - low| ↔ low + high ≤ 2 * value) := by
  rcases abs_cases (value - low) with ⟨left, _⟩ | ⟨left, _⟩ <;>
    rcases abs_cases (value - high) with ⟨right, _⟩ | ⟨right, _⟩ <;>
    rw [left, right] <;> constructor <;> constructor <;> intro <;> linarith

/-- Rounding takes the encoding rather than the other one: it is as near, and nearer if it is
odd. -/
structure Preferred (value : ℚ) (encoding other : Nat) : Prop where
  near : |value - magnitudeOf encoding| ≤ |value - magnitudeOf other|
  nearer : encoding % 2 = 1 → |value - magnitudeOf other| ≠ |value - magnitudeOf encoding|

variable {value : ℚ} {encoding other : Nat}

theorem preferred_iff_of_lt (below : encoding < other) :
    Preferred value encoding other ↔
      2 * value ≤ magnitudeOf encoding + magnitudeOf other ∧
        (encoding % 2 = 1 → 2 * value ≠ magnitudeOf encoding + magnitudeOf other) := by
  obtain ⟨lower, upper⟩ := abs_sub_le_iff_of_lt value (magnitudeOf_strictMono below)
  constructor
  · rintro ⟨near, nearer⟩
    refine ⟨lower.mp near, fun odd same => nearer odd (le_antisymm (upper.mpr same.ge) near)⟩
  · rintro ⟨near, nearer⟩
    refine ⟨lower.mpr near, fun odd same => nearer odd (le_antisymm near (upper.mp same.le))⟩

theorem preferred_iff_of_gt (above : other < encoding) :
    Preferred value encoding other ↔
      magnitudeOf other + magnitudeOf encoding ≤ 2 * value ∧
        (encoding % 2 = 1 → magnitudeOf other + magnitudeOf encoding ≠ 2 * value) := by
  obtain ⟨lower, upper⟩ := abs_sub_le_iff_of_lt value (magnitudeOf_strictMono above)
  constructor
  · rintro ⟨near, nearer⟩
    refine ⟨upper.mp near, fun odd same => nearer odd (le_antisymm (lower.mpr same.ge) near)⟩
  · rintro ⟨near, nearer⟩
    refine ⟨upper.mpr near, fun odd same => nearer odd (le_antisymm near (lower.mp same.le))⟩

section

variable {numerator denominator : Nat} (positive : 0 < denominator)
  (ratio : value = numerator / denominator / 2 ^ 1074)
include positive ratio

/-- A ratio and its value lie on the same side of a midpoint. -/
private theorem midpoint_le_iff (first second : Nat) :
    (magnitudeOf first + magnitudeOf second ≤ 2 * value ↔
      (unitsOf first + unitsOf second) * denominator ≤ 2 * numerator) ∧
    (2 * value ≤ magnitudeOf first + magnitudeOf second ↔
      2 * numerator ≤ (unitsOf first + unitsOf second) * denominator) := by
  have scale : (0 : ℚ) < denominator * 2 ^ 1074 := by positivity
  have twice : 2 * value * (denominator * 2 ^ 1074) = 2 * numerator := by
    rw [ratio]
    field_simp
  have sum : (magnitudeOf first + magnitudeOf second) * (denominator * 2 ^ 1074) =
      (unitsOf first + unitsOf second) * denominator := by
    unfold magnitudeOf
    field_simp
  constructor
  · rw [← mul_le_mul_iff_left₀ scale, twice, sum]
    exact_mod_cast Iff.rfl
  · rw [← mul_le_mul_iff_left₀ scale, twice, sum]
    exact_mod_cast Iff.rfl

theorem Nearest.preferred (nearest : Nearest encoding numerator denominator)
    (different : other ≠ encoding) : Preferred value encoding other := by
  have midpoint := midpoint_le_iff positive ratio
  have lower := (midpoint _ _).1.mpr nearest.above
  have upper := (midpoint _ _).2.mpr nearest.below
  rcases Nat.lt_or_gt_of_ne different with less | greater
  · have before : magnitudeOf other ≤ magnitudeOf (encoding - 1) :=
      magnitudeOf_strictMono.monotone (by omega)
    refine (preferred_iff_of_gt less).mpr ⟨by linarith, fun odd same => ?_⟩
    exact (nearest.tie odd).1 (le_antisymm nearest.above ((midpoint _ _).2.mp (by linarith)))
  · have after : magnitudeOf (encoding + 1) ≤ magnitudeOf other :=
      magnitudeOf_strictMono.monotone greater
    refine (preferred_iff_of_lt greater).mpr ⟨by linarith, fun odd same => ?_⟩
    exact (nearest.tie odd).2 (le_antisymm nearest.below ((midpoint _ _).1.mp (by linarith)))

theorem nearest_of_preferred
    (preferred : ∀ other, other ≠ encoding → Preferred value encoding other) :
    Nearest encoding numerator denominator := by
  have midpoint := midpoint_le_iff positive ratio
  obtain ⟨upper, upperOdd⟩ :=
    (preferred_iff_of_lt (Nat.lt_succ_self encoding)).mp (preferred _ (Nat.succ_ne_self encoding))
  rcases Nat.eq_zero_or_pos encoding with rfl | some
  · -- No midpoint lies below zero.
    exact ⟨by simp [unitsOf], (midpoint _ _).2.mp upper, nofun⟩
  · obtain ⟨lower, lowerOdd⟩ := (preferred_iff_of_gt (Nat.sub_one_lt_of_lt some)).mp
      (preferred _ (Nat.sub_one_lt_of_lt some).ne)
    refine ⟨(midpoint _ _).1.mp lower, (midpoint _ _).2.mp upper,
      fun odd => ⟨fun same => ?_, fun same => ?_⟩⟩
    · exact lowerOdd odd (le_antisymm lower ((midpoint _ _).2.mpr same.ge))
    · exact upperOdd odd (le_antisymm upper ((midpoint _ _).1.mpr same.ge))

/-- Rounding to the nearest encoding prefers that one to all others. -/
theorem nearest_iff_preferred : Nearest encoding numerator denominator ↔
    ∀ other, other ≠ encoding → Preferred value encoding other :=
  ⟨fun nearest _ => nearest.preferred positive ratio, nearest_of_preferred positive ratio⟩

end

/-- To be preferred to all other encodings is to be preferred to the finite ones, when the value
does not overflow. -/
theorem preferred_iff_finite (finite : encoding < 2047 * 2 ^ 52) :
    (∀ other, other ≠ encoding → Preferred value encoding other) ↔
      value < overflow ∧
        ∀ other < 2047 * 2 ^ 52, other ≠ encoding → Preferred value encoding other := by
  have halfway := magnitudeOf_largest
  have largest : encoding ≠ 2047 * 2 ^ 52 - 1 →
      magnitudeOf encoding < magnitudeOf (2047 * 2 ^ 52 - 1) := fun smaller =>
    magnitudeOf_strictMono (by omega)
  constructor
  · intro preferred
    refine ⟨?_, fun other _ => preferred other⟩
    obtain ⟨upper, odd⟩ := (preferred_iff_of_lt finite).mp (preferred _ finite.ne')
    by_cases last : encoding = 2047 * 2 ^ 52 - 1
    · have apart := odd (last ▸ by decide)
      rw [last, halfway] at upper apart
      have within := lt_of_le_of_ne upper apart
      linarith
    · have smaller := largest last
      linarith
  · rintro ⟨small, preferred⟩ other different
    by_cases inside : other < 2047 * 2 ^ 52
    · exact preferred other inside different
    have greater : encoding < other := by omega
    have beyond : magnitudeOf (2047 * 2 ^ 52) ≤ magnitudeOf other :=
      magnitudeOf_strictMono.monotone (Nat.not_lt.mp inside)
    have below : 2 * value < magnitudeOf encoding + magnitudeOf other := by
      by_cases last : encoding = 2047 * 2 ^ 52 - 1
      · rw [last]
        linarith
      · obtain ⟨upper, -⟩ := (preferred_iff_of_lt (show encoding < 2047 * 2 ^ 52 - 1 by omega)).mp
          (preferred _ (by decide) (Ne.symm last))
        have grows : magnitudeOf (2047 * 2 ^ 52 - 1) < magnitudeOf (2047 * 2 ^ 52) :=
          magnitudeOf_strictMono (by decide)
        linarith
    exact (preferred_iff_of_lt greater).mpr ⟨below.le, fun _ => below.ne⟩

/-- Values below the overflow have a finite encoding as the nearest one. -/
theorem nearestEncoding_finite_iff {numerator denominator : Nat} (positive : 0 < denominator)
    (ratio : value = numerator / denominator / 2 ^ 1074) :
    nearestEncoding numerator denominator < 2047 * 2 ^ 52 ↔ value < overflow := by
  have preferred (other : Nat) (different : other ≠ nearestEncoding numerator denominator) :=
    (nearest_nearestEncoding numerator positive).preferred positive ratio different
  constructor
  · intro finite
    exact ((preferred_iff_finite finite).mp preferred).1
  · intro small
    by_contra infinite
    have greater : 2047 * 2 ^ 52 - 1 < nearestEncoding numerator denominator := by omega
    obtain ⟨lower, -⟩ := (preferred_iff_of_gt greater).mp (preferred _ greater.ne)
    have beyond : magnitudeOf (2047 * 2 ^ 52) ≤
        magnitudeOf (nearestEncoding numerator denominator) :=
      magnitudeOf_strictMono.monotone (Nat.not_lt.mp infinite)
    have halfway := magnitudeOf_largest
    linarith

/-- The nearest number among those of either sign has the sign of the value. -/
theorem nearestTo_signed_iff {x : Binary64} (nonneg : 0 ≤ value) :
    x.NearestTo (signed x.negative value) ↔
      ∀ other < 2047 * 2 ^ 52, other ≠ x.magnitude.val →
        Preferred value x.magnitude.val other := by
  have here : |signed x.negative value - x.value| = |value - magnitudeOf x.magnitude.val| := by
    rw [value_eq_signed, abs_signed_sub]
  constructor
  · intro nearest other finite different
    have there : (⟨x.negative, ⟨other, finite⟩⟩ : Binary64).value =
        signed x.negative (magnitudeOf other) := value_eq_signed _
    have apart : signed x.negative (magnitudeOf other) ≠ x.value := by
      rw [value_eq_signed]
      exact fun same =>
        different (magnitudeOf_strictMono.injective (signed_injective x.negative same))
    have closest := nearest.closest ⟨x.negative, ⟨other, finite⟩⟩
    have even := nearest.even ⟨x.negative, ⟨other, finite⟩⟩
    rw [there, abs_signed_sub, here] at closest even
    refine ⟨closest, fun odd same => ?_⟩
    have := even apart same
    omega
  · intro preferred
    have near (other : Nat) (finite : other < 2047 * 2 ^ 52) :
        |value - magnitudeOf x.magnitude.val| ≤ |value - magnitudeOf other| := by
      by_cases same : other = x.magnitude.val
      · rw [same]
      · exact (preferred other finite same).near
    refine ⟨fun y => ?_, fun y apart same => ?_⟩
    · rw [here, y.value_eq_signed]
      exact (near _ y.magnitude.isLt).trans
        (abs_sub_le_abs_signed_sub x.negative y.negative nonneg (magnitudeOf_nonneg _))
    · rw [here, y.value_eq_signed] at same
      by_contra odd
      replace odd : x.magnitude.val % 2 = 1 := by omega
      by_cases signs : y.negative = x.negative
      · rw [signs, abs_signed_sub] at same
        refine (preferred _ y.magnitude.isLt fun equal => apart ?_).nearer odd same
        rw [y.value_eq_signed, x.value_eq_signed, signs, equal]
      · -- A number on the other side of zero is farther away than zero.
        have zero := preferred 0 (by decide) (by omega)
        rw [abs_signed_sub_of_ne (Ne.symm signs) nonneg (magnitudeOf_nonneg _)] at same
        have within := lt_of_le_of_ne zero.near (zero.nearer odd).symm
        rw [magnitudeOf_zero, sub_zero, abs_of_nonneg nonneg, ← same] at within
        have := magnitudeOf_nonneg y.magnitude.val
        linarith

/-- The ratio in which a decimal is rounded. -/
private theorem decimal_eq_ratio (digits : Nat) (power : Int) :
    (digits * 10 ^ power : ℚ) = ShortDecimal.numerator ⟨digits, power⟩ /
      ShortDecimal.denominator ⟨digits, power⟩ / 2 ^ 1074 := by
  have split : (10 : ℚ) ^ power = 10 ^ power.toNat / 10 ^ (-power).toNat := by
    rcases Int.le_total 0 power with nonneg | nonpos
    · lift power to Nat using nonneg
      simp
    · obtain ⟨places, rfl⟩ := Int.exists_eq_neg_ofNat nonpos
      simp
  simp only [ShortDecimal.numerator, ShortDecimal.denominator, split, Nat.cast_mul, Nat.cast_pow,
    Nat.cast_ofNat]
  field_simp

variable {negative : Bool} {digits : Nat} {power : Int}

/-- A decimal is read exactly when it does not overflow. -/
theorem exists_ofDecimal?_iff :
    (∃ x, ofDecimal? negative digits power = some x) ↔ (digits * 10 ^ power : ℚ) < overflow := by
  rw [← nearestEncoding_finite_iff (ShortDecimal.denominator_pos _) (decimal_eq_ratio digits power),
    ofDecimal?_eq, ofEncoding?]
  split
  · next finite => exact ⟨fun _ => finite, fun _ => ⟨_, rfl⟩⟩
  · next infinite =>
    refine ⟨?_, fun finite => absurd finite infinite⟩
    rintro ⟨x, found⟩
    cases found

/-- A decimal is read as the number of its sign that is nearest to it. -/
theorem ofDecimal?_eq_some_iff {x : Binary64} :
    ofDecimal? negative digits power = some x ↔
      x.negative = negative ∧ (digits * 10 ^ power : ℚ) < overflow ∧
        x.NearestTo (signed negative (digits * 10 ^ power)) := by
  have positive := ShortDecimal.denominator_pos ⟨digits, power⟩
  have nonneg : (0 : ℚ) ≤ digits * 10 ^ power := by positivity
  have encodes : nearestEncoding (ShortDecimal.numerator ⟨digits, power⟩)
      (ShortDecimal.denominator ⟨digits, power⟩) = x.magnitude.val ↔
        ShortDecimal.RoundsTo ⟨digits, power⟩ x.magnitude.val :=
    ⟨fun same => same ▸ nearest_nearestEncoding _ positive,
      fun nearest => nearestEncoding_eq nearest positive⟩
  rw [ofDecimal?_eq, ofEncoding?_eq_some_iff, eq_comm (a := x.magnitude.val), encodes,
    ShortDecimal.RoundsTo, nearest_iff_preferred positive (decimal_eq_ratio digits power),
    preferred_iff_finite x.magnitude.isLt]
  refine and_congr_right fun sign => and_congr_right fun _ => ?_
  rw [← sign, nearestTo_signed_iff nonneg]

end Binary64

end DocStore
