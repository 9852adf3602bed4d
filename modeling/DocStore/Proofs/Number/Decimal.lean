import DocStore.Proofs.Number.Layout
import DocStore.Proofs.Number.Shortest

namespace DocStore

namespace Binary64

private theorem digits_bounds {digits : Nat} (some : digits ≠ 0) :
    10 ^ (digitCount digits - 1) ≤ digits ∧ digits < 10 ^ digitCount digits := by
  have positive : 0 < digitCount digits := List.length_pos_iff.mpr Nat.toDigits_ne_nil
  refine ⟨?_, (Nat.length_toDigits_le_iff (by decide) positive).mp (Nat.le_refl _)⟩
  rcases Nat.eq_zero_or_pos (digitCount digits - 1) with one | more
  · rw [one]
    exact Nat.pos_of_ne_zero some
  · refine Nat.not_lt.mp fun below => ?_
    have shorter := (Nat.length_toDigits_le_iff (b := 10) (by decide) more).mpr below
    unfold digitCount at shorter positive
    omega

private theorem ten_pow_le {digits : Nat} (power : Int) (places : Nat) (some : digits ≠ 0)
    (many : places < digitCount digits + power) :
    10 ^ places * 10 ^ (-power).toNat ≤ digits * 10 ^ power.toNat := by
  refine Nat.le_trans ?_ (Nat.mul_le_mul_right _ (digits_bounds some).1)
  rw [← Nat.pow_add, ← Nat.pow_add]
  exact Nat.pow_le_pow_right (by decide) (by omega)

private theorem lt_ten_pow {digits : Nat} (power : Int) (places : Nat) (some : digits ≠ 0)
    (few : digitCount digits + power + places ≤ 0) :
    digits * 10 ^ power.toNat * 10 ^ places < 10 ^ (-power).toNat := by
  rw [Nat.mul_assoc, ← Nat.pow_add]
  refine Nat.lt_of_lt_of_le
    (Nat.mul_lt_mul_of_pos_right (digits_bounds some).2 (Nat.pow_pos (by decide))) ?_
  rw [← Nat.pow_add]
  exact Nat.pow_le_pow_right (by decide) (by omega)

private theorem finite_lt_ten_pow : 2 ^ 52 * 2 ^ 2046 < 2 ^ 1074 * 10 ^ 310 := by decide +kernel

private theorem two_units_le_ten_pow : 2 * 2 ^ 1074 ≤ 10 ^ 331 := by decide +kernel

/-- Decimals near finite numbers have few integer digits. -/
private theorem integerDigits_le {digits encoding : Nat} {power : Int}
    (rounds : ShortDecimal.RoundsTo ⟨digits, power⟩ encoding) (some : digits ≠ 0)
    (finite : encoding < 2047 * 2 ^ 52) : (digitCount digits : Int) + power ≤ 310 := by
  refine Int.not_lt.mp fun many => ?_
  have greatest := unitsOf_shift 2046 (2 ^ 52) (.inr (Nat.le_refl _)) (by decide)
  have tooLarge := finite_lt_ten_pow
  rw [← greatest] at tooLarge
  have here : unitsOf encoding ≤ unitsOf (2046 * 2 ^ 52 + 2 ^ 52) :=
    unitsOf_strictMono.monotone (by omega)
  have after : unitsOf (encoding + 1) ≤ unitsOf (2046 * 2 ^ 52 + 2 ^ 52) :=
    unitsOf_strictMono.monotone (by omega)
  have lower := ten_pow_le power 310 some many
  have below := rounds.below
  simp only [ShortDecimal.numerator, ShortDecimal.denominator] at below
  generalize unitsOf (2046 * 2 ^ 52 + 2 ^ 52) = greatest at here after tooLarge
  generalize 2 ^ 1074 = unit at below tooLarge
  generalize 10 ^ 310 = bound at lower tooLarge
  generalize 10 ^ power.toNat = whole at below lower
  have positive : 0 < 10 ^ (-power).toNat := Nat.pow_pos (by decide)
  generalize 10 ^ (-power).toNat = scale at below lower positive
  have doubled : 2 * (unit * bound * scale) ≤ 2 * (greatest * scale) := by
    calc 2 * (unit * bound * scale) = 2 * (unit * (bound * scale)) := by rw [Nat.mul_assoc unit]
      _ ≤ 2 * (unit * (digits * whole)) := Nat.mul_le_mul_left 2 (Nat.mul_le_mul_left unit lower)
      _ = 2 * (digits * (unit * whole)) := by rw [Nat.mul_left_comm unit]
      _ ≤ (unitsOf encoding + unitsOf (encoding + 1)) * scale := below
      _ ≤ (greatest + greatest) * scale := Nat.mul_le_mul_right _ (Nat.add_le_add here after)
      _ = 2 * (greatest * scale) := by ring
  have scaled := Nat.le_of_mul_le_mul_left doubled (by decide)
  exact absurd (Nat.le_of_mul_le_mul_right scaled positive) (Nat.not_le.mpr tooLarge)

/-- Decimals near positive numbers do not begin too far behind the point. -/
private theorem integerDigits_ge {digits encoding : Nat} {power : Int}
    (rounds : ShortDecimal.RoundsTo ⟨digits, power⟩ encoding) (some : digits ≠ 0)
    (positive : 0 < encoding) : -330 ≤ (digitCount digits : Int) + power := by
  refine Int.not_lt.mp fun few => ?_
  have least : 0 < unitsOf (encoding - 1) + unitsOf encoding := by
    have := unitsOf_strictMono positive
    omega
  have upper := lt_ten_pow power 331 some (by omega)
  have above := rounds.above
  have tooSmall := two_units_le_ten_pow
  simp only [ShortDecimal.numerator, ShortDecimal.denominator] at above
  generalize 2 ^ 1074 = unit at above tooSmall
  generalize 10 ^ 331 = bound at upper tooSmall
  generalize 10 ^ power.toNat = whole at above upper
  generalize 10 ^ (-power).toNat = scale at above upper
  have reached : scale ≤ digits * whole * bound := by
    calc scale ≤ (unitsOf (encoding - 1) + unitsOf encoding) * scale :=
          Nat.le_mul_of_pos_left scale least
      _ ≤ 2 * (digits * (unit * whole)) := above
      _ = digits * whole * (2 * unit) := by ring
      _ ≤ digits * whole * bound := Nat.mul_le_mul_left _ tooSmall
  omega

/-- A decimal is rounded as its ratio is; the bounds on its digits only save work. -/
theorem ofDecimal?_eq (negative : Bool) (digits : Nat) (power : Int) :
    ofDecimal? negative digits power = ofEncoding? negative
      (nearestEncoding (ShortDecimal.numerator ⟨digits, power⟩)
        (ShortDecimal.denominator ⟨digits, power⟩)) := by
  have rounds : ShortDecimal.RoundsTo ⟨digits, power⟩ (nearestEncoding
      (ShortDecimal.numerator ⟨digits, power⟩) (ShortDecimal.denominator ⟨digits, power⟩)) :=
    nearest_nearestEncoding _ (ShortDecimal.denominator_pos _)
  have nonzero := rounds.digits_ne_zero
  generalize found : nearestEncoding _ _ = encoding at rounds nonzero ⊢
  unfold ofDecimal?
  split
  case isTrue zero =>
    rw [Nat.eq_zero_of_not_pos fun positive => nonzero positive zero]
    rfl
  case isFalse some =>
    dsimp only
    split
    case isTrue many =>
      have infinite : ¬ encoding < 2047 * 2 ^ 52 := fun finite =>
        absurd (integerDigits_le rounds some finite) (Int.not_le.mpr many)
      rw [ofEncoding?, dif_neg infinite]
    case isFalse =>
      split
      case isTrue few =>
        rw [Nat.eq_zero_of_not_pos fun positive =>
          absurd (integerDigits_ge rounds some positive) (Int.not_le.mpr few)]
        rfl
      case isFalse =>
        simp only [ShortDecimal.numerator, ShortDecimal.denominator] at found
        unfold ofRatio?
        generalize 2 ^ 1074 = unit at found ⊢
        split
        case isTrue whole =>
          have none : (-power).toNat = 0 := by omega
          rw [none, Nat.pow_zero, Nat.mul_comm unit, ← Nat.mul_assoc] at found
          rw [found]
        case isFalse fractional =>
          have none : power.toNat = 0 := by omega
          rw [none, Nat.pow_zero, Nat.mul_one] at found
          rw [found]

/-- A decimal is read as the number that is nearest to it. -/
theorem ofDecimal?_of_roundsTo {x : Binary64} {digits : Nat} {power : Int}
    (rounds : ShortDecimal.RoundsTo ⟨digits, power⟩ x.magnitude.val) :
    ofDecimal? x.negative digits power = some x := by
  rw [ofDecimal?_eq, nearestEncoding_eq rounds (ShortDecimal.denominator_pos _),
    ofEncoding?_eq_some_iff.mpr ⟨rfl, rfl⟩]

/-- Integers of 64 bits are far below the greatest finite number. -/
private theorem nearestEncoding_lt {magnitude : Nat} (small : magnitude < 2 ^ 64) :
    nearestEncoding (magnitude * 2 ^ 1074) 1 < 2047 * 2 ^ 52 := by
  have nearest : Nearest (nearestEncoding (magnitude * 2 ^ 1074) 1) (magnitude * 2 ^ 1074) 1 :=
    nearest_nearestEncoding _ (by decide)
  generalize nearestEncoding (magnitude * 2 ^ 1074) 1 = encoding at nearest ⊢
  have bound : unitsOf (1086 * 2 ^ 52 + 2 ^ 52) = 2 ^ 52 * 2 ^ 1086 :=
    unitsOf_shift 1086 (2 ^ 52) (.inr (Nat.le_refl _)) (by decide)
  have scale : (2 : Nat) ^ 52 * 2 ^ 1086 = 2 ^ 64 * 2 ^ 1074 := by
    rw [← Nat.pow_add, ← Nat.pow_add]
  refine Nat.lt_of_not_le fun large => ?_
  -- Otherwise the ratio would lie above the number 2^64.
  have before : unitsOf (1086 * 2 ^ 52 + 2 ^ 52) ≤ unitsOf (encoding - 1) :=
    unitsOf_strictMono.monotone (by omega)
  have after : unitsOf (encoding - 1) ≤ unitsOf encoding :=
    unitsOf_strictMono.monotone (Nat.sub_le encoding 1)
  have above := nearest.above
  have positive : 0 < 2 ^ 1074 := Nat.two_pow_pos _
  rw [bound, scale] at before
  generalize 2 ^ 1074 = unit at *
  have below : magnitude * unit < 2 ^ 64 * unit := Nat.mul_lt_mul_of_pos_right small positive
  omega

/-- The digits of an integer are read as the number nearest to it. -/
theorem ofDecimal?_integer (negative : Bool) {magnitude : Nat} (small : magnitude < 2 ^ 64) :
    ofDecimal? negative magnitude 0 = some (ofInteger negative magnitude) := by
  obtain ⟨x, found⟩ : ∃ x, ofRatio? negative magnitude 1 = some x :=
    ⟨_, dif_pos (nearestEncoding_lt small)⟩
  have ratio : ofDecimal? negative magnitude 0 = ofRatio? negative magnitude 1 := by
    rw [ofDecimal?_eq]
    simp only [ShortDecimal.numerator, ShortDecimal.denominator, ofRatio?, Int.toNat_zero,
      Int.neg_zero, Nat.pow_zero, Nat.mul_one]
  rw [ratio, ofInteger, found, Option.getD_some]

open Query (NumberShape)

/-- The parts in which a number is written. -/
def shape (x : Binary64) : NumberShape :=
  if x.magnitude.val = 0 then ⟨x.negative, ['0'], some ['0'], none⟩
  else { DecimalLayout.standard.shape (shortest x.magnitude.val) with negative := x.negative }

theorem text_eq_shape (x : Binary64) : x.text.toList = x.shape.chars 'e' := by
  have written := DecimalLayout.write_eq_shape .standard (shortest x.magnitude.val)
  have unsigned := DecimalLayout.unsigned_shape .standard (shortest x.magnitude.val)
  unfold text shape
  cases x.negative with
  | true =>
      split
      · rfl
      · simp [written, NumberShape.chars, NumberShape.mantissaChars, NumberShape.exponentChars,
          unsigned]
  | false =>
      split
      · rfl
      · simp [written, NumberShape.chars, NumberShape.mantissaChars, NumberShape.exponentChars,
          unsigned]

theorem grammatical_shape (x : Binary64) : x.shape.Grammatical := by
  have written := DecimalLayout.grammatical_shape .standard (shortest x.magnitude.val)
  unfold shape
  split
  · exact ⟨rfl, fun digits same => Option.some.inj same ▸ rfl, nofun, nofun⟩
  · exact ⟨written.whole, written.fraction, written.someDigit, written.exponent⟩

theorem fractional_shape (x : Binary64) : x.shape.fraction ≠ none ∨ x.shape.exponent ≠ none := by
  unfold shape
  split
  · exact .inl nofun
  · exact DecimalLayout.fractional_shape _ _

/-- Every number is read back from its text. -/
theorem toBinary64?_shape (x : Binary64) : x.shape.toBinary64? = some x := by
  unfold shape NumberShape.toBinary64?
  split
  · next zero =>
      obtain ⟨negative, magnitude⟩ := x
      obtain rfl : magnitude = ⟨0, by decide⟩ := Fin.ext zero
      rfl
  · next some =>
      obtain ⟨zeros, digits, power⟩ :=
        DecimalLayout.digitsValue_shape .standard (shortest x.magnitude.val)
      dsimp only [NumberShape.power] at power ⊢
      rw [digits, power]
      have positive := Nat.pos_of_ne_zero some
      exact ofDecimal?_of_roundsTo
        ((ShortDecimal.roundsTo_mul_pow zeros).mpr (shortest_roundsTo positive))

end Binary64

namespace Number

open Query (NumberShape)

theorem ofInt?_natural (value : UInt64) : ofInt? value.toNat = some (.natural value) := by
  have below : value.toNat < 18446744073709551616 := value.toNat_lt
  simp [ofInt?, below]

theorem ofInt?_negative (below : Fin (2 ^ 63)) :
    ofInt? (-((below.val + 1 : Nat) : Int)) = some (.negative below) := by
  have nonnegative : ¬ (0 : Int) ≤ -((below.val + 1 : Nat) : Int) := by omega
  have magnitude : (-(-((below.val + 1 : Nat) : Int))).toNat - 1 = below.val := by omega
  simp only [ofInt?, nonnegative, if_false, magnitude, below.isLt, dite_true]

/-- The integers of numbers are those that numbers are made of. -/
theorem ofInt?_eq_some_iff {value : Int} {number : Number} :
    ofInt? value = some number ↔ number.toInt? = some value := by
  constructor
  · intro made
    unfold ofInt? at made
    split at made
    · split at made <;> cases made
      simp [toInt?]
      omega
    · split at made <;> cases made
      simp [toInt?]
      omega
  · intro read
    cases number with
    | natural value => cases read; exact ofInt?_natural value
    | negative below => cases read; exact ofInt?_negative below
    | float x => cases read

theorem exists_toInt? {value : Int} (low : -(2 ^ 63) ≤ value) (high : value < 2 ^ 63) :
    ∃ number : Number, number.toInt? = some value := by
  rcases Int.lt_or_le value 0 with negative | nonneg
  · exact ⟨.negative ⟨(-value).toNat - 1, by omega⟩, by simp [toInt?]; omega⟩
  · exact ⟨.natural (.ofNat value.toNat), by simp [toInt?]; omega⟩

/-- The parts in which a number is written. -/
def shape : Number → NumberShape
  | .natural value => .ofMagnitude false value.toNat
  | .negative below => .ofMagnitude true (below.val + 1)
  | .float x => x.shape

theorem text_eq_shape (number : Number) : number.text.toList = number.shape.chars 'e' := by
  cases number with
  | natural value =>
      simp [text, shape, NumberShape.ofMagnitude, NumberShape.chars, NumberShape.mantissaChars,
        NumberShape.exponentChars, Nat.toList_repr]
  | negative below =>
      simp [text, shape, NumberShape.ofMagnitude, NumberShape.chars, NumberShape.mantissaChars,
        NumberShape.exponentChars, Nat.toList_repr]
  | float x => exact x.text_eq_shape

end Number

end DocStore
