import DocStore.Proofs.Number.Rounding
import DocStore.Proofs.Query.Number
/-!
The values of number literals.

The grammar gives every literal its value (`Decimal`).  A word is read as a
number when it is a literal whose value does not overflow: as that integer, if it
has neither point nor exponent and fits 64 bits, and otherwise as the binary64
number nearest to it (`numberLiteral?_exact_or_nearest`).
-/

namespace DocStore.Query

/-- One digit or more. -/
def Digits (text : List Char) : Prop := text ≠ [] ∧ NumberShape.isDigits text = true

/-- `digits | digits . digits? | . digits`, and the number that is written so. -/
inductive Mantissa : List Char → ℚ → Prop where
  | whole {digits : List Char} (written : Digits digits) :
      Mantissa digits (Nat.ofDigitChars 10 digits 0)
  | point {digits fraction : List Char} (written : Digits digits)
      (behind : fraction = [] ∨ Digits fraction) :
      Mantissa (digits ++ '.' :: fraction) (Nat.ofDigitChars 10 digits 0 +
        Nat.ofDigitChars 10 fraction 0 / 10 ^ fraction.length)
  | bare {fraction : List Char} (behind : Digits fraction) :
      Mantissa ('.' :: fraction) (Nat.ofDigitChars 10 fraction 0 / 10 ^ fraction.length)

/-- `([eE] [+-]? digits)?`, and the power of ten that it asks for. -/
inductive Exponent : List Char → Int → Prop where
  | none : Exponent [] 0
  | positive {mark : Char} {sign digits : List Char} (marks : mark = 'e' ∨ mark = 'E')
      (signs : sign = [] ∨ sign = ['+']) (written : Digits digits) :
      Exponent (mark :: (sign ++ digits)) (Nat.ofDigitChars 10 digits 0)
  | negative {mark : Char} {digits : List Char} (marks : mark = 'e' ∨ mark = 'E')
      (written : Digits digits) :
      Exponent (mark :: '-' :: digits) (-(Nat.ofDigitChars 10 digits 0 : Int))

/-- `-? mantissa exponent`, and the value of the literal. -/
inductive Decimal : List Char → ℚ → Prop where
  | positive {mantissa exponent : List Char} {number : ℚ} {power : Int}
      (begins : Mantissa mantissa number) (ends : Exponent exponent power) :
      Decimal (mantissa ++ exponent) (number * 10 ^ power)
  | negative {mantissa exponent : List Char} {number : ℚ} {power : Int}
      (begins : Mantissa mantissa number) (ends : Exponent exponent power) :
      Decimal ('-' :: (mantissa ++ exponent)) (-(number * 10 ^ power))

/-- The word has neither a point nor an exponent. -/
def Plain (word : List Char) : Prop := '.' ∉ word ∧ 'e' ∉ word ∧ 'E' ∉ word

/-- What a literal of the given value is read as. -/
inductive ReadAs (word : List Char) (value : ℚ) : Number → Prop where
  | integer {number : Number} {integer : Int} (plain : Plain word) (low : -(2 ^ 63) ≤ integer)
      (high : integer < 2 ^ 63) (same : value = integer) (read : number.toInt? = some integer) :
      ReadAs word value number
  | nearest {x : Binary64} (other : ¬ (Plain word ∧ -(2 ^ 63) ≤ value ∧ value < 2 ^ 63))
      (sign : x.negative = true ↔ word.head? = some '-') (near : x.NearestTo value) :
      ReadAs word value (.float x)

namespace NumberShape

variable {shape : NumberShape} {mark : Char}

/-- The number in front of the exponent. -/
def mantissa (shape : NumberShape) : ℚ :=
  Json.digitsValue (shape.whole ++ shape.fraction.getD []) / 10 ^ (shape.fraction.getD []).length

/-- The value of the parts. -/
def value (shape : NumberShape) : ℚ :=
  Binary64.signed shape.negative (shape.mantissa * 10 ^ shape.power)

private theorem digitsValue_eq (digits : List Char) :
    Json.digitsValue digits = Nat.ofDigitChars 10 digits 0 := rfl

/-- The digits behind the point are those of a fraction. -/
theorem mantissa_eq (shape : NumberShape) : shape.mantissa = Nat.ofDigitChars 10 shape.whole 0 +
    Nat.ofDigitChars 10 (shape.fraction.getD []) 0 / 10 ^ (shape.fraction.getD []).length := by
  rw [mantissa, digitsValue_eq, Nat.ofDigitChars_append, Nat.ofDigitChars_eq_ofDigitChars_zero]
  push_cast
  field_simp

/-- The digits of a literal are those of an integer, with the point moved behind them. -/
theorem mantissa_mul_pow (shape : NumberShape) : shape.mantissa * 10 ^ shape.power =
    Json.digitsValue (shape.whole ++ shape.fraction.getD []) *
      10 ^ (shape.power - (shape.fraction.getD []).length) := by
  rw [mantissa, zpow_sub₀ (by norm_num), zpow_natCast]
  ring

private theorem mantissa_of_grammatical (grammatical : shape.Grammatical) :
    Mantissa shape.mantissaChars shape.mantissa := by
  obtain ⟨negative, whole, fraction, exponent⟩ := shape
  obtain ⟨wholeDigits, fractionDigits, someDigit, -⟩ := grammatical
  rw [mantissa_eq]
  cases fraction with
  | none =>
    have written : Digits whole := ⟨by simpa using someDigit, wholeDigits⟩
    simpa [mantissaChars, Nat.ofDigitChars] using Mantissa.whole written
  | some fraction =>
    have behind := fractionDigits fraction rfl
    cases whole with
    | nil => simpa [mantissaChars, Nat.ofDigitChars] using Mantissa.bare ⟨someDigit, behind⟩
    | cons first rest =>
      refine Mantissa.point ⟨List.cons_ne_nil _ _, wholeDigits⟩ ?_
      exact (em (fraction = [])).imp id fun some => ⟨some, behind⟩

private theorem exists_mantissa {text : List Char} {number : ℚ} (written : Mantissa text number) :
    ∃ shape : NumberShape, shape.Grammatical ∧ shape.mantissaChars = text ∧
      shape.mantissa = number := by
  cases written with
  | whole written =>
    refine ⟨⟨false, text, none, none⟩,
      ⟨written.2, nofun, by simpa using written.1, nofun⟩, List.append_nil _, ?_⟩
    simp [mantissa_eq, Nat.ofDigitChars]
  | @point digits fraction written behind =>
    have all : isDigits fraction = true := behind.elim (fun none => none ▸ rfl) (·.2)
    exact ⟨⟨false, digits, some fraction, none⟩,
      ⟨written.2, fun _ same => Option.some.inj same ▸ all, by simp [written.1], nofun⟩, rfl,
      mantissa_eq _⟩
  | @bare fraction behind =>
    exact ⟨⟨false, [], some fraction, none⟩,
      ⟨rfl, fun _ same => Option.some.inj same ▸ behind.2, behind.1, nofun⟩, rfl, rfl⟩

private theorem isMark_iff : isMark mark = true ↔ mark = 'e' ∨ mark = 'E' := by
  simp [isMark]

private theorem exponent_of_grammatical (grammatical : shape.Grammatical)
    (marks : isMark mark = true) : Exponent (shape.exponentChars mark) shape.power := by
  unfold exponentChars power
  cases found : shape.exponent with
  | none => exact .none
  | some text =>
    obtain ⟨sign, digits, rfl, written, someDigit, all⟩ := grammatical.exponent text found
    dsimp only
    rw [exponentParts_append written all]
    rcases written with rfl | rfl | rfl
    · exact .positive (isMark_iff.mp marks) (.inl rfl) ⟨someDigit, all⟩
    · exact .positive (isMark_iff.mp marks) (.inr rfl) ⟨someDigit, all⟩
    · exact .negative (isMark_iff.mp marks) ⟨someDigit, all⟩

private theorem exists_exponent {text : List Char} {power : Int} (grammatical : shape.Grammatical)
    (written : Exponent text power) : ∃ mark exponent, isMark mark = true ∧
      Grammatical { shape with exponent } ∧ exponentChars mark { shape with exponent } = text ∧
        NumberShape.power { shape with exponent } = power := by
  obtain ⟨whole, fraction, someDigit, -⟩ := grammatical
  cases written with
  | none => exact ⟨'e', none, rfl, ⟨whole, fraction, someDigit, nofun⟩, rfl, rfl⟩
  | @positive mark sign digits marks signs written =>
    have unsigned : (sign == ['-']) = false := by rcases signs with rfl | rfl <;> rfl
    have signs : sign = [] ∨ sign = ['+'] ∨ sign = ['-'] := signs.imp id .inl
    refine ⟨mark, some (sign ++ digits), isMark_iff.mpr marks,
      ⟨whole, fraction, someDigit, ?_⟩, rfl, ?_⟩
    · rintro _ ⟨⟩
      exact ⟨sign, digits, rfl, signs, written⟩
    · unfold NumberShape.power
      dsimp only
      rw [exponentParts_append signs written.2, unsigned]
      rfl
  | @negative mark digits marks written =>
    refine ⟨mark, some ('-' :: digits), isMark_iff.mpr marks,
      ⟨whole, fraction, someDigit, ?_⟩, rfl, rfl⟩
    rintro _ ⟨⟩
    exact ⟨['-'], digits, rfl, .inr (.inr rfl), written⟩

end NumberShape

/-- Literals are what the parts of numbers spell, and their values are the same. -/
theorem decimal_iff {word : List Char} {value : ℚ} :
    Decimal word value ↔ ∃ shape mark, NumberShape.Grammatical shape ∧
      NumberShape.isMark mark = true ∧ word = shape.chars mark ∧ value = shape.value := by
  constructor
  · intro written
    have parts {mantissa exponent : List Char} {number : ℚ} {power : Int} (negative : Bool)
        (begins : Mantissa mantissa number) (ends : Exponent exponent power) :
        ∃ shape mark, NumberShape.Grammatical shape ∧ NumberShape.isMark mark = true ∧
          (if negative then ['-'] else []) ++ (mantissa ++ exponent) = shape.chars mark ∧
          Binary64.signed negative (number * 10 ^ power) = shape.value := by
      obtain ⟨shape, grammatical, rfl, rfl⟩ := NumberShape.exists_mantissa begins
      obtain ⟨mark, exponent, marks, ⟨whole, fraction, someDigit, exponentDigits⟩, rfl, rfl⟩ :=
        NumberShape.exists_exponent grammatical ends
      exact ⟨{ shape with negative, exponent }, mark,
        ⟨whole, fraction, someDigit, exponentDigits⟩, marks, rfl, rfl⟩
    cases written with
    | positive begins ends => exact parts false begins ends
    | negative begins ends => exact parts true begins ends
  · rintro ⟨shape, mark, grammatical, marks, rfl, rfl⟩
    have begins := NumberShape.mantissa_of_grammatical grammatical
    have ends := NumberShape.exponent_of_grammatical grammatical marks
    rw [NumberShape.value, NumberShape.chars]
    cases shape.negative with
    | false =>
      have written := Decimal.positive begins ends
      exact written
    | true =>
      have written := Decimal.negative begins ends
      exact written

namespace NumberShape

variable {shape : NumberShape} {mark : Char}

theorem Grammatical.head?_chars (grammatical : shape.Grammatical) (mark : Char) :
    shape.negative = true ↔ (shape.chars mark).head? = some '-' := by
  unfold chars
  cases shape.negative with
  | false => simpa using grammatical.unsigned_body mark
  | true => simp

theorem Grammatical.plain_chars (grammatical : shape.Grammatical) (marks : isMark mark = true) :
    Plain (shape.chars mark) ↔ shape.fraction = none ∧ shape.exponent = none := by
  constructor
  · rintro ⟨noPoint, noSmall, noLarge⟩
    constructor
    · by_contra some
      obtain ⟨digits, fraction⟩ := Option.ne_none_iff_exists'.mp some
      exact noPoint (by simp [chars, mantissaChars, fraction])
    · by_contra some
      obtain ⟨text, exponent⟩ := Option.ne_none_iff_exists'.mp some
      have present : mark ∈ shape.chars mark := by simp [chars, exponentChars, exponent]
      rcases isMark_iff.mp marks with rfl | rfl
      · exact noSmall present
      · exact noLarge present
  · rintro ⟨fraction, exponent⟩
    have absent (c : Char) (noDigit : c.isDigit = false) (noSign : c ≠ '-') :
        c ∉ shape.chars mark := by
      intro member
      simp only [chars, mantissaChars, exponentChars, fraction, exponent, List.append_nil,
        List.mem_append] at member
      rcases member with sign | digit
      · split at sign
        · exact noSign (List.mem_singleton.mp sign)
        · cases sign
      · rw [List.all_eq_true.mp grammatical.whole c digit] at noDigit
        cases noDigit
    exact ⟨absent '.' rfl (by decide), absent 'e' rfl (by decide), absent 'E' rfl (by decide)⟩

theorem abs_value (shape : NumberShape) : |shape.value| =
    Json.digitsValue (shape.whole ++ shape.fraction.getD []) *
      10 ^ (shape.power - (shape.fraction.getD []).length) := by
  rw [value, Binary64.abs_signed, mantissa_mul_pow, abs_of_nonneg (by positivity)]

theorem exists_toBinary64?_iff :
    (∃ x, shape.toBinary64? = some x) ↔ |shape.value| < Binary64.overflow := by
  rw [abs_value]
  exact Binary64.exists_ofDecimal?_iff

theorem toBinary64?_eq_some_iff {x : Binary64} : shape.toBinary64? = some x ↔
    x.negative = shape.negative ∧ |shape.value| < Binary64.overflow ∧ x.NearestTo shape.value := by
  rw [abs_value, value, mantissa_mul_pow]
  exact Binary64.ofDecimal?_eq_some_iff

theorem value_of_integral (fraction : shape.fraction = none) (exponent : shape.exponent = none) :
    shape.value = shape.integer := by
  simp only [value, mantissa, power, fraction, exponent, integer, Binary64.signed]
  cases shape.negative <;> simp

theorem toInteger?_eq_some_iff {number : Number} (grammatical : shape.Grammatical)
    (marks : isMark mark = true) : shape.toInteger? = some number ↔
      Plain (shape.chars mark) ∧ ∃ integer : Int, -(2 ^ 63) ≤ integer ∧ integer < 2 ^ 63 ∧
        shape.value = integer ∧ number.toInt? = some integer := by
  have integral := grammatical.plain_chars marks
  by_cases plain : Plain (shape.chars mark)
  · obtain ⟨fraction, exponent⟩ := integral.mp plain
    rw [toInteger?_of_integral fraction exponent, value_of_integral fraction exponent,
      Option.ite_none_right_eq_some, Number.ofInt?_eq_some_iff]
    constructor
    · rintro ⟨⟨low, high⟩, read⟩
      exact ⟨plain, _, low, high, rfl, read⟩
    · rintro ⟨-, integer, low, high, same, read⟩
      obtain rfl := Int.cast_injective same
      exact ⟨⟨low, high⟩, read⟩
  · rw [toInteger?_of_fractional (not_and_or.mp (mt integral.mpr plain))]
    exact ⟨nofun, fun read => absurd read.1 plain⟩

theorem toInteger?_eq_none_iff (grammatical : shape.Grammatical) (marks : isMark mark = true) :
    shape.toInteger? = none ↔
      ¬ (Plain (shape.chars mark) ∧ -(2 ^ 63) ≤ shape.value ∧ shape.value < 2 ^ 63) := by
  constructor
  · rintro unread ⟨plain, low, high⟩
    obtain ⟨fraction, exponent⟩ := (grammatical.plain_chars marks).mp plain
    have value := value_of_integral fraction exponent
    rw [value] at low high
    have low : -(2 ^ 63) ≤ shape.integer := by exact_mod_cast low
    have high : shape.integer < 2 ^ 63 := by exact_mod_cast high
    obtain ⟨number, read⟩ := Number.exists_toInt? low high
    have found := (toInteger?_eq_some_iff grammatical marks).mpr
      ⟨plain, _, low, high, value, read⟩
    rw [unread] at found
    cases found
  · intro other
    by_contra read
    obtain ⟨number, found⟩ := Option.ne_none_iff_exists'.mp read
    obtain ⟨plain, integer, low, high, same, -⟩ :=
      (toInteger?_eq_some_iff grammatical marks).mp found
    refine other ⟨plain, ?_, ?_⟩
    · rw [same]
      exact_mod_cast low
    · rw [same]
      exact_mod_cast high

private theorem integer_lt_overflow {integer : Int} (low : -(2 ^ 63) ≤ integer)
    (high : integer < 2 ^ 63) : |(integer : ℚ)| < Binary64.overflow := by
  have low : -(2 ^ 63) ≤ (integer : ℚ) := by exact_mod_cast low
  have high : (integer : ℚ) < 2 ^ 63 := by exact_mod_cast high
  have large : (2 : ℚ) ^ 63 ≤ 2 ^ 970 := pow_le_pow_right₀ (by norm_num) (by norm_num)
  have top : (2 : ℚ) ^ 1024 = 2 ^ 970 * 2 ^ 54 := pow_add 2 970 54
  rw [Binary64.overflow, top]
  generalize (2 : ℚ) ^ 970 = unit at large ⊢
  rw [abs_lt]
  constructor <;> linarith

/-- The value of a literal is its integer, or the binary64 number nearest to it. -/
theorem number?_eq_some_iff {number : Number} (grammatical : shape.Grammatical)
    (marks : isMark mark = true) : shape.number? = some number ↔
      |shape.value| < Binary64.overflow ∧ ReadAs (shape.chars mark) shape.value number := by
  have sign := grammatical.head?_chars mark
  rw [number?, Option.or_eq_some_iff, Option.map_eq_some_iff]
  constructor
  · rintro (found | ⟨unread, x, nearest, rfl⟩)
    · obtain ⟨plain, integer, low, high, same, read⟩ :=
        (toInteger?_eq_some_iff grammatical marks).mp found
      exact ⟨same ▸ integer_lt_overflow low high, .integer plain low high same read⟩
    · obtain ⟨signs, small, near⟩ := toBinary64?_eq_some_iff.mp nearest
      exact ⟨small, .nearest ((toInteger?_eq_none_iff grammatical marks).mp unread)
        (signs ▸ sign) near⟩
  · rintro ⟨small, readAs⟩
    cases readAs with
    | integer plain low high same read =>
      exact .inl ((toInteger?_eq_some_iff grammatical marks).mpr
        ⟨plain, _, low, high, same, read⟩)
    | nearest other signs near =>
      have signs := Bool.eq_iff_iff.mpr (signs.trans sign.symm)
      exact .inr ⟨(toInteger?_eq_none_iff grammatical marks).mpr other, _,
        toBinary64?_eq_some_iff.mpr ⟨signs, small, near⟩, rfl⟩

theorem exists_number?_of_lt_overflow (small : |shape.value| < Binary64.overflow) :
    ∃ number, shape.number? = some number := by
  obtain ⟨x, nearest⟩ := exists_toBinary64?_iff.mpr small
  cases integer : shape.toInteger? with
  | none => exact ⟨_, number?_of_toBinary64? integer nearest⟩
  | some number => exact ⟨number, number?_of_toInteger? integer⟩

end NumberShape

/-- A word is read as a number exactly when it is a literal whose value does not overflow: as that
integer, if it has neither point nor exponent and fits 64 bits, and otherwise as the nearest
binary64 number. -/
theorem numberLiteral?_exact_or_nearest (word : List Char) :
    ((∃ number, numberLiteral? word = some number) ↔
      ∃ value : ℚ, Decimal word value ∧ |value| < Binary64.overflow) ∧
    ∀ number, numberLiteral? word = some number ↔
      ∃ value : ℚ, Decimal word value ∧ |value| < Binary64.overflow ∧ ReadAs word value number := by
  have reads (number : Number) : numberLiteral? word = some number ↔
      ∃ value : ℚ, Decimal word value ∧ |value| < Binary64.overflow ∧ ReadAs word value number := by
    rw [numberLiteral?_eq_some_iff]
    constructor
    · rintro ⟨shape, mark, grammatical, marks, rfl, value⟩
      exact ⟨shape.value, decimal_iff.mpr ⟨shape, mark, grammatical, marks, rfl, rfl⟩,
        (NumberShape.number?_eq_some_iff grammatical marks).mp value⟩
    · rintro ⟨value, written, small, readAs⟩
      obtain ⟨shape, mark, grammatical, marks, rfl, rfl⟩ := decimal_iff.mp written
      exact ⟨shape, mark, grammatical, marks, rfl,
        (NumberShape.number?_eq_some_iff grammatical marks).mpr ⟨small, readAs⟩⟩
  refine ⟨⟨?_, ?_⟩, reads⟩
  · rintro ⟨number, read⟩
    obtain ⟨value, written, small, -⟩ := (reads number).mp read
    exact ⟨value, written, small⟩
  · rintro ⟨value, written, small⟩
    obtain ⟨shape, mark, grammatical, marks, rfl, rfl⟩ := decimal_iff.mp written
    obtain ⟨number, value⟩ := NumberShape.exists_number?_of_lt_overflow small
    exact ⟨number, numberLiteral?_eq_some_iff.mpr ⟨shape, mark, grammatical, marks, rfl, value⟩⟩

example : numberLiteral? "-9223372036854775808".toList = some (.negative ⟨2 ^ 63 - 1, by decide⟩) ∧
    numberLiteral? "9223372036854775808".toList =
      some (.float ⟨false, ⟨1086 * 2 ^ 52, by decide⟩⟩) := by
  decide +kernel

end DocStore.Query
