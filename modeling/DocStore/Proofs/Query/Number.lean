import DocStore.Proofs.Number.Decimal
/-!
Numbers are literals as they are written.

The text of an integer is an integer literal and that of a binary64 number has a
point or an exponent, so that both are read back in their own kind; a binary64
number also as the same value, because its shortest text is nearest to it.
-/

namespace DocStore.Query

namespace NumberShape

/-- The integer that a literal without point and exponent writes. -/
def integer (shape : NumberShape) : Int :=
  if shape.negative then -(Json.digitsValue shape.whole : Int) else Json.digitsValue shape.whole

theorem integer_ofMagnitude (negative : Bool) (magnitude : Nat) :
    (ofMagnitude negative magnitude).integer =
      if negative then -(magnitude : Int) else magnitude := by
  rw [integer, ofMagnitude, Json.digitsValue_toDigits]

theorem toInteger?_of_integral {shape : NumberShape} (fraction : shape.fraction = none)
    (exponent : shape.exponent = none) : shape.toInteger? =
      if -(2 ^ 63) ≤ shape.integer ∧ shape.integer < 2 ^ 63 then Number.ofInt? shape.integer
      else none := by
  unfold toInteger? integer
  rw [fraction, exponent]

theorem toInteger?_ofMagnitude {negative : Bool} {magnitude : Nat} {value : Int}
    (signed : value = if negative then -(magnitude : Int) else magnitude)
    (low : -(2 ^ 63) ≤ value) (high : value < 2 ^ 63) :
    (ofMagnitude negative magnitude).toInteger? = Number.ofInt? value := by
  rw [toInteger?_of_integral rfl rfl, integer_ofMagnitude, ← signed, if_pos ⟨low, high⟩]

theorem toInteger?_eq_some {shape : NumberShape} {number : Number}
    (read : shape.toInteger? = some number) :
    ∃ value : Int, -(2 ^ 63) ≤ value ∧ value < 2 ^ 63 ∧ Number.ofInt? value = some number := by
  unfold toInteger? at read
  split at read
  · obtain ⟨⟨low, high⟩, made⟩ := Option.ite_none_right_eq_some.mp read
    exact ⟨_, low, high, made⟩
  · cases read

variable {shape : NumberShape}

theorem number?_of_toInteger? {number : Number} (integer : shape.toInteger? = some number) :
    shape.number? = some number := by
  rw [number?, integer]
  rfl

theorem toInteger?_of_fractional (fractional : shape.fraction ≠ none ∨ shape.exponent ≠ none) :
    shape.toInteger? = none := by
  unfold toInteger?
  split
  · next whole integral => simp [whole, integral] at fractional
  · rfl

theorem number?_of_toBinary64? {x : Binary64} (notInteger : shape.toInteger? = none)
    (nearest : shape.toBinary64? = some x) : shape.number? = some (.float x) := by
  rw [number?, notInteger, nearest]
  rfl

/-- An integer that is too large for a signed number is read as the nearest binary64 number. -/
theorem number?_ofMagnitude_large {magnitude : Nat} (large : 2 ^ 63 ≤ magnitude)
    (small : magnitude < 2 ^ 64) :
    (ofMagnitude false magnitude).number? = some (.float (.ofInteger false magnitude)) := by
  refine number?_of_toBinary64? ?_ ?_
  · rw [toInteger?_of_integral rfl rfl, integer_ofMagnitude]
    exact if_neg (by simp; omega)
  · have nearest := Binary64.ofDecimal?_integer false small
    simpa [toBinary64?, ofMagnitude, power, Json.digitsValue_toDigits] using nearest

end NumberShape

theorem text_ofInt? {value : Int} {number : Number}
    (made : Number.ofInt? value = some number) :
    ∃ negative magnitude,
      number.text.toList = (NumberShape.ofMagnitude negative magnitude).chars 'e' ∧
        value = if negative then -(magnitude : Int) else magnitude := by
  have read := Number.ofInt?_eq_some_iff.mp made
  cases number with
  | natural value =>
    cases read
    exact ⟨false, value.toNat, Number.text_eq_shape _, rfl⟩
  | negative below =>
    cases read
    exact ⟨true, below.val + 1, Number.text_eq_shape _, rfl⟩
  | float x => cases read

/-- A number that a literal stands for stands for itself as it is written. -/
theorem NumberWord.text {word : List Char} {number : Number} (written : NumberWord word number) :
    NumberWord number.text.toList number := by
  obtain ⟨shape, mark, grammatical, marks, rfl, value⟩ := written
  rcases Option.or_eq_some_iff.mp value with integer | ⟨-, nearest⟩
  · obtain ⟨value, low, high, made⟩ := NumberShape.toInteger?_eq_some integer
    obtain ⟨negative, magnitude, text, signed⟩ := text_ofInt? made
    refine ⟨.ofMagnitude negative magnitude, 'e', .ofMagnitude negative magnitude, rfl, text, ?_⟩
    exact NumberShape.number?_of_toInteger?
      ((NumberShape.toInteger?_ofMagnitude signed low high).trans made)
  · obtain ⟨x, -, rfl⟩ := Option.map_eq_some_iff.mp nearest
    refine ⟨x.shape, 'e', x.grammatical_shape, rfl, x.text_eq_shape, ?_⟩
    exact NumberShape.number?_of_toBinary64?
      (NumberShape.toInteger?_of_fractional x.fractional_shape) x.toBinary64?_shape

/-- The text of any number is a literal, and what it stands for has the same nearest binary64
number.  Only integers from 2^63 on are read in another kind. -/
theorem exists_numberWord_text (number : Number) :
    ∃ read, NumberWord number.text.toList read ∧ read.toBinary64 = number.toBinary64 := by
  have written := number.text_eq_shape
  cases number with
  | natural value =>
      rcases Nat.lt_or_ge value.toNat (2 ^ 63) with small | large
      · have integer : (NumberShape.ofMagnitude false value.toNat).toInteger? =
            Number.ofInt? value.toNat :=
          NumberShape.toInteger?_ofMagnitude rfl (by omega) (by omega)
        exact ⟨_, ⟨_, 'e', .ofMagnitude false value.toNat, rfl, written,
          NumberShape.number?_of_toInteger? (integer.trans (Number.ofInt?_natural value))⟩, rfl⟩
      · exact ⟨_, ⟨_, 'e', .ofMagnitude false value.toNat, rfl, written,
          NumberShape.number?_ofMagnitude_large large value.toNat_lt⟩, rfl⟩
  | negative below =>
      have integer : (NumberShape.ofMagnitude true (below.val + 1)).toInteger? =
          Number.ofInt? (-((below.val + 1 : Nat) : Int)) :=
        NumberShape.toInteger?_ofMagnitude rfl (by omega) (by omega)
      exact ⟨_, ⟨_, 'e', .ofMagnitude true (below.val + 1), rfl, written,
        NumberShape.number?_of_toInteger? (integer.trans (Number.ofInt?_negative below))⟩, rfl⟩
  | float x =>
      exact ⟨_, ⟨x.shape, 'e', x.grammatical_shape, rfl, x.text_eq_shape,
        NumberShape.number?_of_toBinary64? (NumberShape.toInteger?_of_fractional x.fractional_shape)
          x.toBinary64?_shape⟩, rfl⟩

end DocStore.Query
