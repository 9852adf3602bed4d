import DocStore.Power
/-!
Finite binary64 numbers in exact integer arithmetic.

A magnitude is its own 63-bit encoding: an exponent field above a 52-bit
fraction.  Encodings are ordered as the magnitudes are, so comparing numbers is
comparing integers, and the encoding after the largest finite one stands for
overflow.  All values are multiples of 2^-1074, counted by `unitsOf`.
-/

namespace DocStore

/-- A finite binary64 number: a sign and the encoding of its magnitude. -/
structure Binary64 where
  negative : Bool
  magnitude : Fin (2047 * 2 ^ 52)
deriving DecidableEq

namespace Binary64

instance : Inhabited Binary64 := ⟨false, ⟨0, by decide⟩⟩

def zero (negative : Bool) : Binary64 := ⟨negative, ⟨0, by decide⟩⟩

/-- The number with the given sign and magnitude encoding, if it is finite. -/
def ofEncoding? (negative : Bool) (encoding : Nat) : Option Binary64 :=
  if finite : encoding < 2047 * 2 ^ 52 then some ⟨negative, ⟨encoding, finite⟩⟩ else none

/-- The magnitude of an encoding as a multiple of 2^-1074. -/
def unitsOf (encoding : Nat) : Nat :=
  let field := encoding / 2 ^ 52
  let fraction := encoding % 2 ^ 52
  if field = 0 then fraction else (2 ^ 52 + fraction) * 2 ^ (field - 1)

/-- Sign and magnitude as one integer; the two zeros have the same rank. -/
def rank (x : Binary64) : Int :=
  if x.negative then -(x.magnitude.val : Int) else x.magnitude.val

def compareValue (x y : Binary64) : Ordering := compare x.rank y.rank

/-- Equality by value: the sign of a zero does not count. -/
def sameValue (x y : Binary64) : Bool := x.rank == y.rank

/-- The quotient rounded to the nearest integer, a tie to the even one. -/
def roundDiv (numerator denominator : Nat) : Nat :=
  let quotient := numerator / denominator
  let doubled := 2 * (numerator % denominator)
  if doubled < denominator ∨ (doubled = denominator ∧ quotient % 2 = 0) then quotient
  else quotient + 1

/-- The encoding nearest to `numerator / denominator` units of 2^-1074.

A quotient below 2^53 is its own encoding.  A larger one keeps 53 bits; a
significand that rounds up to 2^53 carries into the exponent field. -/
def nearestEncoding (numerator denominator : Nat) : Nat :=
  let shift := Nat.log2 (numerator / denominator) - 52
  shift * 2 ^ 52 + roundDiv numerator (denominator * 2 ^ shift)

/-- The number nearest to a ratio, or nothing when it rounds past the largest finite one. -/
def ofRatio? (negative : Bool) (numerator denominator : Nat) : Option Binary64 :=
  ofEncoding? negative (nearestEncoding (numerator * 2 ^ 1074) denominator)

/-- The number nearest to an integer of 64 bits. -/
def ofInteger (negative : Bool) (magnitude : Nat) : Binary64 :=
  (ofRatio? negative magnitude 1).getD (zero negative)

def digitCount (n : Nat) : Nat := (Nat.toDigits 10 n).length

/-- The number nearest to `significand * 10 ^ exponent`, or nothing on overflow.

A value of more than 310 integer digits overflows and one below 10^-330 is
zero, whatever its digits; between them the ratio is formed exactly. -/
def ofDecimal? (negative : Bool) (significand : Nat) (exponent : Int) : Option Binary64 :=
  if significand = 0 then some (zero negative)
  else
    let integerDigits : Int := digitCount significand + exponent
    if integerDigits > 310 then none
    else if integerDigits < -330 then some (zero negative)
    else if 0 ≤ exponent then ofRatio? negative (significand * 10 ^ exponent.toNat) 1
    else ofRatio? negative significand (10 ^ (-exponent).toNat)

/-- The product, rounded to the nearest number; nothing on overflow. -/
def mul? (x y : Binary64) : Option Binary64 :=
  ofEncoding? (x.negative != y.negative)
    (nearestEncoding (unitsOf x.magnitude * unitsOf y.magnitude) (2 ^ 1074))

/-- The quotient, rounded to the nearest number. -/
def div? (x y : Binary64) : Option Binary64 :=
  ofRatio? (x.negative != y.negative) (unitsOf x.magnitude) (unitsOf y.magnitude)

/-- The number nearest to `10 ^ power`, for powers up to 308. -/
def tenPower (power : Nat) : Binary64 := (ofRatio? false (10 ^ power) 1).getD (zero false)

/-- `x * 10 ^ exponent` by products and quotients of numbers, each of them rounded: what comes out
need not be the number nearest to the decimal.  `fuel` bounds the divisions. -/
def scaleWith : Nat → Binary64 → Int → Option Binary64
  | 0, _, _ => none
  | fuel + 1, x, exponent =>
      if exponent.natAbs ≤ 308 then
        if 0 ≤ exponent then x.mul? (tenPower exponent.natAbs)
        else x.div? (tenPower exponent.natAbs)
      else if x.magnitude.val = 0 then some x
      else if 0 ≤ exponent then none
      else do
        let quotient ← x.div? (tenPower 308)
        scaleWith fuel quotient (exponent + 308)

/-- `significand * 10 ^ exponent` in rounded steps, or nothing on overflow.  A significand of 64
bits is zero after two divisions by `10 ^ 308`. -/
def ofSteps? (negative : Bool) (significand : Nat) (exponent : Int) : Option Binary64 :=
  scaleWith 3 (ofInteger negative significand) exponent

end Binary64

end DocStore
