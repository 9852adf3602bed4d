import DocStore.Number.Binary64
/-!
The shortest decimal of a finite binary64 number.

Of all decimals that read back as the number, `shortest` takes one with the
fewest digits and of those the nearest.  Digit counts are tried in ascending
order; on the grid of one digit count only the two neighbours of the value can
be the answer, because a grid point between two others is nearer.
-/

namespace DocStore

structure ShortDecimal where
  digits : Nat
  power : Int
deriving DecidableEq, Repr

namespace Binary64

/-- Whether `units` of 2^-1074 reach `10 ^ exponent`. -/
def reachesPower (units : Nat) (exponent : Int) : Bool :=
  if 0 ≤ exponent then 2 ^ 1074 * 10 ^ exponent.toNat ≤ units
  else 2 ^ 1074 ≤ units * 10 ^ (-exponent).toNat

/-- Raises an exponent while the next power of ten is still reached. -/
def raiseExponent (units : Nat) : Nat → Int → Int
  | 0, exponent => exponent
  | fuel + 1, exponent =>
      if reachesPower units (exponent + 1) then raiseExponent units fuel (exponent + 1)
      else exponent

/-- The decimal exponent of the first digit.  The estimate from the binary
logarithm is at most two too low. -/
def decimalExponent (units : Nat) : Int :=
  raiseExponent units 4 (((units.log2 : Int) - 1074) * 1233 / 4096 - 1)

/-- The decimals that read back as the magnitude with the given encoding lie between the midpoints
to its neighbours.  The midpoints themselves count when the encoding is even. -/
def readsBack (encoding numeratorScale denominatorScale candidate : Nat) : Bool :=
  let lower := (unitsOf (encoding - 1) + unitsOf encoding) * numeratorScale
  let upper := (unitsOf encoding + unitsOf (encoding + 1)) * numeratorScale
  let doubled := 2 * candidate * denominatorScale
  if encoding % 2 = 0 then lower ≤ doubled && doubled ≤ upper
  else lower < doubled && doubled < upper

/-- The decimal of `count` digits that reads back, nearest to the value, if there is one. -/
def decimalOf? (encoding : Nat) (exponent : Int) (count : Nat) : Option ShortDecimal :=
  let power := exponent - (count - 1 : Nat)
  let numeratorScale := 10 ^ (-power).toNat
  let denominatorScale := 2 ^ 1074 * 10 ^ power.toNat
  let numerator := unitsOf encoding * numeratorScale
  let below := numerator / denominatorScale
  let belowFits := readsBack encoding numeratorScale denominatorScale below
  let aboveFits := readsBack encoding numeratorScale denominatorScale (below + 1)
  if belowFits && aboveFits then some ⟨roundDiv numerator denominatorScale, power⟩
  else if belowFits then some ⟨below, power⟩
  else if aboveFits then some ⟨below + 1, power⟩
  else none

/-- Moves trailing zeros of the digits into the power of ten. -/
def dropZeros : Nat → ShortDecimal → ShortDecimal
  | 0, decimal => decimal
  | fuel + 1, decimal =>
      if decimal.digits ≠ 0 ∧ decimal.digits % 10 = 0 then
        dropZeros fuel ⟨decimal.digits / 10, decimal.power + 1⟩
      else decimal

/-- The shortest decimal that reads back as the positive magnitude with this encoding.
Seventeen digits always suffice. -/
def shortest (encoding : Nat) : ShortDecimal :=
  let exponent := decimalExponent (unitsOf encoding)
  let found := ((List.range 17).map (· + 1)).findSome? (decimalOf? encoding exponent)
  dropZeros 17 (found.getD ⟨0, 0⟩)

end Binary64

/-- How a decimal becomes text: the exponents of the first digit that are written without an
exponent, and whether a positive exponent carries its sign. -/
structure DecimalLayout where
  lowestPlain : Int
  highestPlain : Int
  signedExponent : Bool

namespace DecimalLayout

/-- Numbers from 10^-5 up to 10^16 are written plainly, all others as `1.5e-6` or `1e+16`. -/
def standard : DecimalLayout := ⟨-5, 15, true⟩

/-- The text of a positive decimal.  Plain text always has a point. -/
def write (layout : DecimalLayout) (decimal : ShortDecimal) : String :=
  let digits := Nat.toDigits 10 decimal.digits
  let exponent := decimal.power + (digits.length - 1 : Nat)
  if layout.lowestPlain ≤ exponent ∧ exponent ≤ layout.highestPlain then
    if exponent < 0 then
      String.ofList ('0' :: '.' :: List.replicate ((-exponent).toNat - 1) '0' ++ digits)
    else
      let whole := exponent.toNat + 1
      let fraction := digits.drop whole
      String.ofList (digits.take whole ++ List.replicate (whole - digits.length) '0' ++ '.' ::
        (if fraction.isEmpty then ['0'] else fraction))
  else
    let mantissa := match digits with
      | first :: second :: rest => first :: '.' :: second :: rest
      | short => short
    let sign := if exponent < 0 then ['-'] else if layout.signedExponent then ['+'] else []
    String.ofList (mantissa ++ 'e' :: sign ++ Nat.toDigits 10 exponent.natAbs)

end DecimalLayout

/-- The text of a binary64 number: shortest digits in the standard layout, zero as `0.0`. -/
def Binary64.text (x : Binary64) : String :=
  let magnitude :=
    if x.magnitude.val = 0 then "0.0"
    else DecimalLayout.standard.write (Binary64.shortest x.magnitude.val)
  if x.negative then "-" ++ magnitude else magnitude

end DocStore
