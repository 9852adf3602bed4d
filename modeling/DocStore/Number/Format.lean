import DocStore.Number.Binary64

namespace DocStore

/-- A binary format: the width of the fraction, the exponent field that finite numbers stay below,
and the binary logarithm of its unit over 2^-1074. -/
structure FloatFormat where
  bytes : Nat
  fractionBits : Nat
  fieldLimit : Nat
  unitShift : Nat

namespace FloatFormat

def half : FloatFormat := ⟨2, 10, 31, 1050⟩

def single : FloatFormat := ⟨4, 23, 255, 925⟩

def double : FloatFormat := ⟨8, 52, 2047, 0⟩

def signBit (format : FloatFormat) : Nat := 2 ^ (8 * format.bytes - 1)

def encodingLimit (format : FloatFormat) : Nat := format.fieldLimit * 2 ^ format.fractionBits

def unitsOf (format : FloatFormat) (encoding : Nat) : Nat :=
  let field := encoding / 2 ^ format.fractionBits
  let fraction := encoding % 2 ^ format.fractionBits
  if field = 0 then fraction else (2 ^ format.fractionBits + fraction) * 2 ^ (field - 1)

def decode? (format : FloatFormat) (bits : Nat) : Option Binary64 :=
  let encoding := bits % format.signBit
  if encoding < format.encodingLimit then
    Binary64.ofEncoding? (format.signBit ≤ bits)
      (Binary64.nearestEncoding (format.unitsOf encoding * 2 ^ format.unitShift) 1)
  else none

def encode? (format : FloatFormat) (x : Binary64) : Option Nat :=
  let units := Binary64.unitsOf x.magnitude.val
  let count := units / 2 ^ format.unitShift
  let shift := count.log2 - format.fractionBits
  let encoding := shift * 2 ^ format.fractionBits + count / 2 ^ shift
  if units % 2 ^ format.unitShift = 0 ∧ count % 2 ^ shift = 0 ∧ encoding < format.encodingLimit then
    some ((if x.negative then format.signBit else 0) + encoding)
  else none

end FloatFormat

end DocStore
