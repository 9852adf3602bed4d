import DocStore.Number.Binary64
import DocStore.Number.Shortest
/-!
Numbers of three kinds: natural numbers below 2^64, negative integers down to
-2^63, and finite binary64 numbers.  The kind is part of the value, so that `1`
and `1.0` are different numbers of the same value.
-/

namespace DocStore

/-- A number as it is stored.  `negative below` is the integer `-(below + 1)`. -/
inductive Number where
  | natural (value : UInt64)
  | negative (below : Fin (2 ^ 63))
  | float (value : Binary64)
deriving DecidableEq

namespace Number

instance : Inhabited Number := ⟨.natural 0⟩

/-- The integer of that value, if it has 64 bits. -/
def ofInt? (value : Int) : Option Number :=
  if 0 ≤ value then
    if value.toNat < 2 ^ 64 then some (.natural (.ofNat value.toNat)) else none
  else if small : (-value).toNat - 1 < 2 ^ 63 then some (.negative ⟨(-value).toNat - 1, small⟩)
  else none

/-- The value of an integer; nothing for a binary64 number. -/
def toInt? : Number → Option Int
  | .natural value => some value.toNat
  | .negative below => some (-(below.val + 1 : Int))
  | .float _ => none

def toBinary64 : Number → Binary64
  | .natural value => Binary64.ofInteger false value.toNat
  | .negative below => Binary64.ofInteger true (below.val + 1)
  | .float value => value

/-- Equality of kind and value; the sign of a floating zero does not count. -/
def equal : Number → Number → Bool
  | .natural a, .natural b => a == b
  | .negative a, .negative b => a == b
  | .float a, .float b => a.sameValue b
  | _, _ => false

/-- Equality of the nearest binary64 numbers, whatever the kinds. -/
def sameValue (a b : Number) : Bool := a.toBinary64.sameValue b.toBinary64

/-- Order of the nearest binary64 numbers. -/
def compareValue (a b : Number) : Ordering := a.toBinary64.compareValue b.toBinary64

def text : Number → String
  | .natural value => toString value.toNat
  | .negative below => "-" ++ toString (below.val + 1)
  | .float value => value.text

end Number

end DocStore
