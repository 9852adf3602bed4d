import DocStore.Codec.Bytes
import DocStore.Number.Format
/-!
Headers of CBOR items.

An item begins with a byte that holds its major type and a short argument;
longer arguments follow in one, two, four or eight bytes.  Writing always takes
the shortest form, reading accepts every form.
-/

namespace DocStore.Cbor

/-- What an item begins with.  Lengths are missing when the item goes on to a stop mark; a float is
missing when it is not finite. -/
inductive Header where
  | natural (value : Nat)
  | negative (below : Nat)
  | bytes (length : Option Nat)
  | text (length : Option Nat)
  | array (length : Option Nat)
  | map (length : Option Nat)
  | tag (number : Nat)
  | simple (code : Nat)
  | float (value : Option Binary64)
  | stop
deriving DecidableEq

/-- The head of an item of a major type with an argument below 2^64. -/
def writeHead (major argument : Nat) : Bytes :=
  let first := fun short => UInt8.ofNat (32 * major + short)
  if argument < 24 then [first argument]
  else if argument < 2 ^ 8 then first 24 :: Bytes.ofNat 1 argument
  else if argument < 2 ^ 16 then first 25 :: Bytes.ofNat 2 argument
  else if argument < 2 ^ 32 then first 26 :: Bytes.ofNat 4 argument
  else first 27 :: Bytes.ofNat 8 argument

/-- The argument of a head: its value, or nothing for the mark of an open end. -/
def readArgument (short : Nat) (rest : Bytes) : Option (Option Nat × Bytes) :=
  if short < 24 then some (some short, rest)
  else if short = 31 then some (none, rest)
  else if short < 28 then do
    let (bytes, rest) ← Bytes.split? (2 ^ (short - 24)) rest
    some (some (Bytes.toNat bytes), rest)
  else none

def readSimple (short : Nat) (argument : Option Nat) : Option Header :=
  match argument with
  | none => some .stop
  | some value =>
      if short = 25 then some (.float (FloatFormat.half.decode? value))
      else if short = 26 then some (.float (FloatFormat.single.decode? value))
      else if short = 27 then some (.float (FloatFormat.double.decode? value))
      else some (.simple value)

/-- The header at the start of bytes. -/
def readHeader : Bytes → Option (Header × Bytes)
  | [] => none
  | first :: rest => do
      let short := first.toNat % 32
      let (argument, rest) ← readArgument short rest
      let header ← match first.toNat / 32, argument with
        | 0, some value => some (.natural value)
        | 1, some value => some (.negative value)
        | 2, length => some (.bytes length)
        | 3, length => some (.text length)
        | 4, length => some (.array length)
        | 5, length => some (.map length)
        | 6, some value => some (.tag value)
        | 7, argument => readSimple short argument
        | _, _ => none
      some (header, rest)

/-- Passes tags; `fuel` bounds their number. -/
def skipTags : Nat → Bytes → Option (Header × Bytes)
  | 0, _ => none
  | fuel + 1, bytes => do
      match ← readHeader bytes with
      | (.tag _, rest) => skipTags fuel rest
      | found => some found

/-- The first header that is no tag. -/
def readUntagged (bytes : Bytes) : Option (Header × Bytes) := do
  match ← readHeader bytes with
  | (.tag _, rest) => skipTags (rest.length + 1) rest
  | found => some found

def falseCode : Nat := 20

def trueCode : Nat := 21

def nullCode : Nat := 22

def undefinedCode : Nat := 23

end DocStore.Cbor
