import DocStore.Power

namespace DocStore

abbrev Bytes := List UInt8

namespace Bytes

/-- The last `count` bytes of a number, the highest first. -/
def ofNat (count value : Nat) : Bytes :=
  match count with
  | 0 => []
  | count + 1 => UInt8.ofNat (value / 256 ^ count) :: ofNat count value

def toNat (bytes : Bytes) : Nat := bytes.foldl (fun value byte => 256 * value + byte.toNat) 0

def ofString (text : String) : Bytes := text.toUTF8.data.toList

def toString? (bytes : Bytes) : Option String := String.fromUTF8? ⟨bytes.toArray⟩

/-- The first `count` bytes and the rest, if there are as many. -/
def split? : Nat → Bytes → Option (Bytes × Bytes)
  | 0, bytes => some ([], bytes)
  | _ + 1, [] => none
  | count + 1, byte :: rest =>
      match split? count rest with
      | some (first, rest) => some (byte :: first, rest)
      | none => none

end Bytes

end DocStore
