import DocStore.Power
import DocStore.Regex.Node

namespace DocStore.Regex

open Unicode (CodeSet)

/-- The largest size that an automaton may have, in bytes. -/
def maxSize : Nat := 10 * 2 ^ 20

abbrev ByteRange := Nat × Nat

def utf8Bytes (code : Nat) : List Nat :=
  if code < 0x80 then [code]
  else if code < 0x800 then [0xC0 + code / 0x40, 0x80 + code % 0x40]
  else if code < 0x10000 then
    [0xE0 + code / 0x1000, 0x80 + code / 0x40 % 0x40, 0x80 + code % 0x40]
  else
    [0xF0 + code / 0x40000, 0x80 + code / 0x1000 % 0x40, 0x80 + code / 0x40 % 0x40,
      0x80 + code % 0x40]

/-- Where a range has to be cut first, if it has to be: its parts must have the same number of
bytes, and the bytes after the first that differs must run through all values. -/
def cut? (first last : Nat) : Option (Nat × Nat) :=
  let atLimit := [0x7F, 0x7FF, 0xFFFF].findSome? fun limit =>
    if first ≤ limit ∧ limit < last then some (limit, limit + 1) else none
  atLimit.or <|
    if last < 0x80 then none
    else [0x40, 0x1000, 0x40000].findSome? fun block =>
      if first / block = last / block then none
      else if first % block ≠ 0 then
        some (first - first % block + block - 1, first - first % block + block)
      else if last % block ≠ block - 1 then
        some (last - last % block - 1, last - last % block)
      else none

/-- The byte sequences of a range of characters. -/
def byteSequences : Nat → Nat → Nat → List (List ByteRange)
  | 0, _, _ => []
  | fuel + 1, first, last =>
      match cut? first last with
      | some (stop, next) => byteSequences fuel first stop ++ byteSequences fuel next last
      | none => [(utf8Bytes first).zip (utf8Bytes last)]

/-- The number of leading elements that two lists share. -/
def sharedLength : List ByteRange → List ByteRange → Nat
  | a :: as, b :: bs => if a = b then sharedLength as bs + 1 else 0
  | _, _ => 0

/-- States and byte sequences of the automaton of a list of sequences. -/
def countStates (previous : List ByteRange) : List (List ByteRange) → Nat
  | [] => 0
  | sequence :: rest =>
      sequence.length - sharedLength previous sequence + countStates sequence rest

def stateSize : Nat := 32

def setSize (set : CodeSet) : Nat :=
  if set.ranges.all fun range => range.2 < 0x80 then 2 * stateSize + 8 * set.ranges.length
  else
    let sequences := (set.ranges.flatMap CodeSet.scalarParts).flatMap fun range =>
      byteSequences 64 range.1 range.2
    (countStates [] sequences + 2) * stateSize + 4 * sequences.length

/-- Whether an expression always consumes something. -/
def Node.consumes : Node → Bool
  | .empty | .look _ => false
  | .chars _ => true
  | .seq first second => first.consumes || second.consumes
  | .alt left right => left.consumes && right.consumes
  | .rep least _ inner => least != 0 && inner.consumes

/-- Whether an expression never consumes anything. -/
def Node.isEmptyOnly : Node → Bool
  | .empty | .look _ => true
  | .chars _ => false
  | .seq first second => first.isEmptyOnly && second.isEmptyOnly
  | .alt left right => left.isEmptyOnly && right.isEmptyOnly
  | .rep _ most inner => most == some 0 || inner.isEmptyOnly

def Node.size : Node → Nat
  | .empty => stateSize
  | .look _ => stateSize
  | .chars set =>
      match set.ranges with
      | [(first, last)] => if first = last then stateSize * (utf8Bytes first).length
          else setSize set
      | _ => setSize set
  | .seq first second => first.size + second.size
  | .alt left right => left.size + right.size + 2 * stateSize + 8
  | .rep least most inner =>
      let once := inner.size
      let link := stateSize + 8
      if inner.isEmptyOnly then once + link
      else
        match most with
        | none =>
            if least = 0 then once + (if inner.consumes then link else 3 * link)
            else least * once + link
        | some most =>
            if most = 0 then stateSize
            else least * once + (most - least) * (once + link) + stateSize

def Node.fits (node : Node) : Bool := node.size ≤ maxSize

end DocStore.Regex
