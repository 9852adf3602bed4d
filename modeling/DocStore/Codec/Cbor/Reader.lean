import DocStore.Codec.Cbor.Header
import DocStore.Primitive

namespace DocStore.Cbor

abbrev Parsed (α : Type) := α × Bytes

def maxLevels : Nat := 256

/-- How long a key may be that is matched against names. -/
def maxNameLength : Nat := 4096

/-- Goes one level deeper. -/
def enter : Nat → Option Nat
  | 0 => none
  | levels + 1 => some levels

/-- The parts of a string of open length up to its stop mark.  Parts may be open themselves;
`pending` counts the stop marks to come. -/
def readSegments (lengthOf : Header → Option (Option Nat)) :
    Nat → Nat → Bytes → Option (Parsed (List Bytes))
  | 0, _, _ => none
  | fuel + 1, pending, bytes => do
      let (header, rest) ← readHeader bytes
      if header = .stop then
        if pending ≤ 1 then some ([], rest) else readSegments lengthOf fuel (pending - 1) rest
      else
        match ← lengthOf header with
        | none => readSegments lengthOf fuel (pending + 1) rest
        | some length => do
            let (segment, rest) ← Bytes.split? length rest
            let (segments, rest) ← readSegments lengthOf fuel pending rest
            some (segment :: segments, rest)

/-- The parts of a string of the given length. -/
def readParts (lengthOf : Header → Option (Option Nat)) (length : Option Nat) (bytes : Bytes) :
    Option (Parsed (List Bytes)) :=
  match length with
  | some length => (Bytes.split? length bytes).map fun (segment, rest) => ([segment], rest)
  | none => readSegments lengthOf (bytes.length + 1) 1 bytes

def textLength : Header → Option (Option Nat)
  | .text length => some length
  | _ => none

def bytesLength : Header → Option (Option Nat)
  | .bytes length => some length
  | _ => none

/-- The characters of a text after its header; every part must be valid by itself. -/
def readTextBody (length : Option Nat) (bytes : Bytes) : Option (Parsed String) := do
  let (parts, rest) ← readParts textLength length bytes
  let texts ← parts.mapM Bytes.toString?
  some (String.join texts, rest)

def readBytesBody (length : Option Nat) (bytes : Bytes) : Option (Parsed Bytes) :=
  (readParts bytesLength length bytes).map fun (parts, rest) => (parts.flatten, rest)

def readText (bytes : Bytes) : Option (Parsed String) := do
  match ← readUntagged bytes with
  | (.text length, rest) => readTextBody length rest
  | _ => none

/-- A name: a text or bytes of a short and definite length. -/
def readName (bytes : Bytes) : Option (Parsed Bytes) := do
  match ← readUntagged bytes with
  | (.text (some length), rest) =>
      if length ≤ maxNameLength then
        let (name, rest) ← Bytes.split? length rest
        let _ ← Bytes.toString? name
        some (name, rest)
      else none
  | (.bytes (some length), rest) =>
      if length ≤ maxNameLength then Bytes.split? length rest else none
  | _ => none

/-- The magnitude of a big number after its tag: at most sixteen bytes after leading zeros. -/
def readBig (bytes : Bytes) : Option (Parsed Nat) := do
  match ← readHeader bytes with
  | (.bytes length, rest) =>
      let (digits, rest) ← readBytesBody length rest
      let significant := digits.dropWhile (· == 0)
      if significant.length ≤ 16 then some (Bytes.toNat significant, rest) else none
  | _ => none

/-- An integer after tags without a meaning of their own; `fuel` bounds their number. -/
def readTaggedInteger : Nat → Bytes → Option (Parsed (Bool × Nat))
  | 0, _ => none
  | fuel + 1, bytes => do
      match ← readHeader bytes with
      | (.natural value, rest) => some ((false, value), rest)
      | (.negative below, rest) => some ((true, below), rest)
      | (.tag 2, rest) => (readBig rest).map fun (value, rest) => ((false, value), rest)
      | (.tag 3, rest) => (readBig rest).map fun (below, rest) => ((true, below), rest)
      | (.tag _, rest) => readTaggedInteger fuel rest
      | _ => none

/-- An integer: whether it is negative, and the number counted from 0 or down from -1. -/
def readInteger (bytes : Bytes) : Option (Parsed (Bool × Nat)) :=
  readTaggedInteger (bytes.length + 1) bytes

def readUInt64 (bytes : Bytes) : Option (Parsed UInt64) := do
  match ← readInteger bytes with
  | ((false, value), rest) => if value < 2 ^ 64 then some (.ofNat value, rest) else none
  | _ => none

mutual

def skipItem : Nat → Nat → Bytes → Option Bytes
  | 0, _, _ => none
  | fuel + 1, levels, bytes => do
      match ← readHeader bytes with
      | (.natural _, rest) | (.negative _, rest) | (.float _, rest) => some rest
      | (.bytes length, rest) => (readBytesBody length rest).map Prod.snd
      | (.text length, rest) => (readTextBody length rest).map Prod.snd
      | (.array length, rest) => skipItems fuel (← enter levels) 1 length rest
      | (.map length, rest) => skipItems fuel (← enter levels) 2 length rest
      | (.tag 2, rest) => (readBig rest).map Prod.snd
      | (.tag 3, rest) => do
          let (below, rest) ← readBig rest
          if below < 2 ^ 127 then some rest else none
      | (.tag _, rest) => skipItem fuel (← enter levels) rest
      | (.simple code, rest) =>
          if falseCode ≤ code ∧ code ≤ undefinedCode then some rest else none
      | _ => none

/-- Passes the entries of an array or a map, each of `width` items. -/
def skipItems : Nat → Nat → Nat → Option Nat → Bytes → Option Bytes
  | _, _, _, some 0, bytes => some bytes
  | 0, _, _, _, _ => none
  | fuel + 1, levels, width, length, bytes => do
      match length, ← readHeader bytes with
      | none, (.stop, rest) => some rest
      | _, _ => do
          let rest ← skipItem fuel levels bytes
          let rest ← if width = 2 then skipItem fuel levels rest else some rest
          skipItems fuel levels width (length.map (· - 1)) rest

end

def skip (levels : Nat) (bytes : Bytes) : Option Bytes :=
  skipItem (2 * bytes.length + 2) levels bytes

def readEntries (read : Bytes → Option (Parsed α)) :
    Nat → Option Nat → Bytes → Option (Parsed (List α))
  | _, some 0, bytes => some ([], bytes)
  | 0, _, _ => none
  | fuel + 1, length, bytes => do
      match length, ← readHeader bytes with
      | none, (.stop, rest) => some ([], rest)
      | _, _ => do
          let (item, rest) ← read bytes
          let (items, rest) ← readEntries read fuel (length.map (· - 1)) rest
          some (item :: items, rest)

/-- A list.  A byte string is a list too, whose items `ofByte` gives. -/
def readList (levels : Nat) (read : Nat → Bytes → Option (Parsed α)) (ofByte : UInt8 → Option α)
    (bytes : Bytes) : Option (Parsed (List α)) := do
  match ← readUntagged bytes with
  | (.array length, rest) => do
      let inner ← enter levels
      readEntries (read inner) (rest.length + 1) length rest
  | (.bytes length, rest) => do
      let (bytes, rest) ← readBytesBody length rest
      let items ← bytes.mapM ofByte
      some (items, rest)
  | _ => none

/-- A map with text keys, as its entries in the order they are written. -/
def readMap (levels : Nat) (read : Nat → Bytes → Option (Parsed α)) (bytes : Bytes) :
    Option (Parsed (List (String × α))) := do
  match ← readUntagged bytes with
  | (.map length, rest) => do
      let inner ← enter levels
      let readEntry (bytes : Bytes) : Option (Parsed (String × α)) := do
        let (key, rest) ← readText bytes
        let (value, rest) ← read inner rest
        some ((key, value), rest)
      readEntries readEntry (rest.length + 1) length rest
  | _ => none

/-- The fields of a record that is a map, after its header.  `field` reads the value under a name
and puts it into the record. -/
def readFields (field : ρ → Bytes → Bytes → Option (Parsed ρ)) :
    Nat → ρ → Option Nat → Bytes → Option (Parsed ρ)
  | _, record, some 0, bytes => some (record, bytes)
  | 0, _, _, _ => none
  | fuel + 1, record, length, bytes => do
      match length, ← readHeader bytes with
      | none, (.stop, rest) => some (record, rest)
      | _, _ => do
          let (name, rest) ← readName bytes
          let (record, rest) ← field record name rest
          readFields field fuel record (length.map (· - 1)) rest

/-- Reads a field that must not have been read before. -/
def readOnce (seen : Option α) (read : Bytes → Option (Parsed α)) (bytes : Bytes) :
    Option (Parsed (Option α)) :=
  match seen with
  | some _ => none
  | none => (read bytes).map fun (value, rest) => (some value, rest)

/-- The number of an integer that is counted from 0 or down from -1. -/
def integerNumber? (negative : Bool) (value : Nat) : Option Number :=
  Number.ofInt? (if negative then -1 - (value : Int) else value)

/-- Whether a text of this header may be the first key of an object. -/
def isShortText : Header → Bool
  | .text (some length) => length ≤ maxNameLength
  | _ => false

mutual

/-- A JSON value.  What is not finite becomes `null`. -/
def readJsonWith : Nat → Nat → Bytes → Option (Parsed Json)
  | 0, _, _ => none
  | fuel + 1, levels, bytes => do
      match ← readHeader bytes with
      | (.natural value, rest) => (integerNumber? false value).map fun n => (.number n, rest)
      | (.negative below, rest) => (integerNumber? true below).map fun n => (.number n, rest)
      | (.tag 2, rest) => do
          let (value, rest) ← readBig rest
          (integerNumber? false value).map fun n => (.number n, rest)
      | (.tag 3, rest) => do
          let (below, rest) ← readBig rest
          (integerNumber? true below).map fun n => (.number n, rest)
      | (.float value, rest) =>
          some ((value.map fun x => Json.number (.float x)).getD .null, rest)
      | (.text length, rest) =>
          (readTextBody length rest).map fun (text, rest) => (.string text, rest)
      | (.simple code, rest) =>
          if code = falseCode then some (.bool false, rest)
          else if code = trueCode then some (.bool true, rest)
          else if code = nullCode ∨ code = undefinedCode then some (.null, rest)
          else none
      | (.array length, rest) => do
          let (items, rest) ← readJsonItems fuel (← enter levels) length rest
          some (.array items, rest)
      | (.map length, rest) => do
          let (members, rest) ← readJsonMembers fuel (← enter levels) true length rest
          let settled :=
            members.foldl (fun found (key, value) => Json.putMember key value found) []
          some (.object settled, rest)
      | _ => none

def readJsonItems : Nat → Nat → Option Nat → Bytes → Option (Parsed (List Json))
  | _, _, some 0, bytes => some ([], bytes)
  | 0, _, _, _ => none
  | fuel + 1, levels, length, bytes => do
      match length, ← readHeader bytes with
      | none, (.stop, rest) => some ([], rest)
      | _, _ => do
          let (item, rest) ← readJsonWith fuel levels bytes
          let (items, rest) ← readJsonItems fuel levels (length.map (· - 1)) rest
          some (item :: items, rest)

/-- The members of an object; the first key must be a short text of definite length. -/
def readJsonMembers :
    Nat → Nat → Bool → Option Nat → Bytes → Option (Parsed (List (String × Json)))
  | _, _, _, some 0, bytes => some ([], bytes)
  | 0, _, _, _, _ => none
  | fuel + 1, levels, isFirst, length, bytes => do
      match length, ← readHeader bytes with
      | none, (.stop, rest) => some ([], rest)
      | _, _ => do
          let (header, _) ← readUntagged bytes
          if isFirst && !isShortText header then none
          else do
            let (key, rest) ← readText bytes
            let (value, rest) ← readJsonWith fuel levels rest
            let (members, rest) ←
              readJsonMembers fuel levels false (length.map (· - 1)) rest
            some ((key, value) :: members, rest)

end

/-- A JSON value.  Every second call uses a byte, so the fuel suffices. -/
def readJson (levels : Nat) (bytes : Bytes) : Option (Parsed Json) :=
  readJsonWith (2 * bytes.length + 2) levels bytes

/-- A primitive value.  A byte string stands for the text it spells. -/
def readPrimitive (bytes : Bytes) : Option (Parsed Primitive) := do
  match ← readHeader bytes with
  | (.natural value, rest) => (integerNumber? false value).map fun n => (.number n, rest)
  | (.negative below, rest) => (integerNumber? true below).map fun n => (.number n, rest)
  | (.float (some value), rest) => some (.number (.float value), rest)
  | (.text length, rest) => (readTextBody length rest).map fun (text, rest) => (.string text, rest)
  | (.bytes length, rest) => do
      let (bytes, rest) ← readBytesBody length rest
      let text ← Bytes.toString? bytes
      some (.string text, rest)
  | (.simple code, rest) =>
      if code = falseCode then some (.bool false, rest)
      else if code = trueCode then some (.bool true, rest)
      else if code = nullCode ∨ code = undefinedCode then some (.null, rest)
      else none
  | _ => none

end DocStore.Cbor
