import DocStore.Codec.Cbor.Header
import DocStore.Json

namespace DocStore.Cbor

def writeNatural (value : Nat) : Bytes := writeHead 0 value

/-- The integer `-1 - below`. -/
def writeNegative (below : Nat) : Bytes := writeHead 1 below

def writeText (text : String) : Bytes :=
  let bytes := Bytes.ofString text
  writeHead 3 bytes.length ++ bytes

def writeSimple (code : Nat) : Bytes := writeHead 7 code

def writeArray (items : List Bytes) : Bytes := writeHead 4 items.length ++ items.flatten

def writeMap (entries : List (String × Bytes)) : Bytes :=
  writeHead 5 entries.length ++ entries.flatMap fun (key, value) => writeText key ++ value

/-- A float in the smallest format that has it. -/
def writeFloat (value : Binary64) : Bytes :=
  match FloatFormat.half.encode? value with
  | some bits => 0xF9 :: Bytes.ofNat 2 bits
  | none =>
      match FloatFormat.single.encode? value with
      | some bits => 0xFA :: Bytes.ofNat 4 bits
      | none => 0xFB :: Bytes.ofNat 8 ((FloatFormat.double.encode? value).getD 0)

def writeNumber : Number → Bytes
  | .natural value => writeNatural value.toNat
  | .negative below => writeNegative below.val
  | .float value => writeFloat value

mutual

def writeJson : Json → Bytes
  | .null => writeSimple nullCode
  | .bool value => writeSimple (if value then trueCode else falseCode)
  | .number value => writeNumber value
  | .string text => writeText text
  | .array items => writeHead 4 items.length ++ writeItems items
  | .object members => writeHead 5 members.length ++ writeMembers members

def writeItems : List Json → Bytes
  | [] => []
  | item :: rest => writeJson item ++ writeItems rest

def writeMembers : List (String × Json) → Bytes
  | [] => []
  | (key, value) :: rest => writeText key ++ writeJson value ++ writeMembers rest

end

end DocStore.Cbor
