import DocStore.Codec.Bytes
import DocStore.Json.Reader

namespace DocStore.Hex

def encode (bytes : Bytes) : String :=
  String.ofList (bytes.flatMap fun byte =>
    [Nat.digitChar (byte.toNat / 16), Nat.digitChar (byte.toNat % 16)])

def decodeChars : List Char → Option Bytes
  | [] => some []
  | high :: low :: rest => do
      let high ← Json.hexValue? high
      let low ← Json.hexValue? low
      (decodeChars rest).map (UInt8.ofNat (16 * high + low) :: ·)
  | [_] => none

def decode? (text : String) : Option Bytes := decodeChars text.toList

end DocStore.Hex
