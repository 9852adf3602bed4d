import DocStore.Codec.Bytes
import DocStore.Json.Reader

namespace DocStore.Http.Percent

/-- The value of a byte that is a hexadecimal digit. -/
def digitValue? (byte : UInt8) : Option Nat := Json.hexValue? (Char.ofNat byte.toNat)

/-- A percent sign and two hexadecimal digits are one byte; a percent sign before anything else
stands for itself. -/
def decode : Bytes → Bytes
  | 0x25 :: high :: low :: rest =>
      match digitValue? high, digitValue? low with
      | some high, some low => .ofNat (16 * high + low) :: decode rest
      | _, _ => 0x25 :: decode (high :: low :: rest)
  | byte :: rest => byte :: decode rest
  | [] => []

end DocStore.Http.Percent
