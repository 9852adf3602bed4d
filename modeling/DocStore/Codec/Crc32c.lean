import DocStore.Codec.Bytes

namespace DocStore.Crc32c

/-- The polynomial, its highest term in the lowest bit. -/
def polynomial : UInt32 := 0x82F63B78

def shift (register : UInt32) : UInt32 :=
  if register &&& 1 = 1 then (register >>> 1) ^^^ polynomial else register >>> 1

def feed (register : UInt32) (byte : UInt8) : UInt32 :=
  Nat.repeat shift 8 (register ^^^ byte.toUInt32)

def checksum (bytes : Bytes) : UInt32 :=
  bytes.foldl feed 0xFFFFFFFF ^^^ 0xFFFFFFFF

end DocStore.Crc32c
