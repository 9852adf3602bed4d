import DocStore.Codec.Sha256

namespace DocStore.Hmac

/-- The key as one block: a longer one is replaced by its digest, and zeros follow. -/
def blockKey (key : Bytes) : Bytes :=
  let short := if Sha256.blockLength < key.length then Sha256.digest key else key
  short ++ List.replicate (Sha256.blockLength - short.length) 0

def sign (key message : Bytes) : Bytes :=
  let block := blockKey key
  let inner := Sha256.digest (block.map (· ^^^ 0x36) ++ message)
  Sha256.digest (block.map (· ^^^ 0x5c) ++ inner)

end DocStore.Hmac
