import DocStore.Codec.Crc32c
import DocStore.Log.Body

namespace DocStore.Log

structure Record where
  seq : UInt64
  timestamp : Int64
  mutations : List Mutation
deriving DecidableEq

namespace Record

def magic : Bytes := [0x4C, 0x53, 0x57, 0x4C]

def version : UInt8 := 1

def commitType : UInt8 := 1

/-- Magic, version, type, sequence number, time and length of the body. -/
def headerLength : Nat := 26

def header (record : Record) (length : Nat) : Bytes :=
  magic ++ version :: commitType :: Bytes.ofNat 8 record.seq.toNat ++
    Bytes.ofNat 8 record.timestamp.toUInt64.toNat ++ Bytes.ofNat 4 length

def encode (record : Record) : Bytes :=
  let body := Body.write record.mutations
  let covered := record.header body.length ++ body
  covered ++ Bytes.ofNat 4 (Crc32c.checksum covered).toNat

/-- The record at the start of bytes and what follows it; nothing when it is torn or damaged.  The
version and the type are covered by the checksum and not looked at. -/
def decode? (bytes : Bytes) : Option (Record × Bytes) := do
  let (header, rest) ← Bytes.split? headerLength bytes
  if header.take 4 ≠ magic then none
  let length := Bytes.toNat ((header.drop 22).take 4)
  let (body, rest) ← Bytes.split? length rest
  let (checksum, rest) ← Bytes.split? 4 rest
  if Crc32c.checksum (header ++ body) ≠ UInt32.ofNat (Bytes.toNat checksum) then none
  let mutations ← Body.read? body
  some (⟨.ofNat (Bytes.toNat ((header.drop 6).take 8)),
    (UInt64.ofNat (Bytes.toNat ((header.drop 14).take 8))).toInt64, mutations⟩, rest)

/-- The whole records at the start of bytes and how many bytes they take.  `fuel` bounds their
number. -/
def scanWith : Nat → Bytes → List Record × Nat
  | 0, _ => ([], 0)
  | fuel + 1, bytes =>
      match decode? bytes with
      | none => ([], 0)
      | some (record, rest) =>
          let (records, length) := scanWith fuel rest
          (record :: records, bytes.length - rest.length + length)

/-- The whole records of a segment and how many bytes they take. -/
def scan (segment : Bytes) : List Record × Nat := scanWith segment.length segment

end Record

end DocStore.Log
