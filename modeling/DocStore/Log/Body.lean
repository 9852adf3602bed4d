import DocStore.Codec.Cbor.Reader
import DocStore.Codec.Cbor.Writer
import DocStore.Tables
/-!
Bodies of log records: the mutations of one commit as a CBOR item.

Alternatives are maps of one entry, records are maps in field order.  A reader
also takes the fields of commits and deletions as arrays, passes over fields it
does not know, and refuses fields that are written twice.
-/

namespace DocStore.Log.Body

open Cbor (Parsed)

def writeCounts (counts : FieldCounts) : Bytes :=
  Cbor.writeMap (counts.entries.map fun (path, count) => (path, Cbor.writeNatural count.toNat))

def writePrimitive (value : Primitive) : Bytes := Cbor.writeJson value.toJson

def writeProjection (projection : Projection) : Bytes :=
  Cbor.writeMap (projection.entries.map fun (path, values) =>
    (path, Cbor.writeArray (values.map writePrimitive)))

def writeIndex (index : Index) : Bytes :=
  Cbor.writeMap [("id", Cbor.writeText index.id), ("fields", writeCounts index.fields)]

def writeDocument (document : Document) : Bytes :=
  Cbor.writeMap [("id", Cbor.writeText document.id),
    ("index_id", Cbor.writeText document.indexId),
    ("source", Cbor.writeJson document.source),
    ("fields", writeProjection document.fields)]

def writeMutation : Mutation → Bytes
  | .putIndex index => Cbor.writeMap [("PutIndex", writeIndex index)]
  | .deleteIndex id =>
      Cbor.writeMap [("DeleteIndex", Cbor.writeMap [("id", Cbor.writeText id)])]
  | .putDocument document => Cbor.writeMap [("PutDocument", writeDocument document)]
  | .deleteDocument key =>
      Cbor.writeMap [("DeleteDocument", Cbor.writeMap
        [("index_id", Cbor.writeText key.indexId), ("id", Cbor.writeText key.id)])]

def write (mutations : List Mutation) : Bytes :=
  Cbor.writeMap [("Commit", Cbor.writeMap
    [("mutations", Cbor.writeArray (mutations.map writeMutation))])]

/-- Reads a value that a field must not have yet, and puts it into the record. -/
def readField (seen : Option α) (read : Bytes → Option (Parsed α)) (put : Option α → ρ)
    (bytes : Bytes) : Option (Parsed ρ) :=
  (Cbor.readOnce seen read bytes).map fun (value, rest) => (put value, rest)

/-- Passes a field that the record does not have. -/
def passField (levels : Nat) (record : ρ) (bytes : Bytes) : Option (Parsed ρ) :=
  (Cbor.skip levels bytes).map fun rest => (record, rest)

def isNamed (name : Bytes) (field : String) : Bool := name == Bytes.ofString field

def readCounts (levels : Nat) (bytes : Bytes) : Option (Parsed FieldCounts) :=
  (Cbor.readMap levels (fun _ => Cbor.readUInt64) bytes).map fun (entries, rest) =>
    (.ofList entries, rest)

/-- A byte of a byte string that stands for a list of values. -/
def primitiveOfByte (byte : UInt8) : Option Primitive :=
  some (.number (.natural byte.toUInt64))

def readProjection (levels : Nat) (bytes : Bytes) : Option (Parsed Projection) :=
  let readValues (levels : Nat) :=
    Cbor.readList levels (fun _ => Cbor.readPrimitive) primitiveOfByte
  (Cbor.readMap levels readValues bytes).map fun (entries, rest) => (.ofList entries, rest)

/-- A record that must be a map; its fields are read one level deeper. -/
def readRecord (levels : Nat) (field : Nat → ρ → Bytes → Bytes → Option (Parsed ρ)) (empty : ρ)
    (bytes : Bytes) : Option (Parsed ρ) := do
  match ← Cbor.readUntagged bytes with
  | (.map length, rest) => do
      let inner ← Cbor.enter levels
      Cbor.readFields (field inner) (rest.length + 1) empty length rest
  | _ => none

structure IndexFields where
  id : Option String
  fields : Option FieldCounts

def readIndexField (levels : Nat) (record : IndexFields) (name bytes : Bytes) :
    Option (Parsed IndexFields) :=
  if isNamed name "id" then
    readField record.id Cbor.readText (fun id => { record with id }) bytes
  else if isNamed name "fields" then
    readField record.fields (readCounts levels) (fun fields => { record with fields }) bytes
  else passField levels record bytes

def readIndex (levels : Nat) (bytes : Bytes) : Option (Parsed Index) := do
  let (record, rest) ← readRecord levels readIndexField ⟨none, none⟩ bytes
  let id ← record.id
  some (⟨id, record.fields.getD ∅⟩, rest)

structure DocumentFields where
  id : Option String
  indexId : Option String
  source : Option Json
  fields : Option Projection

def readDocumentField (levels : Nat) (record : DocumentFields) (name bytes : Bytes) :
    Option (Parsed DocumentFields) :=
  if isNamed name "id" then
    readField record.id Cbor.readText (fun id => { record with id }) bytes
  else if isNamed name "index_id" then
    readField record.indexId Cbor.readText (fun indexId => { record with indexId }) bytes
  else if isNamed name "source" then
    readField record.source (Cbor.readJson levels) (fun source => { record with source }) bytes
  else if isNamed name "fields" then
    readField record.fields (readProjection levels) (fun fields => { record with fields }) bytes
  else passField levels record bytes

def readDocument (levels : Nat) (bytes : Bytes) : Option (Parsed Document) := do
  let (record, rest) ← readRecord levels readDocumentField ⟨none, none, none, none⟩ bytes
  let id ← record.id
  let indexId ← record.indexId
  let source ← record.source
  some (⟨id, indexId, source, record.fields.getD ∅⟩, rest)

/-- The name of an alternative, with the bytes of its content and the levels left for it. -/
def readVariant (levels : Nat) (bytes : Bytes) : Option (Bytes × Nat × Bytes) := do
  let inner ← Cbor.enter levels
  match ← Cbor.readUntagged bytes with
  | (.map (some 1), rest) => (Cbor.readName rest).map fun (name, rest) => (name, inner, rest)
  | (.text _, _) => (Cbor.readName bytes).map fun (name, rest) => (name, inner, rest)
  | _ => none

/-- A field of a record given by its place; at the end of the array it is missing. -/
def readPlaced (read : Bytes → Option (Parsed α)) (length : Option Nat) (bytes : Bytes) :
    Option (Parsed α) := do
  match length, ← Cbor.readHeader bytes with
  | some 0, _ | none, (.stop, _) => none
  | _, _ => read bytes

/-- The only field of a record that is a map or an array. -/
def readSingle (levels : Nat) (field : String) (read : Nat → Bytes → Option (Parsed α))
    (bytes : Bytes) : Option (Parsed α) := do
  match ← Cbor.readHeader bytes with
  | (.map length, rest) => do
      let inner ← Cbor.enter levels
      let step (seen : Option α) (name bytes : Bytes) : Option (Parsed (Option α)) :=
        if isNamed name field then readField seen (read inner) id bytes
        else passField inner seen bytes
      let (found, rest) ← Cbor.readFields step (rest.length + 1) none length rest
      found.map fun value => (value, rest)
  | (.array length, rest) => do
      let inner ← Cbor.enter levels
      readPlaced (read inner) length rest
  | _ => none

/-- The place of a document to delete, as a map or an array of index and id. -/
def readKey (levels : Nat) (bytes : Bytes) : Option (Parsed DocumentKey) := do
  match ← Cbor.readHeader bytes with
  | (.map length, rest) => do
      let inner ← Cbor.enter levels
      let step (seen : Option String × Option String) (name bytes : Bytes) :
          Option (Parsed (Option String × Option String)) :=
        if isNamed name "index_id" then
          readField seen.1 Cbor.readText (fun indexId => (indexId, seen.2)) bytes
        else if isNamed name "id" then
          readField seen.2 Cbor.readText (fun id => (seen.1, id)) bytes
        else passField inner seen bytes
      let ((indexId, id), rest) ← Cbor.readFields step (rest.length + 1) (none, none) length rest
      let indexId ← indexId
      let id ← id
      some (⟨indexId, id⟩, rest)
  | (.array length, rest) => do
      let _ ← Cbor.enter levels
      let (indexId, rest) ← readPlaced Cbor.readText length rest
      let (id, rest) ← readPlaced Cbor.readText (length.map (· - 1)) rest
      some (⟨indexId, id⟩, rest)
  | _ => none

def readMutation (levels : Nat) (bytes : Bytes) : Option (Parsed Mutation) := do
  let (name, levels, rest) ← readVariant levels bytes
  if isNamed name "PutIndex" then
    (readIndex levels rest).map fun (index, rest) => (.putIndex index, rest)
  else if isNamed name "DeleteIndex" then
    (readSingle levels "id" (fun _ => Cbor.readText) rest).map fun (id, rest) =>
      (.deleteIndex id, rest)
  else if isNamed name "PutDocument" then
    (readDocument levels rest).map fun (document, rest) => (.putDocument document, rest)
  else if isNamed name "DeleteDocument" then
    (readKey levels rest).map fun (key, rest) => (.deleteDocument key, rest)
  else none

def readMutations (levels : Nat) (bytes : Bytes) : Option (Parsed (List Mutation)) :=
  Cbor.readList levels readMutation (fun _ => none) bytes

/-- The mutations of a body; bytes after its item are not looked at. -/
def read? (body : Bytes) : Option (List Mutation) := do
  let (name, levels, rest) ← readVariant Cbor.maxLevels body
  if isNamed name "Commit" then
    (readSingle levels "mutations" readMutations rest).map Prod.fst
  else none

end DocStore.Log.Body
