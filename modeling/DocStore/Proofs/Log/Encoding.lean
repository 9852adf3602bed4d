import DocStore.Proofs.Log.Body
import DocStore.Proofs.Log.Record

namespace DocStore.Log.Record

/-- Every source that the record stores has short first keys. -/
def hasShortFirstKeys (record : Record) : Bool :=
  record.mutations.all Mutation.hasShortFirstKeys

/-- The body has a length that a header can hold. -/
def Measured (records : List Record) : Prop :=
  ∀ record ∈ records, (Body.write record.mutations).length < 2 ^ 32

instance (records : List Record) : Decidable (Measured records) :=
  inferInstanceAs (Decidable (∀ record ∈ records, _))

variable {record : Record} {records : List Record}

private theorem read?_body (short : (Body.write record.mutations).length < 2 ^ 32)
    (storable : ∀ mutation ∈ record.mutations, mutation.Storable) :
    Body.read? (Body.write record.mutations) =
      if record.hasShortFirstKeys then some record.mutations else none :=
  Body.read?_write (Nat.lt_trans short (by decide)) storable

private theorem spells_encoded (measured : Measured records) (storable : Storable records)
    (short : records.all hasShortFirstKeys) : Spells (records.flatMap encode) records := by
  refine .flatMap_encode fun record listed => ?_
  have body := read?_body (measured record listed) (storable record listed)
  rw [if_pos (List.all_eq_true.mp short record listed)] at body
  exact ⟨body, measured record listed⟩

private theorem decode?_long (measured : Measured (record :: records))
    (storable : Storable (record :: records)) (long : record.hasShortFirstKeys = false)
    (rest : Bytes) : decode? (record.encode ++ rest) = none := by
  have short := measured record List.mem_cons_self
  rw [decode?_encode_eq short, read?_body short (storable record List.mem_cons_self), long]
  rfl

/-- The records before the first one with a long first key are found, and nothing else. -/
theorem scan_encoded (measured : Measured records) (storable : Storable records) :
    scan (records.flatMap encode) =
      (records.takeWhile hasShortFirstKeys,
        ((records.takeWhile hasShortFirstKeys).flatMap encode).length) := by
  obtain ⟨kept, keptIs⟩ : ∃ kept, kept = records.takeWhile hasShortFirstKeys := ⟨_, rfl⟩
  obtain ⟨lost, lostIs⟩ : ∃ lost, lost = records.dropWhile hasShortFirstKeys := ⟨_, rfl⟩
  have parts : records = kept ++ lost := by rw [keptIs, lostIs, List.takeWhile_append_dropWhile]
  have short : kept.all hasShortFirstKeys := keptIs ▸ List.all_takeWhile
  have spelled : Spells (kept.flatMap encode) kept :=
    spells_encoded (fun record listed => measured record (parts ▸ List.mem_append_left _ listed))
      (fun record listed => storable record (parts ▸ List.mem_append_left _ listed)) short
  have ends : decode? (lost.flatMap encode) = none := by
    cases lost with
    | nil => exact decode?_nil
    | cons record rest =>
        have long := List.head?_dropWhile_not hasShortFirstKeys records
        rw [← lostIs] at long
        exact decode?_long
          (fun record listed => measured record (parts ▸ List.mem_append_right _ listed))
          (fun record listed => storable record (parts ▸ List.mem_append_right _ listed)) long _
  rw [← keptIs, parts, List.flatMap_append, spelled.scan ends]

/-- Records are scanned as they were written exactly when every object of their sources begins with
a short key. -/
theorem scan_encoded_iff (measured : Measured records) (storable : Storable records) :
    scan (records.flatMap encode) = (records, (records.flatMap encode).length) ↔
      ∀ record ∈ records, record.hasShortFirstKeys := by
  rw [scan_encoded measured storable, ← List.takeWhile_eq_self_iff]
  exact ⟨fun same => (Prod.mk.inj same).1, fun same => by rw [same]⟩

/-- Mutations of all kinds, with numbers of all kinds below and beside each other. -/
def allKinds : List Record :=
  [⟨3, -7, [.putIndex ⟨"é", .ofList [("z", 18446744073709551615), ("a.s", 1)]⟩,
      .putDocument (.ofSource "é" "a/b" (.object
        [("z", .array [.number (.natural 1),
            .number (.float ⟨false, ⟨4591870180066957722, by decide⟩⟩),
            .number (.negative ⟨9, by decide⟩)]),
          ("a", .object [("", .null), ("n.m", .bool true), ("s", .string "x\ny")])]))]⟩,
    ⟨2, 0, []⟩,
    ⟨18446744073709551615, 9223372036854775807, [.deleteDocument ⟨"é", "a/b"⟩, .deleteIndex "é"]⟩]

theorem allKinds_scanned :
    Measured allKinds ∧ Storable allKinds ∧
      scan (allKinds.flatMap encode) = (allKinds, (allKinds.flatMap encode).length) := by
  have measured : Measured allKinds := by decide +kernel
  have storable : Storable allKinds := by decide +kernel
  exact ⟨measured, storable, (scan_encoded_iff measured storable).mpr (by decide +kernel)⟩

/-- A document with one key, and a commit after it. -/
def keyed (key : String) : List Record :=
  [⟨1, 0, [.putDocument (.ofSource "books" "a" (.object [(key, .object [])]))]⟩,
    ⟨2, 0, [.deleteIndex "books"]⟩]

private theorem length_body_keyed (key : String) :
    (Body.write [.putDocument (.ofSource "books" "a" (.object [(key, .object [])]))]).length +
        (Cbor.writeText "").length =
      (Body.write [.putDocument (.ofSource "books" "a" (.object [("", .object [])]))]).length +
        (Cbor.writeText key).length := by
  simp only [Body.write, Body.writeMutation, Body.writeDocument, Document.ofSource,
    Projection.flatten, Projection.addLeaves, Projection.addMembers, Cbor.writeMap,
    Cbor.writeArray, Cbor.writeJson, Cbor.writeMembers, List.map_cons, List.map_nil,
    List.flatMap_cons, List.flatMap_nil, List.flatten_cons, List.flatten_nil, List.length_append,
    List.length_cons, List.length_nil]
  omega

theorem keyed_measured {key : String} (short : (Bytes.ofString key).length < 2 ^ 16) :
    Measured (keyed key) := by
  have first := length_body_keyed key
  have base : (Body.write [.putDocument (.ofSource "books" "a"
      (.object [("", .object [])]))]).length < 2 ^ 16 := by decide +kernel
  have second : (Body.write [.deleteIndex "books"]).length < 2 ^ 32 := by decide +kernel
  have head := Cbor.length_writeHead_le 3 (Bytes.ofString key).length
  rw [Cbor.writeText, Cbor.writeText, List.length_append, List.length_append] at first
  refine List.forall_mem_cons.mpr ⟨?_, List.forall_mem_singleton.mpr second⟩
  simp only
  omega

theorem keyed_storable (key : String) : Storable (keyed key) := by
  have source : Json.Storable (.object [(key, .object [])]) :=
    ⟨rfl, by simp [Json.settled, Json.settledMembers, Json.putMember]⟩
  refine List.forall_mem_cons.mpr ⟨?_, List.forall_mem_singleton.mpr ?_⟩
  · exact List.forall_mem_singleton.mpr source
  · exact List.forall_mem_singleton.mpr trivial

/-- Nothing is found of a commit whose document has a long key, nor of the commits after it. -/
theorem scan_keyed {key : String} (short : (Bytes.ofString key).length < 2 ^ 16)
    (long : Cbor.maxNameLength < (Bytes.ofString key).length) :
    scan ((keyed key).flatMap encode) = ([], 0) := by
  have lost : (keyed key).takeWhile hasShortFirstKeys = [] := by
    simp [keyed, hasShortFirstKeys, Mutation.hasShortFirstKeys, Document.ofSource,
      Cbor.hasShortFirstKeys, Cbor.startsShort, Cbor.isShortKey, long]
  rw [scan_encoded (keyed_measured short) (keyed_storable key), lost]
  rfl

def longKey : String := String.ofList (List.replicate (Cbor.maxNameLength + 1) 'a')

private theorem length_replicate (count : Nat) :
    (Bytes.ofString (String.ofList (List.replicate count 'a'))).length = count := by
  have bytes : (String.ofList (List.replicate count 'a')).toUTF8 =
      (List.replicate count 'a').utf8Encode := String.toByteArray_ofList
  rw [Bytes.ofString, bytes, Array.length_toList]
  change (List.replicate count 'a').utf8Encode.size = count
  clear bytes
  induction count with
  | zero => rfl
  | succ count ih =>
      have one : ['a'].utf8Encode.size = 1 := rfl
      rw [List.replicate_succ, List.utf8Encode_cons, ByteArray.size_append, ih, one, Nat.add_comm]

theorem length_longKey : (Bytes.ofString longKey).length = Cbor.maxNameLength + 1 :=
  length_replicate _

theorem longKey_ends_scan :
    Measured (keyed longKey) ∧ Storable (keyed longKey) ∧
      scan ((keyed longKey).flatMap encode) = ([], 0) := by
  have short : (Bytes.ofString longKey).length < 2 ^ 16 := by rw [length_longKey]; decide
  exact ⟨keyed_measured short, keyed_storable longKey,
    scan_keyed short (by rw [length_longKey]; decide)⟩

end DocStore.Log.Record
