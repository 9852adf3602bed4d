import DocStore.Log.Body
import DocStore.Proofs.Codec.Cbor.Json
import DocStore.Proofs.Json.Levels
import DocStore.Proofs.SortedMap
import DocStore.Proofs.Storable

namespace DocStore

/-- The source that a mutation stores has short first keys everywhere. -/
def Mutation.hasShortFirstKeys : Mutation → Bool
  | .putDocument document => Cbor.hasShortFirstKeys document.source
  | .putIndex _ | .deleteIndex _ | .deleteDocument _ => true

namespace Log.Body

open Cbor (Parsed Reads Fills Bounded Begins writeMap writeText writeEntries bounded_of_writeText
  hasShortFirstKeys)

variable {α ρ : Type} {levels : Nat}

@[simp] theorem isNamed_ofString (name field : String) :
    isNamed (Bytes.ofString name) field = decide (name = field) := by
  simp [isNamed, beq_eq_decide, Bytes.ofString_inj]

/-- A value of a map takes no more bytes than the map. -/
private theorem value_bounded {entries : List (String × Bytes)} (key : String) {value : Bytes}
    (bounded : (writeMap entries).length < 2 ^ 64) (listed : (key, value) ∈ entries) :
    value.length < 2 ^ 64 :=
  Nat.lt_of_le_of_lt (Cbor.length_le_writeMap listed).2 bounded

/-- A field that was not read before is put into the record. -/
theorem reads_field {read : Bytes → Option (Parsed α)} (put : Option α → ρ) {bytes : Bytes}
    {value : α} {accepted : Bool} (reads : Reads read bytes value accepted) :
    Reads (readField none read put) bytes (put (some value)) accepted := by
  intro rest
  by_cases taken : accepted <;> simp [readField, Cbor.readOnce, reads rest, taken]

theorem reads_record {field : Nat → ρ → Bytes → Bytes → Option (Parsed ρ)} {record last : ρ}
    {fields : List (String × Bytes)} {accepted : Bool}
    (bounded : (writeMap fields).length < 2 ^ 64)
    (fills : Fills (field levels) record fields last accepted) :
    Reads (readRecord (levels + 1) field record) (writeMap fields) last accepted := by
  intro rest
  have head := Cbor.readUntagged_of_readHeader (Cbor.readHeader_writeMap bounded rest) nofun
  simp only [readRecord, head, Cbor.enter, Option.bind_eq_bind, Option.bind_some]
  exact fills.readFields_all rest

theorem reads_single {field : String} (read : Nat → Bytes → Option (Parsed α)) {bytes : Bytes}
    {value : α} {accepted : Bool} (short : (Bytes.ofString field).length ≤ Cbor.maxNameLength)
    (bounded : (writeMap [(field, bytes)]).length < 2 ^ 64)
    (reads : Reads (read levels) bytes value accepted) :
    Reads (readSingle (levels + 1) field read) (writeMap [(field, bytes)]) value accepted := by
  intro rest
  have head := Cbor.readHeader_writeMap bounded rest
  simp only [readSingle, head, Cbor.enter, Option.bind_eq_bind, Option.bind_some]
  rw [Fills.readFields_all (.cons short
    (fun rest => by simpa using reads_field id reads rest) (.nil (some value)))]
  by_cases taken : accepted <;> simp [taken]

theorem reads_counts {counts : FieldCounts} (bounded : (writeCounts counts).length < 2 ^ 64) :
    Reads (readCounts (levels + 1)) (writeCounts counts) counts true := by
  intro rest
  have found : Cbor.readMap (levels + 1) (fun _ => Cbor.readUInt64) (writeCounts counts ++ rest) =
      some (counts.entries, rest) :=
    Cbor.reads_map (fun _ => Cbor.readUInt64) (fun count => Cbor.writeNatural count.toNat) bounded
      (fun entry _ => Cbor.reads_uint64 entry.2) rest
  simp [readCounts, found, SortedMap.ofList_entries]

private theorem reads_values {values : List Primitive}
    (bounded : (Cbor.writeArray (values.map writePrimitive)).length < 2 ^ 64) :
    Reads (Cbor.readList (levels + 1) (fun _ => Cbor.readPrimitive) primitiveOfByte)
      (Cbor.writeArray (values.map writePrimitive)) values true := by
  have all : values.all (fun _ => true) = true := by simp
  have inside : ∀ value ∈ values, (writePrimitive value).length < 2 ^ 64 := fun value listed =>
    Nat.lt_of_le_of_lt (Cbor.length_le_writeArray (List.mem_map_of_mem listed)) bounded
  rw [← all]
  exact Cbor.reads_list bounded (fun value listed => Cbor.begins_writeJson (inside value listed))
    fun value listed => Cbor.reads_primitive (inside value listed)

theorem reads_projection {projection : Projection}
    (bounded : (writeProjection projection).length < 2 ^ 64) :
    Reads (readProjection (levels + 2)) (writeProjection projection) projection true := by
  intro rest
  let writeValues (values : List Primitive) : Bytes :=
    Cbor.writeArray (values.map writePrimitive)
  let readValues (levels : Nat) (bytes : Bytes) : Option (Parsed (List Primitive)) :=
    Cbor.readList levels (fun _ => Cbor.readPrimitive) primitiveOfByte bytes
  have inside : ∀ entry ∈ projection.entries, (writeValues entry.2).length < 2 ^ 64 :=
    fun entry listed => value_bounded entry.1 bounded
      (List.mem_map_of_mem (f := fun entry => (entry.1, writeValues entry.2)) listed)
  have found : Cbor.readMap (levels + 2) readValues (writeProjection projection ++ rest) =
      some (projection.entries, rest) :=
    Cbor.reads_map readValues writeValues bounded
      (fun entry listed => reads_values (inside entry listed)) rest
  simp [readProjection, readValues, found, SortedMap.ofList_entries]

theorem reads_index {index : Index} (bounded : (writeIndex index).length < 2 ^ 64) :
    Reads (readIndex (levels + 2)) (writeIndex index) index true := by
  intro rest
  have id : Bounded index.id := bounded_of_writeText (value_bounded "id" bounded (by simp))
  have fields : (writeCounts index.fields).length < 2 ^ 64 :=
    value_bounded "fields" bounded (by simp)
  have readsId : Reads (readIndexField (levels + 1) ⟨none, none⟩ (Bytes.ofString "id"))
      (writeText index.id) ⟨some index.id, none⟩ true := by
    intro rest
    simp only [readIndexField, isNamed_ofString, decide_true, if_true]
    exact reads_field _ (Cbor.reads_text id) rest
  have readsFields : Reads
      (readIndexField (levels + 1) ⟨some index.id, none⟩ (Bytes.ofString "fields"))
      (writeCounts index.fields) ⟨some index.id, some index.fields⟩ true := by
    intro rest
    simp only [readIndexField, isNamed_ofString, String.reduceEq, decide_false, decide_true,
      Bool.false_eq_true, if_false, if_true]
    exact reads_field _ (reads_counts fields) rest
  have fills : Fills (readIndexField (levels + 1)) ⟨none, none⟩
      [("id", writeText index.id), ("fields", writeCounts index.fields)]
      ⟨some index.id, some index.fields⟩ true :=
    .cons (by decide) readsId (.cons (by decide) readsFields (.nil _))
  have found : readRecord (levels + 2) readIndexField ⟨none, none⟩ (writeIndex index ++ rest) =
      some (⟨some index.id, some index.fields⟩, rest) := reads_record bounded fills rest
  simp [readIndex, found]

/-- A document is accepted when its source is. -/
theorem reads_document {document : Document} (bounded : (writeDocument document).length < 2 ^ 64)
    (fits : Json.Fits (levels + 2) document.source)
    (settled : document.source.settled = document.source) :
    Reads (readDocument (levels + 3)) (writeDocument document) document
      (hasShortFirstKeys document.source) := by
  obtain ⟨id, indexId, source, fields⟩ := document
  simp only at fits settled ⊢
  intro rest
  have idBounded : Bounded id := bounded_of_writeText (value_bounded "id" bounded (by simp))
  have indexIdBounded : Bounded indexId :=
    bounded_of_writeText (value_bounded "index_id" bounded (by simp))
  have sourceBounded : (Cbor.writeJson source).length < 2 ^ 64 :=
    value_bounded "source" bounded (by simp)
  have fieldsBounded : (writeProjection fields).length < 2 ^ 64 :=
    value_bounded "fields" bounded (by simp)
  -- The fields come in the order in which they are written, and only the source may be refused.
  let field := readDocumentField (levels + 2)
  have readsId : Reads (field ⟨none, none, none, none⟩ (Bytes.ofString "id")) (writeText id)
      ⟨some id, none, none, none⟩ true := by
    intro rest
    simp only [field, readDocumentField, isNamed_ofString, decide_true, if_true]
    exact reads_field _ (Cbor.reads_text idBounded) rest
  have readsIndexId : Reads (field ⟨some id, none, none, none⟩ (Bytes.ofString "index_id"))
      (writeText indexId) ⟨some id, some indexId, none, none⟩ true := by
    intro rest
    simp only [field, readDocumentField, isNamed_ofString, String.reduceEq, decide_false,
      decide_true, Bool.false_eq_true, if_false, if_true]
    exact reads_field _ (Cbor.reads_text indexIdBounded) rest
  have readsSource : Reads (field ⟨some id, some indexId, none, none⟩ (Bytes.ofString "source"))
      (Cbor.writeJson source) ⟨some id, some indexId, some source, none⟩
      (hasShortFirstKeys source) := by
    intro rest
    simp only [field, readDocumentField, isNamed_ofString, String.reduceEq, decide_false,
      decide_true, Bool.false_eq_true, if_false, if_true]
    exact reads_field _ (Cbor.reads_writeJson fits settled sourceBounded) rest
  have readsFields : Reads
      (field ⟨some id, some indexId, some source, none⟩ (Bytes.ofString "fields"))
      (writeProjection fields) ⟨some id, some indexId, some source, some fields⟩ true := by
    intro rest
    simp only [field, readDocumentField, isNamed_ofString, String.reduceEq, decide_false,
      decide_true, Bool.false_eq_true, if_false, if_true]
    exact reads_field _ (reads_projection fieldsBounded) rest
  have fills : Fills field ⟨none, none, none, none⟩
      [("id", writeText id), ("index_id", writeText indexId), ("source", Cbor.writeJson source),
        ("fields", writeProjection fields)]
      ⟨some id, some indexId, some source, some fields⟩
      (true && (true && (hasShortFirstKeys source && (true && true)))) :=
    .cons (by decide) readsId (.cons (by decide) readsIndexId
      (.cons (by decide) readsSource (.cons (by decide) readsFields (.nil _))))
  have found : readRecord (levels + 3) readDocumentField ⟨none, none, none, none⟩
      (writeDocument ⟨id, indexId, source, fields⟩ ++ rest) = _ := reads_record bounded fills rest
  simp only [readDocument, found]
  by_cases short : hasShortFirstKeys source <;> simp [short]

/-- A map of one entry names an alternative. -/
theorem readVariant_writeMap {name : String} {content : Bytes}
    (short : (Bytes.ofString name).length ≤ Cbor.maxNameLength)
    (bounded : (writeMap [(name, content)]).length < 2 ^ 64) (rest : Bytes) :
    readVariant (levels + 1) (writeMap [(name, content)] ++ rest) =
      some (Bytes.ofString name, levels, content ++ rest) := by
  have head := Cbor.readUntagged_of_readHeader (Cbor.readHeader_writeMap bounded rest) nofun
  simp [readVariant, Cbor.enter, head, writeEntries, Cbor.readName_writeText short]

theorem reads_key {key : DocumentKey}
    (bounded : (writeMap
      [("index_id", writeText key.indexId), ("id", writeText key.id)]).length < 2 ^ 64) :
    Reads (readKey (levels + 1))
      (writeMap [("index_id", writeText key.indexId), ("id", writeText key.id)]) key true := by
  intro rest
  have indexId : Bounded key.indexId :=
    bounded_of_writeText (value_bounded "index_id" bounded (by simp))
  have id : Bounded key.id := bounded_of_writeText (value_bounded "id" bounded (by simp))
  have head := Cbor.readHeader_writeMap bounded rest
  let field (seen : Option String × Option String) (name bytes : Bytes) :=
    if isNamed name "index_id" then
      readField seen.1 Cbor.readText (fun indexId => (indexId, seen.2)) bytes
    else if isNamed name "id" then
      readField seen.2 Cbor.readText (fun id => (seen.1, id)) bytes
    else passField levels seen bytes
  have readsIndexId : Reads (field (none, none) (Bytes.ofString "index_id"))
      (writeText key.indexId) (some key.indexId, none) true := by
    intro rest
    simp only [field, isNamed_ofString, decide_true, if_true]
    exact reads_field _ (Cbor.reads_text indexId) rest
  have readsId : Reads (field (some key.indexId, none) (Bytes.ofString "id"))
      (writeText key.id) (some key.indexId, some key.id) true := by
    intro rest
    simp only [field, isNamed_ofString, String.reduceEq, decide_false, decide_true,
      Bool.false_eq_true, if_false, if_true]
    exact reads_field _ (Cbor.reads_text id) rest
  have fills : Fills field (none, none)
      [("index_id", writeText key.indexId), ("id", writeText key.id)]
      (some key.indexId, some key.id) true :=
    .cons (by decide) readsIndexId (.cons (by decide) readsId (.nil _))
  simp only [readKey, head, Cbor.enter, Option.bind_eq_bind, Option.bind_some]
  rw [fills.readFields_all]
  rfl

theorem begins_writeMap {entries : List (String × Bytes)}
    (bounded : (writeMap entries).length < 2 ^ 64) : Begins (writeMap entries) := fun rest =>
  ⟨_, _, Cbor.readHeader_writeMap bounded rest⟩

theorem begins_writeMutation {mutation : Mutation}
    (bounded : (writeMutation mutation).length < 2 ^ 64) : Begins (writeMutation mutation) := by
  cases mutation <;> exact begins_writeMap bounded

/-- The name of an alternative decides how its content is read. -/
private theorem readMutation_writeMap {name : String} {content : Bytes}
    (short : (Bytes.ofString name).length ≤ Cbor.maxNameLength)
    (bounded : (writeMap [(name, content)]).length < 2 ^ 64) (rest : Bytes) :
    readMutation (levels + 1) (writeMap [(name, content)] ++ rest) =
      if name = "PutIndex" then
        (readIndex levels (content ++ rest)).map fun (index, rest) => (.putIndex index, rest)
      else if name = "DeleteIndex" then
        (readSingle levels "id" (fun _ => Cbor.readText) (content ++ rest)).map fun (id, rest) =>
          (.deleteIndex id, rest)
      else if name = "PutDocument" then
        (readDocument levels (content ++ rest)).map fun (document, rest) =>
          (.putDocument document, rest)
      else if name = "DeleteDocument" then
        (readKey levels (content ++ rest)).map fun (key, rest) => (.deleteDocument key, rest)
      else none := by
  simp only [readMutation, readVariant_writeMap short bounded, isNamed_ofString,
    decide_eq_true_eq, Option.bind_eq_bind, Option.bind_some]

/-- A mutation is accepted when the source it stores is. -/
theorem reads_mutation {mutation : Mutation} (bounded : (writeMutation mutation).length < 2 ^ 64)
    (storable : mutation.Storable) (room : SourceFault.maxLevel < levels + 2) :
    Reads (readMutation (levels + 4)) (writeMutation mutation) mutation
      mutation.hasShortFirstKeys := by
  intro rest
  cases mutation with
  | putIndex index =>
      have content : (writeIndex index).length < 2 ^ 64 :=
        value_bounded "PutIndex" bounded (by simp)
      rw [writeMutation, readMutation_writeMap (by decide) bounded]
      simp [reads_index content rest, Mutation.hasShortFirstKeys]
  | deleteIndex id =>
      have content : (writeMap [("id", writeText id)]).length < 2 ^ 64 :=
        value_bounded "DeleteIndex" bounded (by simp)
      have text : Bounded id := bounded_of_writeText (value_bounded "id" content (by simp))
      have found : readSingle (levels + 3) "id" (fun _ => Cbor.readText)
          (writeMap [("id", writeText id)] ++ rest) = some (id, rest) :=
        reads_single (fun _ => Cbor.readText) (by decide) content (Cbor.reads_text text) rest
      rw [writeMutation, readMutation_writeMap (by decide) bounded]
      simp [found, Mutation.hasShortFirstKeys]
  | putDocument document =>
      have content : (writeDocument document).length < 2 ^ 64 :=
        value_bounded "PutDocument" bounded (by simp)
      have found := reads_document content (Json.fits_of_checkSource storable.checked room)
        storable.settled rest
      rw [writeMutation, readMutation_writeMap (by decide) bounded]
      simp only [String.reduceEq, if_false, if_true, found, Mutation.hasShortFirstKeys]
      by_cases short : hasShortFirstKeys document.source <;> simp [short]
  | deleteDocument key =>
      have content := value_bounded "DeleteDocument" bounded (List.mem_singleton.mpr rfl)
      rw [writeMutation, readMutation_writeMap (by decide) bounded]
      simp [reads_key content rest, Mutation.hasShortFirstKeys]

/-- A body is accepted when all its mutations are. -/
theorem read?_write {mutations : List Mutation} (bounded : (write mutations).length < 2 ^ 64)
    (storable : ∀ mutation ∈ mutations, mutation.Storable) :
    read? (write mutations) =
      if mutations.all Mutation.hasShortFirstKeys then some mutations else none := by
  let listed := Cbor.writeArray (mutations.map writeMutation)
  have single : (writeMap [("mutations", listed)]).length < 2 ^ 64 :=
    value_bounded "Commit" bounded (by simp [listed])
  have list : listed.length < 2 ^ 64 := value_bounded "mutations" single (by simp)
  have inside : ∀ mutation ∈ mutations, (writeMutation mutation).length < 2 ^ 64 :=
    fun mutation member =>
      Nat.lt_of_le_of_lt (Cbor.length_le_writeArray (List.mem_map_of_mem member)) list
  -- Of the 256 levels five are gone at a source, which leaves more than it may use.
  have reads : Reads (readMutations 254) listed mutations
      (mutations.all Mutation.hasShortFirstKeys) :=
    Cbor.reads_list list (fun mutation member => begins_writeMutation (inside mutation member))
      fun mutation member => reads_mutation (inside mutation member) (storable mutation member)
        (by decide)
  have commit : readSingle 255 "mutations" readMutations (writeMap [("mutations", listed)]) =
      if mutations.all Mutation.hasShortFirstKeys then some (mutations, []) else none := by
    simpa using reads_single readMutations (by decide) single reads []
  have variant : readVariant Cbor.maxLevels (write mutations) =
      some (Bytes.ofString "Commit", 255, writeMap [("mutations", listed)]) := by
    have found : readVariant 256 (write mutations ++ []) =
        some (Bytes.ofString "Commit", 255, writeMap [("mutations", listed)] ++ []) :=
      readVariant_writeMap (by decide) bounded []
    rwa [List.append_nil, List.append_nil] at found
  simp only [read?, variant, Option.bind_eq_bind, Option.bind_some, isNamed_ofString, decide_true,
    if_true, commit]
  by_cases short : mutations.all Mutation.hasShortFirstKeys <;> simp [short]

end Log.Body

end DocStore
