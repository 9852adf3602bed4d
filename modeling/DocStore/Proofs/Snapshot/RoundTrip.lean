import DocStore.Proofs.Recovery
import DocStore.Proofs.Snapshot.Entry
import DocStore.Proofs.Storable

namespace DocStore

theorem Tables.Storable.replay {tables : Tables} (storable : tables.Storable)
    {history : List Log.Record} (put : Log.Storable history) :
    (tables.replay history).Storable := by
  induction history generalizing tables with
  | nil => exact storable
  | cons record rest ih =>
      obtain ⟨first, later⟩ := List.forall_mem_cons.mp put
      exact ih (storable.applyCommit record.seq first) later

/-- Every number in the documents is legible. -/
def Tables.Legible (tables : Tables) : Prop :=
  ∀ document ∈ tables.documents.values, document.toJson.Legible

instance (tables : Tables) : Decidable tables.Legible :=
  inferInstanceAs (Decidable (∀ document ∈ tables.documents.values, document.toJson.Legible))

namespace Snapshot

private theorem flatMap_lines (lines : List (List Char)) :
    (lines.flatMap fun line => line ++ ['\n']) = List.intercalate ['\n'] (lines ++ [[]]) := by
  induction lines with
  | nil => rfl
  | cons line rest ih =>
      rw [List.flatMap_cons, ih, List.cons_append, List.intercalate_cons_of_ne_nil (by simp),
        List.append_assoc]

/-- The text of a snapshot is cut by its line breaks into the lines of its entries; behind the last
break nothing follows. -/
theorem splitOn_write (tables : Tables) (createdAt : Int64) :
    (write tables createdAt).toList.splitOn '\n' =
      ((entries tables createdAt).map fun entry => entry.toJson.text.toList) ++ [[]] := by
  rw [write_toList, flatMap_lines]
  refine List.splitOn_intercalate _ (fun line member => ?_) (by simp)
  rcases List.mem_append.mp member with written | last
  · obtain ⟨entry, -, rfl⟩ := List.mem_map.mp written
    exact (line_shape entry).1
  · rw [List.mem_singleton.mp last]
    exact List.not_mem_nil

/-- Lines are read as their entries when all sources could be committed and all numbers are
legible. -/
theorem legible_of_storable {tables : Tables} (storable : tables.Storable)
    (legible : tables.Legible) (createdAt : Int64) : Legible tables createdAt := by
  intro entry member
  simp only [entries, List.cons_append, List.mem_cons, List.mem_append, List.mem_map] at member
  rcases member with rfl | ⟨index, -, rfl⟩ | ⟨document, listed, rfl⟩
  · exact Entry.ofLine_header
  · exact Entry.ofLine_index
  · obtain ⟨key, stored⟩ := SortedMap.mem_values_iff.mp listed
    exact Entry.ofLine_document (storable key document stored) (legible document listed)

variable {history : List Log.Record}

/-- The snapshot of the tables after any commits has one line for its header and then one for every
index and for every document, in the order of their keys, and the tables are read from it if their
numbers are. -/
theorem read_write_after (storable : Log.Storable history)
    (legible : (Tables.after history).Legible) (createdAt : Int64) :
    (write (.after history) createdAt).toList.splitOn '\n' =
        ((Entry.header (Tables.after history).commitSeq createdAt ::
          ((Tables.after history).indexes.values.map Entry.index ++
            (Tables.after history).documents.values.map Entry.document)).map
          fun entry => entry.toJson.text.toList) ++ [[]] ∧
      ((Tables.after history).indexes.values.map Index.id).Pairwise
        (fun a b => compare a b = .lt) ∧
      ((Tables.after history).documents.values.map Document.key).Pairwise
        (fun a b => compare a b = .lt) ∧
      read (write (.after history) createdAt) = .ok (.after history) := by
  have keyed : (Tables.after history).Keyed := Tables.Keyed.empty.replay history
  have sources : (Tables.after history).Storable := Tables.Storable.empty.replay storable
  exact ⟨splitOn_write _ createdAt, SortedMap.ascending_values keyed.index,
    SortedMap.ascending_values keyed.document,
    read_write keyed (legible_of_storable sources legible createdAt)⟩

/-- Line breaks in names and keys, two kinds of one number, and a document that is gone again. -/
def brokenNames : List Log.Record :=
  [⟨1, 0, [.putIndex (.new "a\nb"),
    .putDocument (.ofSource "a\nb" "\r\n" (.object
      [("k\"\n", .array [.number (.natural 1),
          .number (.float ⟨false, ⟨4607182418800017408, by decide⟩⟩)]),
        ("é", .object [("\x01", .string "\\\r"), ("z", .number (.negative ⟨0, by decide⟩))])]))]⟩,
   ⟨7, 5, [.putDocument (.ofSource "a\nb" "x" (.object [])), .deleteDocument ⟨"a\nb", "x"⟩]⟩]

theorem brokenNames_read_write :
    Log.Storable brokenNames ∧ (Tables.after brokenNames).Legible ∧
      (write (.after brokenNames) (-1)).toList.splitOn '\n' =
        ((Entry.header (Tables.after brokenNames).commitSeq (-1) ::
          ((Tables.after brokenNames).indexes.values.map Entry.index ++
            (Tables.after brokenNames).documents.values.map Entry.document)).map
          fun entry => entry.toJson.text.toList) ++ [[]] ∧
      ((Tables.after brokenNames).indexes.values.map Index.id).Pairwise
        (fun a b => compare a b = .lt) ∧
      ((Tables.after brokenNames).documents.values.map Document.key).Pairwise
        (fun a b => compare a b = .lt) ∧
      read (write (.after brokenNames) (-1)) = .ok (.after brokenNames) := by
  have storable : Log.Storable brokenNames := by decide +kernel
  have legible : (Tables.after brokenNames).Legible := by decide +kernel
  exact ⟨storable, legible, read_write_after storable legible (-1)⟩

end Snapshot

end DocStore
