import DocStore.Transaction
import DocStore.Proofs.SortedMap
import Mathlib.Data.String.Basic

namespace DocStore

theorem DocumentKey.compare_eq (a b : DocumentKey) :
    compare a b = (compare a.indexId b.indexId).then (compare a.id b.id) := rfl

/-- The first key that an index could have. -/
theorem DocumentKey.compare_first (key : DocumentKey) (indexId : String) :
    compare key ⟨indexId, ""⟩ = .lt ↔ compare key.indexId indexId = .lt := by
  have least : compare key.id "" ≠ .lt := by
    rw [ne_eq, compare_lt_iff_lt, String.lt_iff_toList_lt]
    exact List.not_lt_nil _
  rw [compare_eq, Ordering.then_eq_lt]
  exact or_iff_left fun same => least same.2

namespace Tables

/-- The documents of an index stand together. -/
theorem indexEntries_eq (tables : Tables) (indexId : String) :
    tables.indexEntries indexId =
      tables.documents.entries.filter fun entry => entry.1.indexId == indexId := by
  refine SortedMap.takeWhile_entriesFrom tables.documents ⟨indexId, ""⟩
    (fun key => key.indexId == indexId) (fun key here => ?_) fun key next reached below here => ?_
  · rw [ne_eq, DocumentKey.compare_first, beq_iff_eq.mp here, compare_eq_iff_eq.mpr rfl]
    exact nofun
  · rw [ne_eq, DocumentKey.compare_first] at reached
    rw [DocumentKey.compare_eq, beq_iff_eq.mp here, Ordering.then_eq_lt] at below
    obtain ⟨same, -⟩ := below.resolve_left reached
    exact beq_iff_eq.mpr (Std.LawfulEqOrd.eq_of_compare same)

theorem indexDocuments_eq (tables : Tables) (indexId : String) :
    tables.indexDocuments indexId =
      (tables.documents.filter fun key _ => key.indexId == indexId).values :=
  congrArg (List.map Prod.snd) (tables.indexEntries_eq indexId)

theorem mem_indexDocuments {tables : Tables} {document : Document} {id : String} :
    document ∈ tables.indexDocuments id ↔
      ∃ key, tables.documents.get? key = some document ∧ key.indexId = id := by
  simp only [indexDocuments_eq, SortedMap.mem_values_iff, SortedMap.get?_filter,
    Option.filter_eq_some_iff, beq_iff_eq]

/-- Every index and every document is stored under its own key. -/
structure Keyed (tables : Tables) : Prop where
  index : ∀ id index, tables.indexes.get? id = some index → index.id = id
  document : ∀ key document, tables.documents.get? key = some document → document.key = key

theorem Keyed.empty : Keyed .empty := ⟨nofun, nofun⟩

variable {tables : Tables}

theorem get?_of_get?_deleteIndex {id : String} {key : DocumentKey} {document : Document}
    (stored : (tables.deleteIndex id).documents.get? key = some document) :
    tables.documents.get? key = some document := by
  rw [deleteIndex, SortedMap.get?_foldl_erase] at stored
  split at stored
  · cases stored
  · exact stored

/-- A document that is stored under its own key goes when its index is deleted. -/
theorem Keyed.documents_deleteIndex (keyed : tables.Keyed) (id : String) :
    (tables.deleteIndex id).documents =
      tables.documents.filter fun key _ => key.indexId != id := by
  refine SortedMap.ext_get? fun key => ?_
  have named : key ∈ (tables.indexDocuments id).map Document.key ↔
      (tables.documents.get? key).isSome ∧ key.indexId = id := by
    simp only [List.mem_map, mem_indexDocuments, Option.isSome_iff_exists]
    constructor
    · rintro ⟨document, ⟨other, stored, here⟩, rfl⟩
      have same : document.key = other := keyed.document other document stored
      exact ⟨⟨document, same ▸ stored⟩, same ▸ here⟩
    · rintro ⟨⟨document, stored⟩, here⟩
      exact ⟨document, ⟨key, stored, here⟩, keyed.document key document stored⟩
  rw [deleteIndex, SortedMap.get?_filter, SortedMap.get?_foldl_erase]
  simp only [named]
  cases stored : tables.documents.get? key with
  | none => simp
  | some document => by_cases here : key.indexId = id <;> simp [here, Option.filter]

theorem Keyed.get?_deleteIndex (keyed : tables.Keyed) (id : String) (key : DocumentKey) :
    (tables.deleteIndex id).documents.get? key =
      if key.indexId = id then none else tables.documents.get? key := by
  rw [keyed.documents_deleteIndex, SortedMap.get?_filter]
  by_cases here : key.indexId = id
  · simp [here]
  · cases tables.documents.get? key <;> simp [here, Option.filter]

theorem Keyed.apply (keyed : tables.Keyed) (mutation : Mutation) :
    (tables.apply mutation).Keyed := by
  cases mutation with
  | putIndex put => exact ⟨SortedMap.forall_get?_insert keyed.index rfl, keyed.document⟩
  | deleteIndex id =>
      refine ⟨fun other index stored => ?_, fun key document stored => ?_⟩
      · exact keyed.index other index (SortedMap.get?_of_get?_erase stored)
      · exact keyed.document key document (get?_of_get?_deleteIndex stored)
  | putDocument put => exact ⟨keyed.index, SortedMap.forall_get?_insert keyed.document rfl⟩
  | deleteDocument key =>
      refine ⟨keyed.index, fun other document stored => ?_⟩
      exact keyed.document other document (SortedMap.get?_of_get?_erase stored)

theorem Keyed.foldl_apply (keyed : tables.Keyed) (mutations : List Mutation) :
    (mutations.foldl Tables.apply tables).Keyed := by
  induction mutations generalizing tables with
  | nil => exact keyed
  | cons mutation rest ih => exact ih (keyed.apply mutation)

theorem Keyed.applyCommit (keyed : tables.Keyed) (seq : UInt64) (mutations : List Mutation) :
    (tables.applyCommit seq mutations).Keyed :=
  ⟨(keyed.foldl_apply mutations).index, (keyed.foldl_apply mutations).document⟩

theorem commitSeq_apply (tables : Tables) (mutation : Mutation) :
    (tables.apply mutation).commitSeq = tables.commitSeq := by
  cases mutation <;> rfl

theorem commitSeq_foldl_apply (tables : Tables) (mutations : List Mutation) :
    (mutations.foldl Tables.apply tables).commitSeq = tables.commitSeq := by
  induction mutations generalizing tables with
  | nil => rfl
  | cons mutation rest ih => rw [List.foldl_cons, ih, commitSeq_apply]

theorem commitSeq_applyCommit (tables : Tables) (seq : UInt64) (mutations : List Mutation) :
    (tables.applyCommit seq mutations).commitSeq = max tables.commitSeq seq := by
  simp only [applyCommit, commitSeq_foldl_apply]

end Tables

/-- The index that a mutation changes. -/
def Mutation.indexId : Mutation → String
  | .putIndex index => index.id
  | .deleteIndex id => id
  | .putDocument document => document.indexId
  | .deleteDocument key => key.indexId

namespace Tables

/-- The tables agree on an index and on its documents. -/
structure AgreeOn (id : String) (tables other : Tables) : Prop where
  index : tables.indexes.get? id = other.indexes.get? id
  documents : tables.indexDocuments id = other.indexDocuments id

namespace AgreeOn

variable {id : String} {tables next : Tables} {mutation : Mutation}

theorem refl (id : String) (tables : Tables) : AgreeOn id tables tables := ⟨rfl, rfl⟩

theorem trans {last : Tables} (first : AgreeOn id last next) (second : AgreeOn id next tables) :
    AgreeOn id last tables :=
  ⟨first.index.trans second.index, first.documents.trans second.documents⟩

/-- It is enough that the documents under the keys of the index are the same. -/
theorem of_get? (index : next.indexes.get? id = tables.indexes.get? id)
    (documents : ∀ key : DocumentKey, key.indexId = id →
      next.documents.get? key = tables.documents.get? key) : AgreeOn id next tables := by
  have same : (next.documents.filter fun key _ => key.indexId == id) =
      tables.documents.filter fun key _ => key.indexId == id := by
    refine SortedMap.ext_get? fun key => ?_
    rw [SortedMap.get?_filter, SortedMap.get?_filter]
    by_cases here : key.indexId = id
    · rw [documents key here]
    · cases next.documents.get? key <;> cases tables.documents.get? key <;>
        simp [Option.filter, here]
  refine ⟨index, ?_⟩
  rw [indexDocuments_eq, indexDocuments_eq, same]

/-- A mutation leaves the other indexes and their documents as they are. -/
theorem apply (keyed : tables.Keyed) (different : mutation.indexId ≠ id) :
    AgreeOn id (tables.apply mutation) tables := by
  cases mutation with
  | putIndex index =>
      exact .of_get? (SortedMap.get?_insert_of_ne (Ne.symm different) _ _) fun _ _ => rfl
  | deleteIndex other =>
      refine .of_get? (SortedMap.get?_erase_of_ne (Ne.symm different) _) fun key here => ?_
      have kept : key.indexId ≠ other := fun same => different (same.symm.trans here)
      rw [Tables.apply, keyed.get?_deleteIndex, if_neg kept]
  | putDocument document =>
      refine .of_get? rfl fun key here => SortedMap.get?_insert_of_ne ?_ _ _
      rintro rfl
      exact different here
  | deleteDocument other =>
      refine .of_get? rfl fun key here => SortedMap.get?_erase_of_ne ?_ _
      rintro rfl
      exact different here

theorem foldl_apply (keyed : tables.Keyed) {mutations : List Mutation}
    (different : ∀ mutation ∈ mutations, mutation.indexId ≠ id) :
    AgreeOn id (mutations.foldl Tables.apply tables) tables := by
  induction mutations generalizing tables with
  | nil => exact refl id tables
  | cons mutation rest ih =>
      exact (ih (keyed.apply mutation) fun other member =>
        different other (List.mem_cons_of_mem _ member)).trans
        (apply keyed (different mutation List.mem_cons_self))

end AgreeOn

end Tables

end DocStore
