import DocStore.Proofs.Accounting
import Mathlib.Data.String.Basic

namespace DocStore

/-- Index ids, document ids and the sources of the documents. -/
abbrev Catalog := SortedMap String (SortedMap String Json)

namespace Catalog

variable {catalog : Catalog} {sources : SortedMap String Json}

def source? (catalog : Catalog) (indexId id : String) : Option Json :=
  (catalog.get? indexId).bind fun sources => sources.get? id

/-- The documents of an index, by id.  An index that is missing has none. -/
def documents (catalog : Catalog) (indexId : String) : List Document :=
  ((catalog.get? indexId).getD ∅).entries.map fun (id, source) => .ofSource indexId id source

/-- Puts a source, and its index if that is missing. -/
def put (catalog : Catalog) (indexId id : String) (source : Json) : Catalog :=
  catalog.insert indexId (((catalog.get? indexId).getD ∅).insert id source)

/-- Takes a source out of its index. -/
def remove (catalog : Catalog) (indexId id : String) : Catalog :=
  match catalog.get? indexId with
  | none => catalog
  | some sources => catalog.insert indexId (sources.erase id)

theorem source?_insert (catalog : Catalog) (indexId other id : String)
    (sources : SortedMap String Json) :
    source? (catalog.insert indexId sources) other id =
      if other = indexId then sources.get? id else catalog.source? other id := by
  rw [source?, SortedMap.get?_insert_eq]
  split <;> rfl

theorem source?_put (catalog : Catalog) (indexId id other document : String) (source : Json) :
    source? (catalog.put indexId id source) other document =
      if other = indexId ∧ document = id then some source
      else catalog.source? other document := by
  rw [put, source?_insert, SortedMap.get?_insert_eq]
  by_cases index : other = indexId
  · subst index
    by_cases same : document = id <;>
      cases found : catalog.get? other <;> simp [source?, same, found]
  · simp [index]

theorem source?_remove (catalog : Catalog) (indexId id other document : String) :
    source? (catalog.remove indexId id) other document =
      if other = indexId ∧ document = id then none else catalog.source? other document := by
  unfold remove
  cases found : catalog.get? indexId with
  | none =>
      by_cases index : other = indexId
      · simp [index, source?, found]
      · simp [index]
  | some sources =>
      simp only
      rw [source?_insert, SortedMap.get?_erase_eq]
      by_cases index : other = indexId
      · subst index
        by_cases same : document = id <;> simp [source?, same, found]
      · simp [index]

theorem source?_erase (catalog : Catalog) (indexId other id : String) :
    source? (catalog.erase indexId) other id =
      if other = indexId then none else catalog.source? other id := by
  rw [source?, SortedMap.get?_erase_eq]
  split <;> rfl

theorem contains_insert (catalog : Catalog) (indexId other : String)
    (sources : SortedMap String Json) :
    (catalog.insert indexId sources).contains other =
      (decide (other = indexId) || catalog.contains other) := by
  rw [SortedMap.contains, SortedMap.get?_insert_eq]
  by_cases same : other = indexId <;> simp [same, SortedMap.contains]

theorem contains_erase (catalog : Catalog) (indexId other : String) :
    (catalog.erase indexId).contains other =
      (!decide (other = indexId) && catalog.contains other) := by
  rw [SortedMap.contains, SortedMap.get?_erase_eq]
  by_cases same : other = indexId <;> simp [same, SortedMap.contains]

end Catalog

namespace SortedMap

/-- Maps with the same keys list them alike. -/
theorem keys_eq_of_contains {ν μ : Type} {a : SortedMap String ν} {b : SortedMap String μ}
    (same : ∀ key, a.contains key = b.contains key) : a.keys = b.keys := by
  have marks : a.mapValues (fun _ => ()) = b.mapValues fun _ => () := by
    refine ext_get? fun key => ?_
    have here := same key
    simp only [contains] at here
    rw [get?_mapValues, get?_mapValues]
    cases found : a.get? key <;> cases other : b.get? key <;> simp_all
  simpa [mapValues, keys, Function.comp_def] using
    congrArg (fun map => map.entries.map Prod.fst) marks

end SortedMap

namespace Tables

/-- The tables hold the indexes of the catalog and the documents of its sources, under their own
keys. -/
structure Shows (tables : Tables) (catalog : Catalog) : Prop where
  keyed : tables.Keyed
  indexes : ∀ id, tables.indexes.contains id = catalog.contains id
  documents : ∀ indexId id, tables.documents.get? ⟨indexId, id⟩ =
    (catalog.source? indexId id).map (.ofSource indexId id)

namespace Shows

variable {tables next : Tables} {catalog : Catalog} {index : Index}

theorem empty : Shows .empty ∅ := ⟨.empty, fun _ => rfl, fun _ _ => rfl⟩

/-- The number of the latest commit does not matter. -/
theorem congr (shows : tables.Shows catalog) (indexes : next.indexes = tables.indexes)
    (documents : next.documents = tables.documents) : next.Shows catalog := by
  obtain ⟨keyed, sameIndexes, sameDocuments⟩ := shows
  exact ⟨⟨indexes ▸ keyed.index, documents ▸ keyed.document⟩, indexes ▸ sameIndexes,
    documents ▸ sameDocuments⟩

/-- An index is put, with whatever counts. -/
theorem putIndex (shows : tables.Shows catalog) (index : Index) :
    (tables.putIndex index).Shows
      (catalog.insert index.id ((catalog.get? index.id).getD ∅)) := by
  refine ⟨shows.keyed.apply (.putIndex index), fun id => ?_, fun indexId id => ?_⟩
  · have before := shows.indexes id
    rw [Catalog.contains_insert, ← before, SortedMap.contains, Tables.putIndex,
      SortedMap.get?_insert_eq]
    by_cases same : id = index.id <;> simp [same, SortedMap.contains]
  · refine (shows.documents indexId id).trans ?_
    rw [Catalog.source?_insert]
    by_cases same : indexId = index.id
    · subst same
      cases found : catalog.get? index.id <;> simp [Catalog.source?, found]
    · simp [same]

/-- A document is put after its index. -/
theorem putDocument (shows : tables.Shows catalog) (indexId id : String) (source : Json)
    (here : catalog.contains indexId = true) :
    (tables.putDocument (.ofSource indexId id source)).Shows (catalog.put indexId id source) := by
  refine ⟨shows.keyed.apply (.putDocument _), fun other => ?_, fun other document => ?_⟩
  · refine (shows.indexes other).trans ?_
    rw [Catalog.put, Catalog.contains_insert]
    by_cases same : other = indexId <;> simp [same, here]
  · have before := shows.documents other document
    rw [Catalog.source?_put, Tables.putDocument, SortedMap.get?_insert_eq, before]
    by_cases same : other = indexId ∧ document = id
    · obtain ⟨rfl, rfl⟩ := same
      simp [Document.key, Document.ofSource]
    · have apart : ¬ (⟨other, document⟩ : DocumentKey) =
          (Document.ofSource indexId id source).key := by
        simpa [Document.key, Document.ofSource] using same
      rw [if_neg apart, if_neg same]

theorem deleteIndex (shows : tables.Shows catalog) (id : String) :
    (tables.deleteIndex id).Shows (catalog.erase id) := by
  refine ⟨shows.keyed.apply (.deleteIndex id), fun other => ?_, fun other document => ?_⟩
  · have before := shows.indexes other
    rw [Catalog.contains_erase, ← before, SortedMap.contains, Tables.deleteIndex,
      SortedMap.get?_erase_eq]
    by_cases same : other = id <;> simp [same, SortedMap.contains]
  · have before := shows.documents other document
    rw [shows.keyed.get?_deleteIndex, Catalog.source?_erase, before]
    by_cases same : other = id <;> simp [same]

theorem deleteDocument (shows : tables.Shows catalog) (indexId id : String) :
    (tables.deleteDocument ⟨indexId, id⟩).Shows (catalog.remove indexId id) := by
  refine ⟨shows.keyed.apply (.deleteDocument _), fun other => ?_, fun other document => ?_⟩
  · refine (shows.indexes other).trans ?_
    unfold Catalog.remove
    cases found : catalog.get? indexId with
    | none => rfl
    | some sources =>
        rw [Catalog.contains_insert]
        by_cases same : other = indexId <;> simp [same, SortedMap.contains, found]
  · have before := shows.documents other document
    rw [Catalog.source?_remove, Tables.deleteDocument, SortedMap.get?_erase_eq, before]
    by_cases same : other = indexId ∧ document = id <;> simp [same]

end Shows

variable {tables : Tables} {catalog : Catalog}

namespace Shows

theorem keys (shows : tables.Shows catalog) : tables.indexes.keys = catalog.keys :=
  SortedMap.keys_eq_of_contains shows.indexes

theorem mem_indexDocuments (shows : tables.Shows catalog) (indexId : String)
    (document : Document) :
    document ∈ tables.indexDocuments indexId ↔ document ∈ catalog.documents indexId := by
  rw [Tables.mem_indexDocuments, Catalog.documents, List.mem_map]
  constructor
  · rintro ⟨⟨index, id⟩, stored, rfl⟩
    rw [shows.documents, Option.map_eq_some_iff] at stored
    obtain ⟨source, found, rfl⟩ := stored
    obtain ⟨sources, index, source⟩ := Option.bind_eq_some_iff.mp found
    exact ⟨(id, _), by rw [index]; exact SortedMap.mem_entries_iff.mpr source, rfl⟩
  · rintro ⟨⟨id, source⟩, member, rfl⟩
    have found : catalog.source? indexId id = some source := by
      cases index : catalog.get? indexId with
      | none => rw [index] at member; cases member
      | some sources =>
          rw [index] at member
          simpa [Catalog.source?, index] using SortedMap.mem_entries_iff.mp member
    exact ⟨⟨indexId, id⟩, by rw [shows.documents, found]; rfl, rfl⟩

/-- The documents of an index are listed by id. -/
theorem indexDocuments (shows : tables.Shows catalog) (indexId : String) :
    tables.indexDocuments indexId = catalog.documents indexId := by
  have irreflexive : Std.Irrefl fun (x y : Document) => compare x.id y.id = .lt :=
    ⟨fun x below => by simp at below⟩
  have antisymmetric : Std.Antisymm fun (x y : Document) => compare x.id y.id = .lt :=
    ⟨fun x y below above => by simp [Std.OrientedCmp.gt_of_lt below] at above⟩
  refine List.Pairwise.eq_of_mem_iff (r := fun x y => compare x.id y.id = .lt) ?_ ?_
    fun document => shows.mem_indexDocuments indexId document
  · rw [Tables.indexDocuments_eq]
    refine List.pairwise_map.mpr
      (List.Pairwise.imp_of_mem ?_ (tables.documents.filter _).ascending)
    intro a b first second below
    have home (entry : DocumentKey × Document)
        (member : entry ∈ (tables.documents.filter fun key _ => key.indexId == indexId).entries) :
        entry.1.indexId = indexId ∧ entry.2.id = entry.1.id := by
      obtain ⟨stored, here⟩ := List.mem_filter.mp member
      have keyed := shows.keyed.document _ _ (SortedMap.mem_entries_iff.mp stored)
      exact ⟨by simpa using here, congrArg DocumentKey.id keyed⟩
    have sorted : compare a.1 b.1 = .lt := below
    rw [DocumentKey.compare_eq, (home a first).1, (home b second).1,
      compare_eq_iff_eq.mpr rfl] at sorted
    rw [(home a first).2, (home b second).2]
    exact sorted
  · exact List.pairwise_map.mpr ((catalog.get? indexId).getD ∅).ascending

end Shows

end Tables

end DocStore
