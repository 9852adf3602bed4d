import DocStore.Consistency
import DocStore.Proofs.FieldCounts
import DocStore.Proofs.Tables

namespace DocStore

namespace Tables

variable {tables : Tables} {document : Document} {key : DocumentKey} {index : Index}
  {id path : String}

/-- How many documents of an index have a path. -/
def countWith (tables : Tables) (id path : String) : Nat :=
  (tables.indexDocuments id).countP (·.fields.contains path)

/-- The projection of a document; one that is missing has no paths. -/
def fieldsAt (tables : Tables) (key : DocumentKey) : Projection :=
  ((tables.documents.get? key).map Document.fields).getD ∅

/-- Whether a document counts for a path of an index. -/
private def counts (id path : String) (key : DocumentKey) (document : Document) : Bool :=
  document.fields.contains path && key.indexId == id

private theorem countWith_eq_count (tables : Tables) (id path : String) :
    tables.countWith id path = tables.documents.count (counts id path) := by
  rw [countWith, indexDocuments_eq, SortedMap.values, List.countP_map]
  exact SortedMap.count_filter tables.documents (fun key _ => key.indexId == id)
    fun _ document => document.fields.contains path

theorem countWith_le_size (tables : Tables) (id path : String) :
    tables.countWith id path ≤ tables.documents.size := by
  rw [countWith_eq_count]
  exact SortedMap.count_le_size _ _

private theorem any_counts (tables : Tables) (here : key.indexId = id) (path : String) :
    (tables.documents.get? key).any (counts id path key) =
      (tables.fieldsAt key).contains path := by
  unfold fieldsAt
  cases tables.documents.get? key with
  | none => rfl
  | some document => simp [counts, here]

private theorem any_counts_of_ne (different : key.indexId ≠ id) (found : Option Document) :
    found.any (counts id path key) = false := by
  cases found <;> simp [counts, different]

theorem countWith_putDocument (tables : Tables) (document : Document) (path : String) :
    (tables.putDocument document).countWith document.indexId path +
        ((tables.fieldsAt document.key).contains path).toNat =
      tables.countWith document.indexId path + (document.fields.contains path).toNat := by
  have apart := SortedMap.count_erase_add tables.documents document.key
    (counts document.indexId path)
  have new : counts document.indexId path document.key document =
      document.fields.contains path := by
    simp [counts, Document.key]
  rw [any_counts tables (show document.key.indexId = document.indexId from rfl)] at apart
  rw [countWith_eq_count, countWith_eq_count, ← apart, putDocument, SortedMap.count_insert, new]
  exact Nat.add_right_comm _ _ _

theorem countWith_putDocument_of_ne (different : document.indexId ≠ id) :
    (tables.putDocument document).countWith id path = tables.countWith id path := by
  have apart := SortedMap.count_erase_add tables.documents document.key (counts id path)
  have new : counts id path document.key document = false := by
    simp [counts, Document.key, different]
  rw [any_counts_of_ne different] at apart
  rw [countWith_eq_count, countWith_eq_count, ← apart, putDocument, SortedMap.count_insert, new]

theorem countWith_deleteDocument (tables : Tables) (key : DocumentKey) (path : String) :
    (tables.deleteDocument key).countWith key.indexId path +
        ((tables.fieldsAt key).contains path).toNat =
      tables.countWith key.indexId path := by
  have apart := SortedMap.count_erase_add tables.documents key (counts key.indexId path)
  rw [any_counts tables rfl] at apart
  rw [countWith_eq_count, countWith_eq_count, ← apart, deleteDocument]

theorem countWith_deleteDocument_of_ne (different : key.indexId ≠ id) :
    (tables.deleteDocument key).countWith id path = tables.countWith id path := by
  have apart := SortedMap.count_erase_add tables.documents key (counts id path)
  rw [any_counts_of_ne different] at apart
  rw [countWith_eq_count, countWith_eq_count, ← apart, deleteDocument]
  rfl

theorem Keyed.countWith_deleteIndex_of_ne (keyed : tables.Keyed) {other : String}
    (different : id ≠ other) :
    (tables.deleteIndex other).countWith id path = tables.countWith id path := by
  rw [countWith_eq_count, countWith_eq_count, keyed.documents_deleteIndex, SortedMap.count_filter]
  refine SortedMap.count_congr fun entry _ => ?_
  by_cases here : entry.1.indexId = id
  · simp [here, different]
  · simp [counts, here]

/-- Indexes and documents stand under their own keys, every document in an index and with the
projection of its source, and every index counts its documents. -/
structure Accounted (tables : Tables) : Prop where
  keyed : tables.Keyed
  home : ∀ key document, tables.documents.get? key = some document →
    ∃ index, tables.indexes.get? key.indexId = some index
  projected : ∀ key document, tables.documents.get? key = some document →
    document.fields = Projection.flatten document.source
  counted : ∀ id index, tables.indexes.get? id = some index → ∀ path,
    index.fields.get? path = FieldCounts.entry (tables.countWith id path)

namespace Accounted

theorem empty : Accounted .empty := ⟨.empty, nofun, nofun, nofun⟩

theorem countWith_eq_zero (accounted : tables.Accounted) (missing : tables.indexes.get? id = none)
    (path : String) : tables.countWith id path = 0 := by
  rw [countWith, List.countP_eq_zero]
  intro document member
  obtain ⟨key, stored, rfl⟩ := mem_indexDocuments.mp member
  obtain ⟨index, found⟩ := accounted.home key document stored
  rw [missing] at found
  cases found

/-- What a document has there moves the count of an index, which may be missing. -/
theorem getD_counted (accounted : tables.Accounted) (id path : String) :
    ((tables.indexes.get? id).getD (.new id)).fields.get? path =
      FieldCounts.entry (tables.countWith id path) := by
  cases found : tables.indexes.get? id with
  | none => rw [accounted.countWith_eq_zero found]; rfl
  | some index => exact accounted.counted id index found path

theorem putIndex_new (accounted : tables.Accounted) (missing : tables.indexes.get? id = none) :
    (tables.putIndex (.new id)).Accounted := by
  refine ⟨accounted.keyed.apply (.putIndex (.new id)), ?_, accounted.projected, ?_⟩
  · intro key document stored
    obtain ⟨index, found⟩ := accounted.home key document stored
    by_cases same : key.indexId = id
    · rw [same, missing] at found
      cases found
    · exact ⟨index, (SortedMap.get?_insert_of_ne same _ _).trans found⟩
  · intro other index found path
    by_cases same : other = id
    · subst same
      have new : some (Index.new other) = some index :=
        (SortedMap.get?_insert_self _ _ _).symm.trans found
      cases new
      exact congrArg FieldCounts.entry (accounted.countWith_eq_zero missing path).symm
    · have before := (SortedMap.get?_insert_of_ne same _ _).symm.trans found
      exact accounted.counted other index before path

theorem deleteIndex (accounted : tables.Accounted) (id : String) :
    (tables.deleteIndex id).Accounted := by
  have kept {key : DocumentKey} {document : Document}
      (stored : (tables.deleteIndex id).documents.get? key = some document) :
      tables.documents.get? key = some document ∧ key.indexId ≠ id := by
    simpa only [accounted.keyed.documents_deleteIndex, SortedMap.get?_filter,
      Option.filter_eq_some_iff, bne_iff_ne] using stored
  refine ⟨accounted.keyed.apply (.deleteIndex id), ?_, ?_, ?_⟩
  · intro key document stored
    obtain ⟨stored, different⟩ := kept stored
    obtain ⟨index, found⟩ := accounted.home key document stored
    exact ⟨index, (SortedMap.get?_erase_of_ne different _).trans found⟩
  · exact fun key document stored => accounted.projected key document (kept stored).1
  · intro other index found path
    simp only [Tables.deleteIndex, SortedMap.get?_erase_eq] at found
    split at found
    · cases found
    · rename_i different
      rw [accounted.keyed.countWith_deleteIndex_of_ne different]
      exact accounted.counted other index found path

/-- A document is put together with its index, whose counts are those after the change. -/
theorem putDocument (accounted : tables.Accounted) (here : index.id = document.indexId)
    (projected : document.fields = Projection.flatten document.source)
    (counted : ∀ path, index.fields.get? path =
      FieldCounts.entry ((tables.putDocument document).countWith document.indexId path)) :
    ((tables.putIndex index).putDocument document).Accounted := by
  refine ⟨(accounted.keyed.apply (.putIndex index)).apply (.putDocument document), ?_, ?_, ?_⟩
  · intro key other stored
    simp only [Tables.putDocument, Tables.putIndex, SortedMap.get?_insert_eq] at stored ⊢
    split at stored
    case isTrue same =>
      subst same
      exact ⟨index, if_pos here.symm⟩
    case isFalse =>
      obtain ⟨found, indexed⟩ := accounted.home key other stored
      by_cases same : key.indexId = index.id
      · exact ⟨index, if_pos same⟩
      · exact ⟨found, (if_neg same).trans indexed⟩
  · exact SortedMap.forall_get?_insert accounted.projected projected
  · intro id other found path
    simp only [Tables.putDocument, Tables.putIndex, SortedMap.get?_insert_eq] at found
    split at found
    case isTrue same =>
      cases found
      rw [same, here]
      exact counted path
    case isFalse different =>
      rw [here] at different
      exact (accounted.counted id other found path).trans
        (congrArg FieldCounts.entry (countWith_putDocument_of_ne (Ne.symm different)).symm)

/-- A document is deleted after its index, whose counts are those after the change. -/
theorem deleteDocument (accounted : tables.Accounted) (here : index.id = key.indexId)
    (counted : ∀ path, index.fields.get? path =
      FieldCounts.entry ((tables.deleteDocument key).countWith key.indexId path)) :
    ((tables.putIndex index).deleteDocument key).Accounted := by
  have kept {other : DocumentKey} {document : Document}
      (stored : ((tables.putIndex index).deleteDocument key).documents.get? other = some document) :
      tables.documents.get? other = some document :=
    SortedMap.get?_of_get?_erase stored
  refine ⟨(accounted.keyed.apply (.putIndex index)).apply (.deleteDocument key), ?_, ?_, ?_⟩
  · intro other document stored
    obtain ⟨found, indexed⟩ := accounted.home other document (kept stored)
    simp only [Tables.deleteDocument, Tables.putIndex, SortedMap.get?_insert_eq]
    by_cases same : other.indexId = index.id
    · exact ⟨index, if_pos same⟩
    · exact ⟨found, (if_neg same).trans indexed⟩
  · exact fun other document stored => accounted.projected other document (kept stored)
  · intro id other found path
    simp only [Tables.deleteDocument, Tables.putIndex, SortedMap.get?_insert_eq] at found
    split at found
    case isTrue same =>
      cases found
      rw [same, here]
      exact counted path
    case isFalse different =>
      rw [here] at different
      exact (accounted.counted id other found path).trans
        (congrArg FieldCounts.entry (countWith_deleteDocument_of_ne (Ne.symm different)).symm)

end Accounted

end Tables

theorem Number.equal_self (number : Number) : number.equal number = true := by
  cases number <;> simp [Number.equal, Binary64.sameValue]

theorem Primitive.equal_self (value : Primitive) : value.equal value = true := by
  cases value <;> simp [Primitive.equal, Number.equal_self]

private theorem all_zip_self {α : Type} {p : α × α → Bool}
    (same : ∀ value, p (value, value) = true)
    (values : List α) : (values.zip values).all p = true := by
  induction values with
  | nil => rfl
  | cons value rest ih => rw [List.zip_cons_cons, List.all_cons, same, ih, Bool.and_self]

theorem Projection.equal_self (projection : Projection) : projection.equal projection = true := by
  rw [Projection.equal, beq_self_eq_true, Bool.true_and]
  refine all_zip_self (fun entry => ?_) projection.entries
  simp only [beq_self_eq_true, Bool.true_and]
  exact all_zip_self Primitive.equal_self entry.2

namespace Index

variable {index : Index} {documents : List Document}

theorem checkDocument_eq_ok_iff {document : Document} :
    index.checkDocument document = .ok () ↔ document.indexId = index.id ∧
      document.fields.equal (.flatten document.source) = true := by
  unfold checkDocument
  split
  case isTrue foreign => simp [foreign]
  case isFalse own =>
    split
    case isTrue stale => simp_all
    case isFalse fresh => simp_all

theorem forM_checkDocument_eq_ok_iff :
    documents.forM index.checkDocument = .ok () ↔
      ∀ document ∈ documents, document.indexId = index.id ∧
        document.fields.equal (.flatten document.source) = true := by
  simp only [← checkDocument_eq_ok_iff]
  induction documents with
  | nil => exact ⟨fun _ => nofun, fun _ => rfl⟩
  | cons first rest ih =>
      cases checked : index.checkDocument first with
      | error drift => simp [List.forM, checked, bind, Except.bind]
      | ok _ => simpa [List.forM, checked, bind, Except.bind] using ih

theorem check_eq_ok_iff :
    index.check documents = .ok () ↔
      (∀ document ∈ documents, document.indexId = index.id ∧
        document.fields.equal (.flatten document.source) = true) ∧
      FieldCounts.ofDocuments documents = index.fields := by
  rw [← forM_checkDocument_eq_ok_iff, check]
  cases checked : documents.forM index.checkDocument with
  | error drift => simp [bind, Except.bind]
  | ok _ => by_cases counted : FieldCounts.ofDocuments documents = index.fields <;>
      simp [counted, bind, Except.bind, pure, Except.pure]

end Index

namespace Tables.Accounted

variable {tables : Tables} {index : Index} {id : String}

/-- The counts of an index are those that its documents add up to. -/
theorem ofDocuments_eq (accounted : tables.Accounted)
    (found : tables.indexes.get? id = some index) :
    FieldCounts.ofDocuments (tables.indexDocuments id) = index.fields := by
  refine SortedMap.ext_get? fun path => ?_
  rw [FieldCounts.get?_ofDocuments, accounted.counted id index found]
  rfl

theorem check (accounted : tables.Accounted) (found : tables.indexes.get? id = some index) :
    index.check (tables.indexDocuments id) = .ok () := by
  have named : index.id = id := accounted.keyed.index id index found
  refine Index.check_eq_ok_iff.mpr ⟨fun document member => ?_, accounted.ofDocuments_eq found⟩
  obtain ⟨key, stored, rfl⟩ := mem_indexDocuments.mp member
  have placed : document.indexId = key.indexId :=
    congrArg DocumentKey.indexId (accounted.keyed.document key document stored)
  refine ⟨placed.trans named.symm, ?_⟩
  rw [accounted.projected key document stored, Projection.equal_self]

end Tables.Accounted

end DocStore
