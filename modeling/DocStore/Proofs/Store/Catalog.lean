import DocStore.Proofs.Pages
import DocStore.Proofs.Catalog
import DocStore.Proofs.Store.Accounting

namespace DocStore

namespace Catalog

def createIndex (catalog : Catalog) (id : String) : Except StoreError Index × Catalog :=
  if Text.isBlankText id then (.error (.blankId .index), catalog)
  else if catalog.contains id then (.error (.indexExists id), catalog)
  else (.ok (.new id), catalog.insert id ∅)

def deleteIndex (catalog : Catalog) (id : String) : Except StoreError Unit × Catalog :=
  if catalog.contains id then (.ok (), catalog.erase id)
  else (.error (.indexNotFound id), catalog)

def upsert (catalog : Catalog) (indexId id : String) (source : Json) (onlyNew : Bool) :
    Except StoreError (Bool × Document) × Catalog :=
  if Text.isBlankText indexId then (.error (.blankId .index), catalog)
  else if Text.isBlankText id then (.error (.blankId .document), catalog)
  else
    match source.checkSource, catalog.source? indexId id with
    | .error fault, _ => (.error (.invalidSource fault), catalog)
    | .ok (), none =>
        (.ok (true, .ofSource indexId id source), catalog.put indexId id source)
    | .ok (), some _ =>
        if onlyNew then (.error (.documentExists indexId id), catalog)
        else (.ok (false, .ofSource indexId id source), catalog.put indexId id source)

def deleteDocument (catalog : Catalog) (indexId id : String) :
    Except StoreError Unit × Catalog :=
  match catalog.source? indexId id with
  | none => (.error (.documentNotFound indexId id), catalog)
  | some _ => (.ok (), catalog.remove indexId id)

/-- An index with the counts of its documents. -/
def index (catalog : Catalog) (id : String) : Index :=
  ⟨id, .ofDocuments (catalog.documents id)⟩

def getIndex (catalog : Catalog) (id : String) : Except StoreError Index :=
  if catalog.contains id then .ok (catalog.index id) else .error (.indexNotFound id)

def getDocument (catalog : Catalog) (indexId id : String) : Except StoreError Document :=
  match catalog.source? indexId id with
  | none => .error (.documentNotFound indexId id)
  | some source => .ok (.ofSource indexId id source)

def listed (contained : Option String) (id : String) : Bool :=
  match contained with
  | none => true
  | some text => occursIn text.toList id.toList

def query (catalog : Catalog) (indexId query : String) (page : Page) :
    Except StoreError QueryResult :=
  match Query.compile query with
  | .error fault => .error (.invalidQuery fault)
  | .ok predicate =>
      let found := (catalog.documents indexId).filter fun document =>
        predicate.eval document.fields
      .ok ⟨found.length, ((found.drop page.offset).take page.limit).map Document.summary⟩

def verify (catalog : Catalog) (id : String) : Except StoreError Unit :=
  if catalog.contains id then .ok () else .error (.indexNotFound id)

/-- What a catalog answers to an operation, and the catalog then.  Transactions of single actions
are no operations. -/
def perform (catalog : Catalog) : StoreRequest → Answer × Catalog
  | .createIndex _ id =>
      let (outcome, catalog) := catalog.createIndex id
      (.index outcome, catalog)
  | .deleteIndex _ id =>
      let (outcome, catalog) := catalog.deleteIndex id
      (.done outcome, catalog)
  | .upsertDocument _ indexId id source onlyNew =>
      let (outcome, catalog) := catalog.upsert indexId id source onlyNew
      (.upserted outcome, catalog)
  | .createDocument _ indexId newId source =>
      let (outcome, catalog) := catalog.upsert indexId newId source true
      (.document (outcome.map Prod.snd), catalog)
  | .deleteDocument _ indexId id =>
      let (outcome, catalog) := catalog.deleteDocument indexId id
      (.done outcome, catalog)
  | .getIndex id => (.index (catalog.getIndex id), catalog)
  | .getDocument indexId id => (.document (catalog.getDocument indexId id), catalog)
  | .listIndexes contained =>
      (.indexes ((catalog.keys.filter (listed contained)).map catalog.index), catalog)
  | .queryDocuments indexId text page => (.page (catalog.query indexId text page), catalog)
  | .verifyIndex id => (.done (catalog.verify id), catalog)
  | .transact _ _ _ => (.transacted [] none, catalog)

def performAll (catalog : Catalog) : List StoreRequest → List Answer × Catalog
  | [] => ([], catalog)
  | request :: rest =>
      let (answer, catalog) := catalog.perform request
      let (later, catalog) := catalog.performAll rest
      (answer :: later, catalog)

end Catalog

namespace Catalog

/-- A write leads to the outcome and shows the catalog that the counterpart leads to. -/
def Leads {α : Type} (written : Except StoreError α × Tables)
    (result : Except StoreError α × Catalog) : Prop :=
  written.1 = result.1 ∧ written.2.Shows result.2

/-- Putting into an index that was opened before is putting at once. -/
theorem put_opened (catalog : Catalog) (indexId id : String) (source : Json) :
    put (catalog.insert indexId ((catalog.get? indexId).getD ∅)) indexId id source =
      catalog.put indexId id source := by
  refine SortedMap.ext_get? fun other => ?_
  rw [put, put, SortedMap.get?_insert_self, SortedMap.get?_insert_eq, SortedMap.get?_insert_eq,
    SortedMap.get?_insert_eq]
  by_cases same : other = indexId <;> simp [same]

end Catalog

namespace Tables.Shows

open Catalog (Leads)

variable {tables : Tables} {catalog : Catalog}

theorem apply (transaction : Transaction)
    (shows : (transaction.mutations.foldl Tables.apply transaction.tables).Shows catalog) :
    transaction.apply.Shows catalog := by
  rw [transaction.apply_eq_foldl]
  exact shows.congr rfl rfl

private theorem createIndex_begin (tables : Tables) (id : String) :
    Transaction.createIndex id (.begin tables) =
      if Text.isBlankText id then .error (.blankId .index)
      else match tables.indexes.get? id with
        | some _ => .error (.indexExists id)
        | none => .ok (.new id, (Transaction.begin tables).putIndex (.new id)) := by
  unfold Transaction.createIndex Transaction.checkId
  split <;> rfl

theorem leads_createIndex (shows : tables.Shows catalog) (id : String) :
    Leads (Store.writeInMemory tables (Transaction.createIndex id)) (catalog.createIndex id) := by
  have there : (tables.indexes.get? id).isSome = catalog.contains id := shows.indexes id
  unfold Store.writeInMemory Catalog.createIndex
  rw [createIndex_begin]
  by_cases blank : Text.isBlankText id = true
  · simp only [if_pos blank]
    exact ⟨rfl, shows⟩
  · simp only [if_neg blank]
    cases found : tables.indexes.get? id with
    | some index =>
        rw [found] at there
        simp only [← there, Option.isSome_some, if_true]
        exact ⟨rfl, shows⟩
    | none =>
        rw [found] at there
        have missing : catalog.get? id = none := by
          simpa [SortedMap.contains] using there.symm
        simp only [← there, Option.isSome_none, Bool.false_eq_true, if_false]
        refine ⟨rfl, apply ((Transaction.begin tables).putIndex (.new id)) ?_⟩
        have put := shows.putIndex (.new id)
        rw [Index.new, missing] at put
        exact put

theorem leads_dropIndex (shows : tables.Shows catalog) (id : String) :
    Leads (Store.writeInMemory tables (Transaction.dropIndex id)) (catalog.deleteIndex id) := by
  have there : (tables.indexes.get? id).isSome = catalog.contains id := shows.indexes id
  unfold Store.writeInMemory Catalog.deleteIndex Transaction.dropIndex
  rw [← there]
  cases found : tables.indexes.get? id with
  | none =>
      have found : (Transaction.begin tables).getIndex? id = none := found
      simp only [found]
      exact ⟨rfl, shows⟩
  | some index =>
      have found : (Transaction.begin tables).getIndex? id = some index := found
      simp only [found]
      exact ⟨rfl, apply ((Transaction.begin tables).deleteIndex id) (shows.deleteIndex id)⟩

/-- Counting a document that is put opens its index. -/
theorem countPut (shows : tables.Shows catalog) (document : Document) :
    (((Transaction.begin tables).countPut document).mutations.foldl Tables.apply tables).Shows
      (catalog.insert document.indexId ((catalog.get? document.indexId).getD ∅)) := by
  have there : (tables.indexes.get? document.indexId).isSome =
      catalog.contains document.indexId := shows.indexes document.indexId
  have staged : (Transaction.begin tables).countPut document =
      if (tables.indexes.get? document.indexId).isNone ||
          !(FieldDelta.between (tables.fieldsAt document.key) document.fields).isEmpty then
        (Transaction.begin tables).putIndex (Transaction.recount
          ((tables.indexes.get? document.indexId).getD (.new document.indexId))
            (tables.fieldsAt document.key) document.fields)
      else .begin tables := rfl
  rw [staged]
  cases found : tables.indexes.get? document.indexId with
  | none => exact shows.putIndex (Transaction.recount (.new document.indexId) _ _)
  | some index =>
      have named : index.id = document.indexId := shows.keyed.index _ index found
      split
      case isTrue =>
        rw [← named]
        exact shows.putIndex (Transaction.recount index _ _)
      case isFalse =>
        rw [found, SortedMap.contains] at there
        obtain ⟨sources, present⟩ := Option.isSome_iff_exists.mp there.symm
        rw [present, Option.getD_some, SortedMap.insert_of_get? present]
        exact shows

/-- A document that is counted and put is in the catalog with its index. -/
theorem countedPut (shows : tables.Shows catalog) (indexId id : String) (source : Json) :
    (((Transaction.begin tables).countPut (.ofSource indexId id source)).putDocument
      (.ofSource indexId id source)).apply.Shows (catalog.put indexId id source) := by
  have counted := shows.countPut (.ofSource indexId id source)
  have opened := counted.putDocument indexId id source
    (by simp [Catalog.contains_insert, Document.ofSource])
  rw [show (Document.ofSource indexId id source).indexId = indexId from rfl,
    Catalog.put_opened] at opened
  refine apply _ ?_
  rw [Transaction.tables_putDocument, Transaction.tables_countPut, Transaction.putDocument,
    List.foldl_append]
  exact opened

private theorem upsert_begin (tables : Tables) (indexId id : String) (source : Json)
    (onlyNew : Bool) :
    Transaction.upsert indexId id source onlyNew (.begin tables) =
      if Text.isBlankText indexId then .error (.blankId .index)
      else if Text.isBlankText id then .error (.blankId .document)
      else match source.checkSource with
        | .error fault => .error (.invalidSource fault)
        | .ok () =>
            let previous := (Transaction.begin tables).getDocument?
              (Document.ofSource indexId id source).key
            if onlyNew && previous.isSome then .error (.documentExists indexId id)
            else .ok ((previous.isNone, .ofSource indexId id source),
              ((Transaction.begin tables).countPut (.ofSource indexId id source)).putDocument
                (.ofSource indexId id source)) := by
  unfold Transaction.upsert Transaction.checkId
  split
  · rfl
  · split
    · rfl
    · cases source.checkSource <;> rfl

theorem leads_upsert (shows : tables.Shows catalog) (indexId id : String) (source : Json)
    (onlyNew : Bool) :
    Leads (Store.writeInMemory tables (Transaction.upsert indexId id source onlyNew))
      (catalog.upsert indexId id source onlyNew) := by
  have stored : (Transaction.begin tables).getDocument?
        (Document.ofSource indexId id source).key =
      (catalog.source? indexId id).map (.ofSource indexId id) := shows.documents indexId id
  have written := shows.countedPut indexId id source
  unfold Store.writeInMemory Catalog.upsert
  rw [upsert_begin]
  by_cases blankIndex : Text.isBlankText indexId = true
  · simp only [if_pos blankIndex]
    exact ⟨rfl, shows⟩
  · by_cases blank : Text.isBlankText id = true
    · simp only [if_neg blankIndex, if_pos blank]
      exact ⟨rfl, shows⟩
    · simp only [if_neg blankIndex, if_neg blank, stored]
      cases source.checkSource with
      | error fault => exact ⟨rfl, shows⟩
      | ok _ =>
          cases catalog.source? indexId id with
          | none =>
              simp only [Option.map_none, Option.isSome_none, Bool.and_false]
              exact ⟨rfl, written⟩
          | some _ =>
              cases onlyNew with
              | true => exact ⟨rfl, shows⟩
              | false => exact ⟨rfl, written⟩

private theorem removeDocument_begin (tables : Tables) (indexId id : String) :
    Transaction.removeDocument indexId id (.begin tables) =
      match (Transaction.begin tables).getDocument? ⟨indexId, id⟩ with
      | none => .error (.documentNotFound indexId id)
      | some previous =>
          .ok ((), ((Transaction.begin tables).countDelete previous indexId).deleteDocument
            ⟨indexId, id⟩) := rfl

theorem leads_removeDocument (shows : tables.Shows catalog) (indexId id : String) :
    Leads (Store.writeInMemory tables (Transaction.removeDocument indexId id))
      (catalog.deleteDocument indexId id) := by
  have stored : (Transaction.begin tables).getDocument? ⟨indexId, id⟩ =
      (catalog.source? indexId id).map (.ofSource indexId id) := shows.documents indexId id
  unfold Store.writeInMemory Catalog.deleteDocument
  rw [removeDocument_begin, stored]
  cases found : catalog.source? indexId id with
  | none => exact ⟨rfl, shows⟩
  | some source =>
      obtain ⟨sources, present, -⟩ := Option.bind_eq_some_iff.mp found
      have there : (tables.indexes.get? indexId).isSome = (catalog.get? indexId).isSome :=
        shows.indexes indexId
      rw [present, Option.isSome_some, Option.isSome_iff_exists] at there
      obtain ⟨index, indexed⟩ := there
      have named : index.id = indexId := shows.keyed.index indexId index indexed
      have counted : (Transaction.begin tables).countDelete (.ofSource indexId id source) indexId =
          (Transaction.begin tables).putIndex
            (Transaction.recount index (Projection.flatten source) ∅) := by
        have indexed : (Transaction.begin tables).getIndex? indexId = some index := indexed
        rw [Transaction.countDelete, indexed]
        rfl
      refine ⟨rfl, ?_⟩
      rw [Option.map_some]
      simp only [counted]
      refine apply (((Transaction.begin tables).putIndex
        (Transaction.recount index (Projection.flatten source) ∅)).deleteDocument ⟨indexId, id⟩) ?_
      have kept := shows.putIndex (Transaction.recount index (Projection.flatten source) ∅)
      rw [show (Transaction.recount index (Projection.flatten source) ∅).id = indexId from named,
        present, Option.getD_some, SortedMap.insert_of_get? present] at kept
      exact kept.deleteDocument indexId id

theorem getDocument (shows : tables.Shows catalog) (indexId id : String) :
    (Store.ofTables tables).getDocument indexId id = catalog.getDocument indexId id := by
  have stored : (Store.ofTables tables).tables.documents.get? ⟨indexId, id⟩ =
      (catalog.source? indexId id).map (.ofSource indexId id) := shows.documents indexId id
  rw [Store.getDocument, Catalog.getDocument, stored]
  cases catalog.source? indexId id <;> rfl

theorem queryDocuments (shows : tables.Shows catalog) (indexId text : String) (page : Page) :
    (Store.ofTables tables).queryDocuments indexId text page =
      catalog.query indexId text page := by
  have documents : (Store.ofTables tables).tables.indexDocuments indexId =
      catalog.documents indexId := shows.indexDocuments indexId
  rw [Store.queryDocuments, Catalog.query]
  cases Query.compile text with
  | error fault => rfl
  | ok predicate => simp only [Tables.query_eq_of_filter, documents]

theorem listIndexes_ids (shows : tables.Shows catalog) (contained : Option String) :
    (tables.listIndexes contained).map Index.id =
      catalog.keys.filter (Catalog.listed contained) := by
  have ids : tables.indexes.values.map Index.id = tables.indexes.keys := by
    rw [SortedMap.values, SortedMap.keys, List.map_map]
    exact List.map_congr_left fun entry member =>
      shows.keyed.index _ _ (SortedMap.mem_entries_iff.mp member)
  rw [← shows.keys, ← ids, List.filter_map, Tables.listIndexes]
  rfl

variable (accounted : tables.Accounted)

include accounted

theorem index_eq (shows : tables.Shows catalog) {id : String} {index : Index}
    (found : tables.indexes.get? id = some index) : index = catalog.index id := by
  have counted := accounted.ofDocuments_eq found
  have named : index.id = id := accounted.keyed.index id index found
  rw [shows.indexDocuments] at counted
  rw [Catalog.index, counted]
  subst named
  rfl

theorem listIndexes (shows : tables.Shows catalog) (contained : Option String) :
    tables.listIndexes contained =
      (catalog.keys.filter (Catalog.listed contained)).map catalog.index := by
  have each : ∀ index ∈ tables.listIndexes contained, catalog.index index.id = index := by
    intro index member
    obtain ⟨id, found⟩ := SortedMap.mem_values_iff.mp (List.mem_filter.mp member).1
    rw [accounted.keyed.index id index found]
    exact (shows.index_eq accounted found).symm
  rw [← shows.listIndexes_ids, List.map_map]
  exact ((List.map_congr_left each).trans (List.map_id _)).symm

end Tables.Shows

end DocStore
