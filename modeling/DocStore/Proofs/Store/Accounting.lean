import DocStore.Proofs.Accounting
import DocStore.Proofs.Store.Request

namespace DocStore

variable {tables : Tables} {transaction staged : Transaction} {id indexId : String}

theorem Transaction.apply_eq_foldl (transaction : Transaction) :
    transaction.apply =
      { transaction.mutations.foldl Tables.apply transaction.tables with
        commitSeq := transaction.apply.commitSeq } := by
  unfold Transaction.apply
  cases transaction.mutations <;> rfl

theorem Transaction.accounted_apply
    (changed : (transaction.mutations.foldl Tables.apply transaction.tables).Accounted) :
    transaction.apply.Accounted := by
  rw [transaction.apply_eq_foldl]
  exact ⟨⟨changed.keyed.index, changed.keyed.document⟩, changed.home, changed.projected,
    changed.counted⟩

namespace Tables.Accounted

theorem createIndex {index : Index} (accounted : tables.Accounted)
    (done : Transaction.createIndex id (.begin tables) = .ok (index, staged)) :
    staged.apply.Accounted := by
  obtain ⟨missing, -, rfl⟩ := Transaction.createIndex_ok done
  exact Transaction.accounted_apply (accounted.putIndex_new missing)

theorem dropIndex (accounted : tables.Accounted)
    (done : Transaction.dropIndex id (.begin tables) = .ok ((), staged)) :
    staged.apply.Accounted := by
  obtain ⟨-, rfl⟩ := Transaction.dropIndex_ok done
  exact Transaction.accounted_apply (accounted.deleteIndex id)

/-- The index of a document that is put, with the counts after the change.  If no count changes it
is not staged, and stands there already. -/
private theorem countPut_index (accounted : tables.Accounted) (document : Document) :
    ∃ index : Index, index.id = document.indexId ∧
      ((Transaction.begin tables).countPut document).mutations.foldl Tables.apply tables =
        tables.putIndex index ∧
      ∀ path, (tables.putDocument document).countWith document.indexId path < 2 ^ 63 →
        index.fields.get? path =
          FieldCounts.entry ((tables.putDocument document).countWith document.indexId path) := by
  have staged : (Transaction.begin tables).countPut document =
      if (tables.indexes.get? document.indexId).isNone ||
          !(FieldDelta.between (tables.fieldsAt document.key) document.fields).isEmpty then
        (Transaction.begin tables).putIndex (Transaction.recount
          ((tables.indexes.get? document.indexId).getD (.new document.indexId))
            (tables.fieldsAt document.key) document.fields)
      else .begin tables := rfl
  have moves := tables.countWith_putDocument document
  rw [staged]
  split
  case isTrue =>
    refine ⟨_, ?_, rfl, fun path fits => FieldCounts.get?_apply_between
      (accounted.getD_counted document.indexId path) fits (moves path)⟩
    cases found : tables.indexes.get? document.indexId with
    | none => rfl
    | some index => exact accounted.keyed.index document.indexId index found
  case isFalse unchanged =>
    cases found : tables.indexes.get? document.indexId with
    | none => simp [found] at unchanged
    | some index =>
        have named := accounted.keyed.index document.indexId index found
        have same : (FieldDelta.between (tables.fieldsAt document.key) document.fields).isEmpty =
            true := by
          simpa [found] using unchanged
        refine ⟨index, named, ?_, fun path _ => ?_⟩
        · rw [Tables.putIndex, SortedMap.insert_of_get? (named ▸ found)]
          rfl
        · have moved := moves path
          rw [FieldDelta.contains_eq_of_isEmpty same path] at moved
          rw [accounted.counted document.indexId index found, Nat.add_right_cancel moved]

theorem upsert {source : Json} {onlyNew : Bool} {result : Bool × Document}
    (accounted : tables.Accounted)
    (done : Transaction.upsert indexId id source onlyNew (.begin tables) = .ok (result, staged))
    (few : staged.apply.documents.size < 2 ^ 63) : staged.apply.Accounted := by
  have begun : staged.tables = tables := Transaction.stages_upsert _ _ _ _ _ _ _ done
  obtain ⟨rfl, -⟩ := Transaction.upsert_ok done
  obtain ⟨index, named, counted, fields⟩ := accounted.countPut_index (.ofSource indexId id source)
  have changed : (((Transaction.begin tables).countPut (.ofSource indexId id source)).putDocument
      (.ofSource indexId id source)).mutations.foldl Tables.apply tables =
        (tables.putIndex index).putDocument (.ofSource indexId id source) := by
    rw [Transaction.putDocument, List.foldl_append, counted]
    rfl
  rw [Transaction.apply_eq_foldl, begun, changed] at few
  refine Transaction.accounted_apply ?_
  rw [begun, changed]
  exact accounted.putDocument named rfl fun path =>
    fields path (Nat.lt_of_le_of_lt (countWith_le_size _ _ _) few)

theorem removeDocument (accounted : tables.Accounted)
    (done : Transaction.removeDocument indexId id (.begin tables) = .ok ((), staged))
    (few : staged.apply.documents.size < 2 ^ 63) : staged.apply.Accounted := by
  obtain ⟨document, stored, rfl⟩ := Transaction.removeDocument_ok done
  have stored : tables.documents.get? ⟨indexId, id⟩ = some document := stored
  obtain ⟨index, found⟩ := accounted.home _ document stored
  have named : index.id = indexId := accounted.keyed.index indexId index found
  have counted : (Transaction.begin tables).countDelete document indexId =
      (Transaction.begin tables).putIndex (Transaction.recount index document.fields ∅) := by
    have found : (Transaction.begin tables).getIndex? indexId = some index := found
    rw [Transaction.countDelete, found]
  rw [counted] at few ⊢
  refine Transaction.accounted_apply (accounted.deleteDocument named fun path => ?_)
  have moves := tables.countWith_deleteDocument ⟨indexId, id⟩ path
  rw [fieldsAt, stored] at moves
  refine FieldCounts.get?_apply_between (accounted.counted indexId index found path) ?_ moves
  exact Nat.lt_of_le_of_lt (countWith_le_size _ _ _) few

end Tables.Accounted

namespace StoreRequest

/-- Operations of the store.  A transaction of single actions is none. -/
def IsOperation : StoreRequest → Prop
  | .transact _ _ _ => False
  | _ => True

private theorem accounted_write {request : StoreRequest} {α : Type} {now : Int64}
    {stage : Transaction → Except StoreError (α × Transaction)} (accounted : tables.Accounted)
    (stages : Transaction.Stages stage) (answer : Except StoreError α → Answer)
    (run : ∀ store, request.run store =
      store.write now stage >>= fun outcome => pure (answer outcome.1, outcome.2))
    (few : (request.inMemory tables).2.documents.size < 2 ^ 63)
    (keeps : ∀ result staged, stage (.begin tables) = .ok (result, staged) →
      staged.apply.documents.size < 2 ^ 63 → staged.apply.Accounted) :
    (request.inMemory tables).2.Accounted := by
  rw [inMemory_of_write stages run, Store.writeInMemory] at few ⊢
  cases done : stage (.begin tables) with
  | error error => exact accounted
  | ok found =>
      rw [done] at few
      exact keeps found.1 found.2 done few

theorem accounted {request : StoreRequest} (accounted : tables.Accounted)
    (operation : request.IsOperation)
    (few : (request.inMemory tables).2.documents.size < 2 ^ 63) :
    (request.inMemory tables).2.Accounted := by
  cases request with
  | createIndex now id =>
      exact accounted_write accounted (Transaction.stages_createIndex id) .index (fun _ => rfl) few
        fun _ _ done _ => accounted.createIndex done
  | deleteIndex now id =>
      exact accounted_write accounted (Transaction.stages_dropIndex id) .done (fun _ => rfl) few
        fun _ _ done _ => accounted.dropIndex done
  | upsertDocument now indexId id source onlyNew =>
      exact accounted_write accounted (Transaction.stages_upsert indexId id source onlyNew)
        .upserted (fun _ => rfl) few fun _ _ done few => accounted.upsert done few
  | createDocument now indexId newId source =>
      exact accounted_write accounted (Transaction.stages_upsert indexId newId source true)
        (fun outcome => .document (outcome.map Prod.snd))
        (run_createDocument now indexId newId source) few
          fun _ _ done few => accounted.upsert done few
  | deleteDocument now indexId id =>
      exact accounted_write accounted (Transaction.stages_removeDocument indexId id)
        .done (fun _ => rfl) few fun _ _ done few => accounted.removeDocument done few
  | getIndex id => exact accounted
  | getDocument indexId id => exact accounted
  | listIndexes contained => exact accounted
  | queryDocuments indexId query page => exact accounted
  | verifyIndex id => exact accounted
  | transact now actions commits => exact operation.elim

end StoreRequest

variable {store : Store}

/-- Whatever fails, a commit leaves the tables before it or those after it. -/
theorem Store.tables_run_commit (store : Store) (now : Int64) (transaction : Transaction)
    (fault : Effect → Option Plan.Failure) (files : Directory) :
    ((store.commit now transaction).run fault files).2.2.tables = store.tables ∨
      ((store.commit now transaction).run fault files).2.2.tables = transaction.apply := by
  unfold Store.commit
  split
  case isTrue => exact .inl rfl
  case isFalse =>
    cases store.backing with
    | none => exact .inr rfl
    | some backing =>
        simp only
        split
        case isTrue => exact .inl rfl
        case isFalse =>
          rw [Plan.run_bind]
          generalize (backing.log.appendOne _).run fault files = appended
          obtain ⟨left, outcome, log⟩ := appended
          cases outcome with
          | ok _ => exact .inr rfl
          | error error => exact .inl rfl

theorem Store.tables_run_write {α : Type} (store : Store) (now : Int64)
    (stage : Transaction → Except StoreError (α × Transaction))
    (fault : Effect → Option Plan.Failure) (files : Directory) :
    ((store.write now stage).run fault files).2.2.tables = store.tables ∨
      ((store.write now stage).run fault files).2.2.tables =
        (Store.writeInMemory store.tables stage).2 := by
  unfold Store.write Store.writeInMemory
  cases stage (.begin store.tables) with
  | error error => exact .inl rfl
  | ok found =>
      simp only [Plan.run_bind]
      exact store.tables_run_commit now found.2 fault files

theorem StoreRequest.tables_run (request : StoreRequest) (store : Store)
    (fault : Effect → Option Plan.Failure) (files : Directory) :
    ((request.run store).run fault files).2.2.tables = store.tables ∨
      ((request.run store).run fault files).2.2.tables = (request.inMemory store.tables).2 := by
  cases request.shape with
  | read answer run _ => exact .inl (by rw [run]; rfl)
  | @write request α now stage stages answer run _ =>
      rw [run, Plan.run_bind, inMemory_of_write stages run]
      exact store.tables_run_write now stage fault files
  | transact now actions =>
      rw [run_transact, Plan.run_bind, inMemory_of_run (run_transact_ofTables now actions _)]
      exact store.tables_run_commit now _ fault files

/-- Stores that operations lead to from one without indexes and documents, with any effects
failing.  At no time are there 2^63 documents. -/
inductive Store.Reached : Store → Prop where
  | new {store : Store} (empty : store.tables = .empty) : Reached store
  | asks {store : Store} (request : StoreRequest) (fault : Effect → Option Plan.Failure)
      (files : Directory) (reached : Reached store) (operation : request.IsOperation)
      (few : ((request.run store).run fault files).2.2.tables.documents.size < 2 ^ 63) :
      Reached ((request.run store).run fault files).2.2

theorem Store.Reached.accounted (reached : store.Reached) : store.tables.Accounted := by
  induction reached with
  | new empty => exact empty ▸ .empty
  | @asks store request fault files _ operation few ih =>
      rcases request.tables_run store fault files with before | after
      · exact before ▸ ih
      · rw [after] at few ⊢
        exact StoreRequest.accounted ih operation few

theorem Store.Reached.few (reached : store.Reached) : store.tables.documents.size < 2 ^ 63 := by
  cases reached with
  | new empty => rw [empty]; decide
  | asks request fault files reached operation few => exact few

/-- Whatever operations lead to: documents stand under their own keys, in an index, with the
projection of their source; every index counts exactly the paths of its documents, and is
verified. -/
theorem reached_accounted (reached : store.Reached) :
    (∀ key document, store.tables.documents.get? key = some document →
      document.key = key ∧ (∃ index, store.tables.indexes.get? key.indexId = some index) ∧
        document.fields = Projection.flatten document.source) ∧
    ∀ id index, store.tables.indexes.get? id = some index →
      (∀ path,
        (index.fields.contains path = true ↔
          ∃ document ∈ store.tables.indexDocuments id, document.fields.contains path = true) ∧
        ∀ count, index.fields.get? path = some count →
          count.toNat = store.tables.countWith id path) ∧
      store.verifyIndex id = .ok () := by
  have accounted := reached.accounted
  refine ⟨fun key document stored => ?_, fun id index found => ⟨fun path => ⟨?_, ?_⟩, ?_⟩⟩
  · exact ⟨accounted.keyed.document key document stored, accounted.home key document stored,
      accounted.projected key document stored⟩
  · rw [SortedMap.contains, accounted.counted id index found, FieldCounts.isSome_entry,
      ← Nat.pos_iff_ne_zero, Tables.countWith, List.countP_pos_iff]
  · intro count counted
    rw [accounted.counted id index found] at counted
    refine FieldCounts.toNat_of_entry counted ?_
    exact Nat.lt_trans (Nat.lt_of_le_of_lt (Tables.countWith_le_size _ _ _) reached.few) (by decide)
  · simp only [Store.verifyIndex, Tables.indexWithDocuments?, found, Option.map_some,
      accounted.check found]

def putBook : StoreRequest :=
  .upsertDocument 1 "books" "dune" (.object [("title", .string "Dune")]) false

def oneBook : Store := ((putBook.run .inMemory).run Plan.noFault .empty).2.2

theorem oneBook_accounted :
    oneBook.Reached ∧ ∃ index, oneBook.tables.indexes.get? "books" = some index ∧
      index.fields.contains "title" = true ∧ oneBook.verifyIndex "books" = .ok () := by
  have new : Store.inMemory.Reached := .new rfl
  have reached : oneBook.Reached :=
    .asks putBook Plan.noFault .empty new trivial (by decide +kernel)
  have found : (oneBook.tables.indexes.get? "books").isSome = true := by decide +kernel
  obtain ⟨index, found⟩ := Option.isSome_iff_exists.mp found
  obtain ⟨counted, verified⟩ := (reached_accounted reached).2 "books" index found
  exact ⟨reached, index, found, (counted "title").1.mpr (by decide +kernel), verified⟩

end DocStore
