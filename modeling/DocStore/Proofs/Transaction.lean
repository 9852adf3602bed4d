import DocStore.Store.Operations

namespace DocStore.Transaction

variable {transaction staged : Transaction} {index : Index} {id indexId : String}

theorem createIndex_ok (done : createIndex id transaction = .ok (index, staged)) :
    transaction.getIndex? id = none ∧ index = .new id ∧
      staged = transaction.putIndex (.new id) := by
  unfold createIndex at done
  cases checked : checkId .index id with
  | error fault => simp [checked, bind, Except.bind] at done
  | ok _ =>
      cases found : transaction.getIndex? id with
      | some index => simp [checked, found, bind, Except.bind] at done
      | none =>
          simp only [checked, found, bind, Except.bind, Except.ok.injEq, Prod.mk.injEq] at done
          exact ⟨rfl, done.1.symm, done.2.symm⟩

theorem dropIndex_ok (done : dropIndex id transaction = .ok ((), staged)) :
    (∃ index, transaction.getIndex? id = some index) ∧ staged = transaction.deleteIndex id := by
  unfold dropIndex at done
  cases found : transaction.getIndex? id with
  | none => simp [found] at done
  | some index =>
      simp only [found, Except.ok.injEq, Prod.mk.injEq, true_and] at done
      exact ⟨⟨index, rfl⟩, done.symm⟩

/-- The counts of an index after a document of it changed from one projection to another. -/
def recount (index : Index) (old new : Projection) : Index :=
  { index with fields := index.fields.apply (.between old new) }

/-- The transaction after the counts of a document that is put were staged; without a change they
are not. -/
def countPut (transaction : Transaction) (document : Document) : Transaction :=
  let found := transaction.getIndex? document.indexId
  let old := ((transaction.getDocument? document.key).map Document.fields).getD ∅
  if found.isNone || !(FieldDelta.between old document.fields).isEmpty then
    transaction.putIndex (recount (found.getD (.new document.indexId)) old document.fields)
  else transaction

theorem upsert_ok {source : Json} {onlyNew : Bool} {result : Bool × Document}
    (done : upsert indexId id source onlyNew transaction = .ok (result, staged)) :
    staged = (transaction.countPut (.ofSource indexId id source)).putDocument
        (.ofSource indexId id source) ∧
      result.2 = .ofSource indexId id source := by
  unfold upsert at done
  cases indexChecked : checkId .index indexId with
  | error fault => simp [indexChecked, bind, Except.bind] at done
  | ok _ =>
      cases idChecked : checkId .document id with
      | error fault => simp [indexChecked, idChecked, bind, Except.bind] at done
      | ok _ =>
          cases checked : source.checkSource with
          | error fault => simp [indexChecked, idChecked, checked, bind, Except.bind] at done
          | ok _ =>
              simp only [indexChecked, idChecked, checked, bind, Except.bind] at done
              split at done
              · cases done
              · simp only [Except.ok.injEq, Prod.mk.injEq] at done
                obtain ⟨rfl, rfl⟩ := done
                exact ⟨rfl, rfl⟩

def countDelete (transaction : Transaction) (document : Document) (indexId : String) :
    Transaction :=
  match transaction.getIndex? indexId with
  | none => transaction
  | some index => transaction.putIndex (recount index document.fields ∅)

theorem removeDocument_ok (done : removeDocument indexId id transaction = .ok ((), staged)) :
    ∃ document, transaction.getDocument? ⟨indexId, id⟩ = some document ∧
      staged = (transaction.countDelete document indexId).deleteDocument ⟨indexId, id⟩ := by
  unfold removeDocument at done
  simp only at done
  split at done
  · cases done
  · rename_i document found
    simp only [Except.ok.injEq, Prod.mk.injEq, true_and] at done
    exact ⟨document, found, done.symm⟩

@[simp] theorem tables_putIndex (transaction : Transaction) (index : Index) :
    (transaction.putIndex index).tables = transaction.tables := rfl

@[simp] theorem tables_deleteIndex (transaction : Transaction) (id : String) :
    (transaction.deleteIndex id).tables = transaction.tables := rfl

@[simp] theorem tables_putDocument (transaction : Transaction) (document : Document) :
    (transaction.putDocument document).tables = transaction.tables := rfl

@[simp] theorem tables_deleteDocument (transaction : Transaction) (key : DocumentKey) :
    (transaction.deleteDocument key).tables = transaction.tables := rfl

@[simp] theorem tables_countPut (transaction : Transaction) (document : Document) :
    (transaction.countPut document).tables = transaction.tables := by
  rw [countPut]
  split <;> rfl

/-- The operation stages its changes over the tables it was given. -/
def Stages {α : Type} (stage : Transaction → Except StoreError (α × Transaction)) : Prop :=
  ∀ transaction result staged, stage transaction = .ok (result, staged) →
    staged.tables = transaction.tables

theorem stages_createIndex (id : String) : Stages (createIndex id) := by
  intro transaction index staged done
  rw [(createIndex_ok done).2.2, tables_putIndex]

theorem stages_dropIndex (id : String) : Stages (dropIndex id) := by
  intro transaction _ staged done
  rw [(dropIndex_ok done).2, tables_deleteIndex]

theorem stages_upsert (indexId id : String) (source : Json) (onlyNew : Bool) :
    Stages (upsert indexId id source onlyNew) := by
  intro transaction result staged done
  rw [(upsert_ok done).1, tables_putDocument, tables_countPut]

theorem stages_removeDocument (indexId id : String) : Stages (removeDocument indexId id) := by
  intro transaction _ staged done
  obtain ⟨document, -, rfl⟩ := removeDocument_ok done
  rw [tables_deleteDocument, countDelete]
  split <;> rfl

end DocStore.Transaction
