import DocStore.Proofs.Store.Accounting
/-!
Transactions read their own writes.

The staged indexes, the staged documents and the dropped indexes of a
transaction lie over the committed tables.  At every point they show the tables
that the changes staged so far lead to, applied one by one (`Mirrors`); a commit
leaves these tables under the next number, and a transaction that is given up
leaves the committed ones (`transact_ofTables`).  This takes documents that are
stored under their own keys.
-/

namespace DocStore

namespace Tables

/-- Does an action to the tables at once. -/
def act (tables : Tables) : Action → List Found × Tables
  | .getIndex id => ([.index (tables.indexes.get? id)], tables)
  | .getDocument key => ([.document (tables.documents.get? key)], tables)
  | .putIndex index => ([], tables.putIndex index)
  | .deleteIndex id => ([], tables.deleteIndex id)
  | .putDocument document => ([], tables.putDocument document)
  | .deleteDocument key => ([], tables.deleteDocument key)

def actAll (tables : Tables) : List Action → List Found × Tables
  | [] => ([], tables)
  | action :: rest =>
      let (found, tables) := tables.act action
      let (later, tables) := tables.actAll rest
      (found ++ later, tables)

end Tables

namespace Transaction

variable {tables : Tables}

theorem getIndex?_putIndex (transaction : Transaction) (index : Index) (id : String) :
    (transaction.putIndex index).getIndex? id =
      if id = index.id then some index else transaction.getIndex? id := by
  simp only [getIndex?, putIndex, SortedMap.get?_insert_eq]
  by_cases here : id = index.id
  · simp only [if_pos here]
  · simp only [if_neg here]

theorem getIndex?_deleteIndex (transaction : Transaction) (id other : String) :
    (transaction.deleteIndex id).getIndex? other =
      if other = id then none else transaction.getIndex? other := by
  simp only [getIndex?, deleteIndex, SortedMap.get?_insert_eq]
  by_cases here : other = id
  · simp only [if_pos here]
  · simp only [if_neg here]

/-- Staged documents of a deleted index are gone, and the mark of the index hides the committed
ones. -/
theorem getDocument?_deleteIndex (transaction : Transaction) (id : String) (key : DocumentKey) :
    (transaction.deleteIndex id).getDocument? key =
      if key.indexId = id then none else transaction.getDocument? key := by
  simp only [getDocument?, deleteIndex, SortedMap.get?_filter, SortedMap.contains,
    SortedMap.get?_insert_eq]
  by_cases here : key.indexId = id
  · simp [here]
  · cases transaction.documents.get? key with
    | none =>
        simp only [Option.filter_none, if_neg here]
        rfl
    | some staged => simp [Option.filter, here]

theorem getDocument?_putDocument (transaction : Transaction) (document : Document)
    (key : DocumentKey) :
    (transaction.putDocument document).getDocument? key =
      if key = document.key then some document else transaction.getDocument? key := by
  simp only [getDocument?, putDocument, SortedMap.get?_insert_eq]
  by_cases here : key = document.key
  · simp only [if_pos here]
  · simp only [if_neg here]
    rfl

theorem getDocument?_deleteDocument (transaction : Transaction) (key other : DocumentKey) :
    (transaction.deleteDocument key).getDocument? other =
      if other = key then none else transaction.getDocument? other := by
  simp only [getDocument?, deleteDocument, SortedMap.get?_insert_eq]
  by_cases here : other = key
  · simp only [if_pos here]
  · simp only [if_neg here]
    rfl

/-- A transaction reads what keyed tables hold, and its changes lead to these tables. -/
structure Mirrors (transaction : Transaction) (tables : Tables) : Prop where
  keyed : tables.Keyed
  index : ∀ id, transaction.getIndex? id = tables.indexes.get? id
  document : ∀ key, transaction.getDocument? key = tables.documents.get? key
  changes : transaction.mutations.foldl Tables.apply transaction.tables = tables

namespace Mirrors

variable {transaction : Transaction}

theorem begin (keyed : tables.Keyed) : (Transaction.begin tables).Mirrors tables :=
  ⟨keyed, fun _ => rfl, fun _ => rfl, rfl⟩

private theorem stage (mirrors : transaction.Mirrors tables) (mutation : Mutation) :
    (transaction.mutations ++ [mutation]).foldl Tables.apply transaction.tables =
      tables.apply mutation := by
  rw [List.foldl_append, mirrors.changes]
  rfl

theorem putIndex (mirrors : transaction.Mirrors tables) (index : Index) :
    (transaction.putIndex index).Mirrors (tables.putIndex index) := by
  refine ⟨mirrors.keyed.apply (.putIndex index), fun id => ?_, mirrors.document,
    mirrors.stage (.putIndex index)⟩
  rw [getIndex?_putIndex, mirrors.index, Tables.putIndex, SortedMap.get?_insert_eq]

theorem deleteIndex (mirrors : transaction.Mirrors tables) (id : String) :
    (transaction.deleteIndex id).Mirrors (tables.deleteIndex id) := by
  refine ⟨mirrors.keyed.apply (.deleteIndex id), fun other => ?_, fun key => ?_,
    mirrors.stage (.deleteIndex id)⟩
  · rw [getIndex?_deleteIndex, mirrors.index, Tables.deleteIndex, SortedMap.get?_erase_eq]
  · rw [getDocument?_deleteIndex, mirrors.document, mirrors.keyed.get?_deleteIndex]

theorem putDocument (mirrors : transaction.Mirrors tables) (document : Document) :
    (transaction.putDocument document).Mirrors (tables.putDocument document) := by
  refine ⟨mirrors.keyed.apply (.putDocument document), mirrors.index, fun key => ?_,
    mirrors.stage (.putDocument document)⟩
  rw [getDocument?_putDocument, mirrors.document, Tables.putDocument, SortedMap.get?_insert_eq]

theorem deleteDocument (mirrors : transaction.Mirrors tables) (key : DocumentKey) :
    (transaction.deleteDocument key).Mirrors (tables.deleteDocument key) := by
  refine ⟨mirrors.keyed.apply (.deleteDocument key), mirrors.index, fun other => ?_,
    mirrors.stage (.deleteDocument key)⟩
  rw [getDocument?_deleteDocument, mirrors.document, Tables.deleteDocument,
    SortedMap.get?_erase_eq]

theorem act (mirrors : transaction.Mirrors tables) (action : Action) :
    (transaction.act action).1 = (tables.act action).1 ∧
      (transaction.act action).2.Mirrors (tables.act action).2 := by
  cases action with
  | getIndex id =>
      refine ⟨?_, mirrors⟩
      rw [Transaction.act, Tables.act, mirrors.index]
  | getDocument key =>
      refine ⟨?_, mirrors⟩
      rw [Transaction.act, Tables.act, mirrors.document]
  | putIndex index => exact ⟨rfl, mirrors.putIndex index⟩
  | deleteIndex id => exact ⟨rfl, mirrors.deleteIndex id⟩
  | putDocument document => exact ⟨rfl, mirrors.putDocument document⟩
  | deleteDocument key => exact ⟨rfl, mirrors.deleteDocument key⟩

/-- Whatever was staged before, the next actions find what they find in the tables. -/
theorem actAll (mirrors : transaction.Mirrors tables) (actions : List Action) :
    (transaction.actAll actions).1 = (tables.actAll actions).1 ∧
      (transaction.actAll actions).2.Mirrors (tables.actAll actions).2 := by
  induction actions generalizing transaction tables with
  | nil => exact ⟨rfl, mirrors⟩
  | cons action rest ih =>
      obtain ⟨found, mirrors⟩ := mirrors.act action
      obtain ⟨later, mirrors⟩ := ih mirrors
      refine ⟨?_, mirrors⟩
      rw [Transaction.actAll, Tables.actAll]
      simp only [found, later]

end Mirrors

end Transaction

end DocStore
