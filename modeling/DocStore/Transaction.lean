import DocStore.Tables
/-!
Transactions: changes that are staged over the committed tables.

Reading looks at the staged changes first.  An index that was dropped hides its
committed documents even when it is put again.
-/

namespace DocStore

/-- Staged changes.  `none` marks something deleted. -/
structure Transaction where
  tables : Tables
  indexes : SortedMap String (Option Index)
  documents : SortedMap DocumentKey (Option Document)
  dropped : SortedMap String Unit
  mutations : List Mutation

namespace Transaction

def begin (tables : Tables) : Transaction := ⟨tables, ∅, ∅, ∅, []⟩

def getIndex? (transaction : Transaction) (id : String) : Option Index :=
  match transaction.indexes.get? id with
  | some staged => staged
  | none => transaction.tables.indexes.get? id

def getDocument? (transaction : Transaction) (key : DocumentKey) : Option Document :=
  match transaction.documents.get? key with
  | some staged => staged
  | none =>
      if transaction.dropped.contains key.indexId then none
      else transaction.tables.documents.get? key

def putIndex (transaction : Transaction) (index : Index) : Transaction :=
  { transaction with
    indexes := transaction.indexes.insert index.id (some index)
    mutations := transaction.mutations ++ [.putIndex index] }

/-- Deletes an index; staged documents of it are forgotten. -/
def deleteIndex (transaction : Transaction) (id : String) : Transaction :=
  { transaction with
    indexes := transaction.indexes.insert id none
    documents := transaction.documents.filter fun key _ => key.indexId != id
    dropped := transaction.dropped.insert id ()
    mutations := transaction.mutations ++ [.deleteIndex id] }

def putDocument (transaction : Transaction) (document : Document) : Transaction :=
  { transaction with
    documents := transaction.documents.insert document.key (some document)
    mutations := transaction.mutations ++ [.putDocument document] }

def deleteDocument (transaction : Transaction) (key : DocumentKey) : Transaction :=
  { transaction with
    documents := transaction.documents.insert key none
    mutations := transaction.mutations ++ [.deleteDocument key] }

def nextSeq (transaction : Transaction) : UInt64 := transaction.tables.commitSeq + 1

/-- The tables after the commit; without changes they stay as they are. -/
def apply (transaction : Transaction) : Tables :=
  if transaction.mutations.isEmpty then transaction.tables
  else transaction.tables.applyCommit transaction.nextSeq transaction.mutations

end Transaction

end DocStore
