import DocStore.Document

namespace DocStore

structure DocumentKey where
  indexId : String
  id : String
deriving DecidableEq, Repr

namespace DocumentKey

instance : Ord DocumentKey where
  compare := compareLex (compareOn indexId) (compareOn id)

instance : Std.TransOrd DocumentKey :=
  inferInstanceAs (Std.TransCmp (compareLex (compareOn indexId) (compareOn id)))

instance : Std.LawfulEqOrd DocumentKey where
  eq_of_compare {a b} same := by
    obtain ⟨index, document⟩ : compare a.indexId b.indexId = .eq ∧ compare a.id b.id = .eq := by
      simpa [compare, compareLex, compareOn, Ordering.then_eq_eq] using same
    cases a
    cases b
    simp_all

end DocumentKey

namespace Document

def key (document : Document) : DocumentKey := ⟨document.indexId, document.id⟩

end Document

/-- One change of the tables.  A commit is a list of them. -/
inductive Mutation where
  | putIndex (index : Index)
  | deleteIndex (id : String)
  | putDocument (document : Document)
  | deleteDocument (key : DocumentKey)
deriving DecidableEq

/-- All indexes and documents, and the number of the latest commit. -/
structure Tables where
  indexes : SortedMap String Index
  documents : SortedMap DocumentKey Document
  commitSeq : UInt64
deriving DecidableEq

namespace Tables

def empty : Tables := ⟨∅, ∅, 0⟩

instance : Inhabited Tables := ⟨empty⟩

/-- The documents of an index with their keys: from the first key that the index could have on, up
to a key of another index. -/
def indexEntries (tables : Tables) (indexId : String) : List (DocumentKey × Document) :=
  (tables.documents.entriesFrom ⟨indexId, ""⟩).takeWhile fun entry => entry.1.indexId == indexId

/-- The documents of an index, by id. -/
def indexDocuments (tables : Tables) (indexId : String) : List Document :=
  (tables.indexEntries indexId).map Prod.snd

def putIndex (tables : Tables) (index : Index) : Tables :=
  { tables with indexes := tables.indexes.insert index.id index }

/-- Removes an index and, under the keys that they name themselves, its documents. -/
def deleteIndex (tables : Tables) (id : String) : Tables :=
  { tables with
    indexes := tables.indexes.erase id
    documents :=
      ((tables.indexDocuments id).map Document.key).foldl SortedMap.erase tables.documents }

def putDocument (tables : Tables) (document : Document) : Tables :=
  { tables with documents := tables.documents.insert document.key document }

def deleteDocument (tables : Tables) (key : DocumentKey) : Tables :=
  { tables with documents := tables.documents.erase key }

def apply (tables : Tables) : Mutation → Tables
  | .putIndex index => tables.putIndex index
  | .deleteIndex id => tables.deleteIndex id
  | .putDocument document => tables.putDocument document
  | .deleteDocument key => tables.deleteDocument key

def applyCommit (tables : Tables) (seq : UInt64) (mutations : List Mutation) : Tables :=
  let changed := mutations.foldl apply tables
  { changed with commitSeq := max changed.commitSeq seq }

end Tables

end DocStore
