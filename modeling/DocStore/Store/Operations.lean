import DocStore.Query.Predicate
import DocStore.Store.Basic

namespace DocStore

/-- Which part of the matches of a query is asked for. -/
structure Page where
  offset : Nat
  limit : Nat
deriving DecidableEq, Repr

namespace Page

def first : Page := ⟨0, 100⟩

end Page

/-- The number of all matches of a query and one page of them. -/
structure QueryResult where
  total : Nat
  documents : List Summary
deriving DecidableEq

namespace QueryResult

/-- Looks at one more document.  One that matches is counted, and it is listed if the matches before
it reach up to the page and the page is not full. -/
def visit (predicate : Query.Predicate) (page : Page) (result : QueryResult)
    (document : Document) : QueryResult :=
  if predicate.eval document.fields then
    ⟨result.total + 1,
      if page.offset ≤ result.total ∧ result.documents.length < page.limit then
        result.documents ++ [document.summary]
      else result.documents⟩
  else result

end QueryResult

def occursIn (needle : List Char) : List Char → Bool
  | [] => needle.isEmpty
  | c :: rest => needle.isPrefixOf (c :: rest) || occursIn needle rest

namespace Tables

def listIndexes (tables : Tables) (contained : Option String) : List Index :=
  tables.indexes.values.filter fun index =>
    match contained with
    | none => true
    | some text => occursIn text.toList index.id.toList

def indexWithDocuments? (tables : Tables) (indexId : String) : Option (Index × List Document) :=
  (tables.indexes.get? indexId).map fun index => (index, tables.indexDocuments indexId)

/-- The documents of an index that a predicate holds of: their number and one page, found in one
pass over the index. -/
def query (tables : Tables) (indexId : String) (predicate : Query.Predicate) (page : Page) :
    QueryResult :=
  (tables.indexDocuments indexId).foldl (QueryResult.visit predicate page) ⟨0, []⟩

end Tables

namespace Transaction

/-- Refuses an identifier of blanks alone. -/
def checkId (named : Named) (id : String) : Except StoreError Unit :=
  if Text.isBlankText id then .error (.blankId named) else .ok ()

def createIndex (id : String) (transaction : Transaction) :
    Except StoreError (Index × Transaction) := do
  checkId .index id
  match transaction.getIndex? id with
  | some _ => .error (.indexExists id)
  | none => .ok (.new id, transaction.putIndex (.new id))

def dropIndex (id : String) (transaction : Transaction) :
    Except StoreError (Unit × Transaction) :=
  match transaction.getIndex? id with
  | none => .error (.indexNotFound id)
  | some _ => .ok ((), transaction.deleteIndex id)

/-- Creates or replaces a document, and its index if that is missing, and tells whether the document
is new.  With `onlyNew` a document that exists is refused. -/
def upsert (indexId id : String) (source : Json) (onlyNew : Bool) (transaction : Transaction) :
    Except StoreError ((Bool × Document) × Transaction) := do
  checkId .index indexId
  checkId .document id
  match source.checkSource with
  | .error fault => .error (.invalidSource fault)
  | .ok () =>
      let document := Document.ofSource indexId id source
      let previous := transaction.getDocument? document.key
      if onlyNew && previous.isSome then .error (.documentExists indexId id)
      else
        let found := transaction.getIndex? indexId
        let index := found.getD (.new indexId)
        let oldFields := (previous.map Document.fields).getD ∅
        let delta := FieldDelta.between oldFields document.fields
        let counted :=
          if found.isNone || !delta.isEmpty then
            transaction.putIndex { index with fields := index.fields.apply delta }
          else transaction
        .ok ((previous.isNone, document), counted.putDocument document)

/-- Deletes a document and takes it out of the counts of its index. -/
def removeDocument (indexId id : String) (transaction : Transaction) :
    Except StoreError (Unit × Transaction) :=
  let key : DocumentKey := ⟨indexId, id⟩
  match transaction.getDocument? key with
  | none => .error (.documentNotFound indexId id)
  | some previous =>
      let counted := match transaction.getIndex? indexId with
        | none => transaction
        | some index =>
            let delta := FieldDelta.between previous.fields ∅
            transaction.putIndex { index with fields := index.fields.apply delta }
      .ok ((), counted.deleteDocument key)

end Transaction

namespace Store

def createIndex (store : Store) (now : Int64) (id : String) : Plan (Outcome Index) :=
  store.write now (Transaction.createIndex id)

def deleteIndex (store : Store) (now : Int64) (id : String) : Plan (Outcome Unit) :=
  store.write now (Transaction.dropIndex id)

def upsertDocument (store : Store) (now : Int64) (indexId id : String) (source : Json)
    (onlyNew : Bool) : Plan (Outcome (Bool × Document)) :=
  store.write now (Transaction.upsert indexId id source onlyNew)

/-- Stores a document under an id that was made for it. -/
def createDocument (store : Store) (now : Int64) (indexId newId : String) (source : Json) :
    Plan (Outcome Document) := do
  let (outcome, store) ← store.upsertDocument now indexId newId source true
  return (outcome.map Prod.snd, store)

def deleteDocument (store : Store) (now : Int64) (indexId id : String) : Plan (Outcome Unit) :=
  store.write now (Transaction.removeDocument indexId id)

def getIndex (store : Store) (id : String) : Except StoreError Index :=
  match store.tables.indexes.get? id with
  | some index => .ok index
  | none => .error (.indexNotFound id)

def getDocument (store : Store) (indexId id : String) : Except StoreError Document :=
  match store.tables.documents.get? ⟨indexId, id⟩ with
  | some document => .ok document
  | none => .error (.documentNotFound indexId id)

/-- Runs a query.  An index that does not exist has no documents. -/
def queryDocuments (store : Store) (indexId query : String) (page : Page) :
    Except StoreError QueryResult :=
  match Query.compile query with
  | .error fault => .error (.invalidQuery fault)
  | .ok predicate => .ok (store.tables.query indexId predicate page)

/-- Checks the counts of an index against its documents. -/
def verifyIndex (store : Store) (id : String) : Except StoreError Unit :=
  match store.tables.indexWithDocuments? id with
  | none => .error (.indexNotFound id)
  | some (index, documents) =>
      match index.check documents with
      | .ok () => .ok ()
      | .error drift => .error (.inconsistent drift)

end Store

end DocStore
