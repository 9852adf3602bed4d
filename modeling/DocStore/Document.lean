import DocStore.FieldCounts

namespace DocStore

/-- An index: a named set of documents with a count for every path they have. -/
structure Index where
  id : String
  fields : FieldCounts
deriving DecidableEq

namespace Index

def new (id : String) : Index := ⟨id, ∅⟩

end Index

structure Document where
  id : String
  indexId : String
  source : Json
  fields : Projection
deriving DecidableEq

structure Summary where
  id : String
  indexId : String
  fields : Projection
deriving DecidableEq

namespace Document

def ofSource (indexId id : String) (source : Json) : Document :=
  ⟨id, indexId, source, Projection.flatten source⟩

def summary (document : Document) : Summary :=
  ⟨document.id, document.indexId, document.fields⟩

end Document

namespace FieldCounts

/-- The counts that the projections of documents add up to. -/
def ofDocuments (documents : List Document) : FieldCounts :=
  ofProjections (documents.map Document.fields)

end FieldCounts

end DocStore
