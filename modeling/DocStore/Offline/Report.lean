import DocStore.Error
import DocStore.JsonForm
import DocStore.Json.Writer

namespace DocStore

namespace Tables

/-- The indexes that disagree with their documents, and where. -/
def drifts (tables : Tables) : List (String × Drift) :=
  tables.indexes.values.filterMap fun index =>
    match index.check (tables.indexDocuments index.id) with
    | .ok () => none
    | .error drift => some (index.id, drift)

def documentLines (tables : Tables) : String :=
  String.join (tables.documents.values.map fun document => document.toJson.text ++ "\n")

end Tables

namespace Offline

structure Report where
  lastSeq : UInt64
  indexes : Nat
  documents : Nat
  drifted : List String
deriving DecidableEq, Repr

namespace Report

def ofTables (tables : Tables) : Report where
  lastSeq := tables.commitSeq
  indexes := tables.indexes.values.length
  documents := tables.documents.values.length
  drifted := tables.drifts.map Prod.fst

/-- Whether every index agrees with its documents. -/
def isConsistent (report : Report) : Bool := report.drifted.isEmpty

def toJson (report : Report) : Json :=
  .object
    [("last_seq", .number (.natural report.lastSeq)),
      ("indexes", .number (.natural (.ofNat report.indexes))),
      ("documents", .number (.natural (.ofNat report.documents))),
      ("index_consistent", .bool report.isConsistent),
      ("inconsistent_indexes", .array (report.drifted.map .string))]

def text (report : Report) : String := report.toJson.indentedText

end Report

end Offline

end DocStore
