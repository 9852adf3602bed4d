import DocStore.Document
import DocStore.Text.Quoted
/-!
Whether an index and its documents agree.

They agree when every document belongs to the index and has the projection of
its source, and when the counts of the index are those of its documents.
-/

namespace DocStore

inductive Drift where
  | foreignDocument (indexId documentIndex documentId : String)
  | staleProjection (documentIndex documentId : String)
  | wrongCounts (indexId : String) (paths : List String)
deriving DecidableEq, Repr

namespace Drift

def message : Drift → String
  | .foreignDocument indexId documentIndex documentId =>
      s!"document {documentIndex}/{documentId} listed under index {indexId}"
  | .staleProjection documentIndex documentId =>
      s!"document {documentIndex}/{documentId} fields differ from its source"
  | .wrongCounts indexId paths =>
      s!"index {indexId} accounting drifted on fields " ++ Text.quotedList paths

end Drift

namespace Index

def checkDocument (index : Index) (document : Document) : Except Drift Unit :=
  if document.indexId ≠ index.id then
    .error (.foreignDocument index.id document.indexId document.id)
  else if !document.fields.equal (Projection.flatten document.source) then
    .error (.staleProjection document.indexId document.id)
  else .ok ()

/-- The paths on which two counts differ, first those of `a`, then those of `b`. -/
def differingPaths (a b : FieldCounts) : List String :=
  (a.keys ++ b.keys).filter fun path => a.get? path != b.get? path

/-- Checks an index against its documents; the first disagreement is reported. -/
def check (index : Index) (documents : List Document) : Except Drift Unit := do
  documents.forM index.checkDocument
  let counted := FieldCounts.ofDocuments documents
  if counted ≠ index.fields then
    .error (.wrongCounts index.id (differingPaths counted index.fields))

end Index

end DocStore
