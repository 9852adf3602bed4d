import DocStore.Consistency
import DocStore.Query.Fault
import DocStore.Source

namespace DocStore

inductive IoError where
  | notFound
  | noSpace
  | isDirectory
  | notDirectory
  | notPermitted
  | invalidData
  | unexpectedEnd
  | snapshotMismatch
  | invalidVariable (name value : String)
deriving DecidableEq, Repr

namespace IoError

def kind : IoError → String
  | .notFound => "NotFound"
  | .noSpace => "StorageFull"
  | .isDirectory => "IsADirectory"
  | .notDirectory => "NotADirectory"
  | .notPermitted => "PermissionDenied"
  | .invalidData => "InvalidData"
  | .unexpectedEnd => "UnexpectedEof"
  | .snapshotMismatch | .invalidVariable _ _ => "InvalidInput"

/-- What is said about a fault; damaged data is reported by its kind alone. -/
def message : IoError → String
  | .notFound => "No such file or directory (os error 2)"
  | .noSpace => "No space left on device (os error 28)"
  | .isDirectory => "Is a directory (os error 21)"
  | .notDirectory => "Not a directory (os error 20)"
  | .notPermitted => "Permission denied (os error 13)"
  | .invalidData => "invalid data"
  | .unexpectedEnd => "unexpected end of file"
  | .snapshotMismatch => "snapshot id mismatch"
  | .invalidVariable name value => s!"invalid {name}: " ++ Text.quoted value

end IoError

inductive Named where
  | index
  | document
deriving DecidableEq, Repr

namespace Named

def word : Named → String
  | .index => "index"
  | .document => "document"

end Named

inductive ErrorKind where
  | notFound
  | alreadyExists
  | validation
  | querySyntax
  | invariantViolation
  | internal
deriving DecidableEq, Repr

inductive StoreError where
  | indexNotFound (indexId : String)
  | documentNotFound (indexId id : String)
  | indexExists (indexId : String)
  | documentExists (indexId id : String)
  | blankId (named : Named)
  | invalidSource (fault : SourceFault)
  | snapshotMismatch
  | invalidQuery (fault : Query.Fault)
  | inconsistent (drift : Drift)
  | readOnly
  | noSnapshots
  | noLog
  | io (error : IoError)
deriving DecidableEq, Repr

namespace StoreError

def kind : StoreError → ErrorKind
  | .indexNotFound _ | .documentNotFound _ _ => .notFound
  | .indexExists _ | .documentExists _ _ => .alreadyExists
  | .blankId _ | .invalidSource _ | .snapshotMismatch => .validation
  | .invalidQuery _ => .querySyntax
  | .inconsistent _ => .invariantViolation
  | .readOnly | .noSnapshots | .noLog | .io _ => .internal

/-- What is said about a fault, after the words for its kind. -/
def detail : StoreError → String
  | .indexNotFound indexId => s!"index {indexId} not found"
  | .documentNotFound indexId id => s!"document {id} not found in index {indexId}"
  | .indexExists indexId => s!"index {indexId} already exists"
  | .documentExists indexId id => s!"document {id} already exists in index {indexId}"
  | .blankId named => s!"{named.word} id must not be empty"
  | .invalidSource fault => fault.message
  | .snapshotMismatch => IoError.message .snapshotMismatch
  | .invalidQuery fault => fault.message
  | .inconsistent drift => drift.message
  | .readOnly => "write-ahead log failed earlier; store is read-only"
  | .noSnapshots => "snapshots need a persistent store"
  | .noLog => "no WAL in a memory store"
  | .io error => error.message

/-- The words for a kind of fault in front of its detail. -/
def introduction : ErrorKind → String
  | .notFound => "not found: "
  | .alreadyExists => "already exists: "
  | .validation => "invalid document: "
  | .querySyntax => ""
  | .invariantViolation => "invariant violation: "
  | .internal => "internal error: "

def message (error : StoreError) : String := introduction error.kind ++ error.detail

/-- Whether the caller is to blame and can go on. -/
def isRecoverable (error : StoreError) : Bool :=
  match error.kind with
  | .notFound | .alreadyExists | .validation | .querySyntax => true
  | .invariantViolation | .internal => false

end StoreError

end DocStore
