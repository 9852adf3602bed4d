import DocStore.Recovery
import DocStore.Transaction
/-!
Stores: the committed tables in memory, with a log behind them if they are to
last.

A commit to a store with a log is in the log before it is in the tables.  After
a failed append the store answers reads and refuses commits.
-/

namespace DocStore

/-- The log behind a store, and whether it has failed. -/
structure Backing where
  log : Log.Writer
  readOnly : Bool

structure Store where
  tables : Tables
  backing : Option Backing

namespace Store

/-- A store without a log that holds the given tables. -/
def ofTables (tables : Tables) : Store := ⟨tables, none⟩

def inMemory : Store := ofTables .empty

def openIn (files : Directory) (options : Log.Options) : Plan (Except IoError Store) := do
  match recover files with
  | .error error => return .error error
  | .ok tables =>
      match ← Log.Writer.openIn files options with
      | .error error => return .error error
      | .ok log => return .ok ⟨tables, some ⟨log, false⟩⟩

/-- What an operation that may change a store leads to: its result and the store after it. -/
abbrev Outcome (α : Type) := Except StoreError α × Store

/-- Commits a transaction at the given time and gives the number of the commit. -/
def commit (store : Store) (now : Int64) (transaction : Transaction) : Plan (Outcome UInt64) :=
  if transaction.mutations.isEmpty then return (.ok store.tables.commitSeq, store)
  else
    match store.backing with
    | none => return (.ok transaction.nextSeq, { store with tables := transaction.apply })
    | some backing => do
        if backing.readOnly then return (.error .readOnly, store)
        else
          let record := ⟨transaction.nextSeq, now, transaction.mutations⟩
          match ← backing.log.appendOne record with
          | (.ok (), log) =>
              return (.ok transaction.nextSeq, ⟨transaction.apply, some { backing with log }⟩)
          | (.error error, log) =>
              return (.error (.io error), { store with backing := some ⟨log, true⟩ })

/-- Stages changes over the tables and commits them, unless staging fails. -/
def write (store : Store) (now : Int64)
    (stage : Transaction → Except StoreError (α × Transaction)) : Plan (Outcome α) :=
  match stage (.begin store.tables) with
  | .error error => return (.error error, store)
  | .ok (result, transaction) => do
      let (outcome, store) ← store.commit now transaction
      return (outcome.map fun _ => result, store)

/-- Writes a snapshot of the tables under a new name and makes it the current one. -/
def snapshot (store : Store) (now : Int64) (name : String) : Plan (Outcome (String × UInt64)) :=
  match store.backing with
  | none => return (.error .noSnapshots, store)
  | some backing => do
      match ← Plan.effect (.writeSnapshot name (Snapshot.write store.tables now)) with
      | .error error => return (.error (.io error), store)
      | .ok () =>
          let (outcome, log) ← backing.log.setSnapshot name store.tables.commitSeq
          let store := { store with backing := some { backing with log } }
          match outcome with
          | .error error => return (.error (.io error), store)
          | .ok () => return (.ok (name, store.tables.commitSeq), store)

/-- Removes the segments of the log that the named snapshot covers. -/
def trim (store : Store) (name : String) : Plan (Outcome (List String)) :=
  match store.backing with
  | none => return (.error .noLog, store)
  | some backing => do
      let (outcome, log) ← backing.log.trim name
      let store := { store with backing := some { backing with log } }
      match outcome with
      | .ok names => return (.ok names, store)
      | .error .snapshotMismatch => return (.error .snapshotMismatch, store)
      | .error error => return (.error (.io error), store)

/-- The manifest of the log, or a note that there is none. -/
def manifestJson (store : Store) : Json :=
  match store.backing with
  | none => .object [("mode", .string "memory")]
  | some backing => backing.log.manifest.toJson

end Store

end DocStore
