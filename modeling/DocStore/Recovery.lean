import DocStore.Log.Writer
import DocStore.Snapshot

namespace DocStore

/-- Applies a record unless the tables are as new as it is. -/
def Tables.catchUp (tables : Tables) (record : Log.Record) : Tables :=
  if record.seq ≤ tables.commitSeq then tables
  else tables.applyCommit record.seq record.mutations

/-- The tables that the current snapshot holds. -/
def snapshotTables (files : Directory) (manifest : Log.Manifest) : Except IoError Tables :=
  match manifest.currentSnapshot with
  | none => .ok .empty
  | some name => do
      let text ← Directory.readFile files.snapshots name
      Snapshot.read text

def recover (files : Directory) : Except IoError Tables := do
  let manifest ← Log.readManifest files
  let tables ← snapshotTables files (manifest.getD .blank)
  let records ← Log.replay files
  .ok (records.foldl Tables.catchUp tables)

end DocStore
