import DocStore.Recovery
import DocStore.Proofs.Log.Resume
import DocStore.Proofs.Snapshot
/-!
What is recovered from a directory.

A history is the list of all commits, numbered from one on.  Recovery starts from
the tables after some of them and applies those records of the log that are
newer (`recover_of_stands`).  When the log has all of these, the tables after the
whole history come back (`recover_history`).
-/

namespace DocStore

namespace Log

/-- Records that are numbered one after another. -/
inductive Numbered : Nat → List Record → Prop where
  | nil (first : Nat) : Numbered first []
  | cons {first : Nat} {record : Record} {rest : List Record} (number : record.seq.toNat = first)
      (later : Numbered (first + 1) rest) : Numbered first (record :: rest)

namespace Numbered

variable {first : Nat} {record : Record} {records more : List Record}

theorem lower (numbered : Numbered first records) :
    ∀ record ∈ records, first ≤ record.seq.toNat := by
  induction numbered with
  | nil first => exact nofun
  | cons number later ih =>
      intro other member
      rcases List.mem_cons.mp member with rfl | member
      · omega
      · exact Nat.le_of_succ_le (ih other member)

theorem upper (numbered : Numbered first records) :
    ∀ record ∈ records, record.seq.toNat < first + records.length := by
  induction numbered with
  | nil first => exact nofun
  | cons number later ih =>
      intro other member
      rw [List.length_cons]
      rcases List.mem_cons.mp member with rfl | member
      · omega
      · have := ih other member
        omega

theorem ascending (numbered : Numbered first records) :
    records.Pairwise fun a b => a.seq.toNat < b.seq.toNat := by
  induction numbered with
  | nil first => exact .nil
  | cons number later ih =>
      exact .cons (fun other member => by have := later.lower other member; omega) ih

theorem nodup (numbered : Numbered first records) : records.Nodup := by
  refine numbered.ascending.imp fun {a b} less same => ?_
  rw [same] at less
  exact Nat.lt_irrefl _ less

theorem append (numbered : Numbered first records)
    (then' : Numbered (first + records.length) more) : Numbered first (records ++ more) := by
  induction numbered with
  | nil first => exact then'
  | cons number later ih =>
      refine .cons number (ih ?_)
      rwa [List.length_cons, Nat.add_comm _ 1, ← Nat.add_assoc] at then'

theorem snoc (numbered : Numbered first records)
    (number : record.seq.toNat = first + records.length) :
    Numbered first (records ++ [record]) :=
  numbered.append (.cons number (.nil _))

theorem take (numbered : Numbered first records) (count : Nat) :
    Numbered first (records.take count) := by
  induction numbered generalizing count with
  | nil first => simpa using Numbered.nil first
  | cons number later ih =>
      cases count with
      | zero => exact .nil _
      | succ count => exact .cons number (ih count)

/-- The records above a number are those after as many of them. -/
theorem filter_newer (numbered : Numbered first records) (count : Nat) :
    records.filter (fun record => count + first ≤ record.seq.toNat) = records.drop count := by
  induction numbered generalizing count with
  | nil first => simp
  | @cons first record rest number later ih =>
      cases count with
      | zero =>
          refine List.filter_eq_self.mpr fun other member => ?_
          have := (Numbered.cons number later).lower other member
          simpa using this
      | succ count =>
          have older : ¬ count + 1 + first ≤ record.seq.toNat := by omega
          have same : count + 1 + first = count + (first + 1) := by omega
          rw [List.filter_cons_of_neg (by simpa using older), List.drop_succ_cons, same, ih]

end Numbered

/-- What is left of a numbered history has all its records above the bookmark. -/
theorem Trims.newer_eq {count : Nat} {history records : List Record}
    (trims : Trims count history records)
    (numbered : Numbered 1 history) :
    records.filter (fun record => count < record.seq.toNat) = history.drop count := by
  have newer : history.filter (fun record => count < record.seq.toNat) = history.drop count :=
    numbered.filter_newer count
  have sublist := trims.sublist.filter fun record => decide (count < record.seq.toNat)
  have distinct : (history.filter fun record => decide (count < record.seq.toNat)).Nodup :=
    numbered.nodup.filter _
  have within : (history.filter fun record => decide (count < record.seq.toNat)) ⊆
      records.filter fun record => decide (count < record.seq.toNat) := by
    intro record member
    obtain ⟨member, newer⟩ := List.mem_filter.mp member
    exact List.mem_filter.mpr ⟨trims.newer record member (by simpa using newer), newer⟩
  rw [← newer]
  exact sublist.eq_of_length_le (List.Nodup.length_le_of_subset distinct within)

end Log

open Log (Record Numbered Manifest Stands Trims)

namespace Tables

def replay (tables : Tables) (records : List Record) : Tables :=
  records.foldl (fun tables record => tables.applyCommit record.seq record.mutations) tables

/-- The tables after a history. -/
def after (history : List Record) : Tables := Tables.empty.replay history

variable {tables : Tables} {records : List Record}

theorem replay_append (tables : Tables) (records more : List Record) :
    tables.replay (records ++ more) = (tables.replay records).replay more :=
  List.foldl_append

theorem after_snoc (history : List Record) (record : Record) :
    after (history ++ [record]) = (after history).applyCommit record.seq record.mutations := by
  rw [after, replay_append]
  rfl

theorem Keyed.replay (keyed : tables.Keyed) (records : List Record) :
    (tables.replay records).Keyed := by
  induction records generalizing tables with
  | nil => exact keyed
  | cons record rest ih => exact ih (keyed.applyCommit record.seq record.mutations)

theorem commitSeq_replay (numbered : Numbered (tables.commitSeq.toNat + 1) records) :
    (tables.replay records).commitSeq.toNat = tables.commitSeq.toNat + records.length := by
  induction records generalizing tables with
  | nil => rfl
  | cons record rest ih =>
      cases numbered with
      | cons number later =>
          have next : (tables.applyCommit record.seq record.mutations).commitSeq.toNat =
              tables.commitSeq.toNat + 1 := by
            rw [commitSeq_applyCommit, toNat_max]
            omega
          change ((tables.applyCommit record.seq record.mutations).replay rest).commitSeq.toNat = _
          rw [ih (next ▸ later), next, List.length_cons]
          omega

theorem commitSeq_after {history : List Record} (numbered : Numbered 1 history) :
    (after history).commitSeq.toNat = history.length := by
  have counted : (after history).commitSeq.toNat = Tables.empty.commitSeq.toNat + history.length :=
    commitSeq_replay numbered
  rw [counted]
  exact Nat.zero_add _

/-- Recovery applies the records that are newer than the tables and skips the others. -/
theorem foldl_catchUp (ascending : records.Pairwise fun a b => a.seq.toNat < b.seq.toNat)
    (tables : Tables) :
    records.foldl catchUp tables =
      tables.replay (records.filter fun record =>
        tables.commitSeq.toNat < record.seq.toNat) := by
  induction records generalizing tables with
  | nil => rfl
  | cons record rest ih =>
      obtain ⟨below, tail⟩ := List.pairwise_cons.mp ascending
      rw [List.foldl_cons, ih tail]
      by_cases newer : tables.commitSeq.toNat < record.seq.toNat
      · have applied : tables.catchUp record =
            tables.applyCommit record.seq record.mutations := by
          rw [catchUp, if_neg]
          rw [UInt64.le_iff_toNat_le]
          omega
        have number : (tables.applyCommit record.seq record.mutations).commitSeq.toNat =
            record.seq.toNat := by
          rw [commitSeq_applyCommit, toNat_max]
          omega
        have all : rest.filter (fun other => record.seq.toNat < other.seq.toNat) =
            rest.filter fun other => tables.commitSeq.toNat < other.seq.toNat := by
          refine List.filter_congr fun other member => ?_
          have := below other member
          rw [decide_eq_decide]
          omega
        rw [List.filter_cons_of_pos (by simpa using newer), applied, number, all]
        rfl
      · have skipped : tables.catchUp record = tables := by
          rw [catchUp, if_pos]
          rw [UInt64.le_iff_toNat_le]
          omega
        rw [List.filter_cons_of_neg (by simpa using newer), skipped]

end Tables

variable {files left : Directory} {manifest now : Manifest} {history records : List Record}
  {newest count : Nat}

/-- The current snapshot holds the tables after the first `count` commits of a history, and the
manifest does not claim more of it. -/
structure Covers (files : Directory) (manifest : Manifest) (history : List Record) (count : Nat) :
    Prop where
  within : count ≤ history.length
  tables : snapshotTables files manifest = .ok (.after (history.take count))
  bookmark : (manifest.snapshotBookmark.getD 0).toNat ≤ count

namespace Covers

theorem congr (covers : Covers files manifest history count)
    (same : Log.SameSnapshots files manifest left now) : Covers left now history count := by
  refine ⟨covers.within, ?_, same.bookmark ▸ covers.bookmark⟩
  rw [← covers.tables]
  simp only [snapshotTables, same.current, same.snapshots]

theorem append (covers : Covers files manifest history count) (added : List Record) :
    Covers files manifest (history ++ added) count := by
  refine ⟨?_, ?_, covers.bookmark⟩
  · rw [List.length_append]
    exact Nat.le_add_right_of_le covers.within
  · rw [List.take_append_of_le_length covers.within, covers.tables]

theorem snoc (covers : Covers files manifest history count) (record : Record) :
    Covers files manifest (history ++ [record]) count :=
  covers.append [record]

end Covers

/-- The snapshot that recovery begins with. -/
theorem Covers.read_snapshot (covers : Covers files manifest history count)
    (stands : Stands files manifest newest records) :
    ∃ found, Log.readManifest files = .ok found ∧
      snapshotTables files (found.getD .blank) = .ok (.after (history.take count)) := by
  rcases stands.readManifest with read | ⟨read, first, -⟩
  · exact ⟨some manifest, read, covers.tables⟩
  · refine ⟨none, read, ?_⟩
    rw [← covers.tables, first]
    rfl

theorem recover_eq_ok_iff {found : Option Manifest} {tables : Tables}
    (read : Log.readManifest files = .ok found) :
    recover files = .ok tables ↔ ∃ base, snapshotTables files (found.getD .blank) = .ok base ∧
      (Log.replayed files (found.getD .blank)).foldl Tables.catchUp base = tables := by
  simp only [recover, read, Log.replay_of_read read, bind, Except.bind]
  cases snapshotTables files (found.getD .blank) with
  | error error => simp
  | ok base => simp

/-- Recovery applies the records that the snapshot does not cover. -/
theorem recover_of_stands (stands : Stands files manifest newest records)
    (covers : Covers files manifest history count) (numbered : Numbered 1 history)
    (sublist : records.Sublist history) :
    recover files = .ok ((Tables.after (history.take count)).replay
      (records.filter fun record => count < record.seq.toNat)) := by
  have length : (history.take count).length = count := List.length_take_of_le covers.within
  have commitSeq : (Tables.after (history.take count)).commitSeq.toNat = count := by
    rw [Tables.commitSeq_after (numbered.take count), length]
  have folded := Tables.foldl_catchUp (numbered.ascending.sublist sublist)
    (Tables.after (history.take count))
  rw [commitSeq] at folded
  obtain ⟨found, read, snapshot⟩ := covers.read_snapshot stands
  simp only [recover, read, snapshot, stands.replay, bind, Except.bind, folded]

/-- Recovery gives the tables after the whole history when no newer record is missing. -/
theorem recover_history (stands : Stands files manifest newest records)
    (covers : Covers files manifest history count) (numbered : Numbered 1 history)
    (trims : Trims count history records) : recover files = .ok (.after history) := by
  rw [recover_of_stands stands covers numbered trims.sublist, trims.newer_eq numbered,
    Tables.after, ← Tables.replay_append, List.take_append_drop]
  rfl

theorem keyed_of_snapshotTables {tables : Tables}
    (read : snapshotTables files manifest = .ok tables) : tables.Keyed := by
  unfold snapshotTables at read
  cases current : manifest.currentSnapshot with
  | none =>
      simp only [current, Except.ok.injEq] at read
      exact read ▸ .empty
  | some name =>
      simp only [current] at read
      cases text : Directory.readFile files.snapshots name with
      | error error => simp [text, bind, Except.bind] at read
      | ok text' =>
          simp only [text, bind, Except.bind] at read
          exact Snapshot.keyed_of_read read

theorem Tables.Keyed.catchUp {tables : Tables} (keyed : tables.Keyed) (record : Record) :
    (tables.catchUp record).Keyed := by
  unfold Tables.catchUp
  split
  · exact keyed
  · exact keyed.applyCommit record.seq record.mutations

theorem Tables.Keyed.foldl_catchUp {tables : Tables} (keyed : tables.Keyed)
    (records : List Record) : (records.foldl Tables.catchUp tables).Keyed := by
  induction records generalizing tables with
  | nil => exact keyed
  | cons record rest ih => exact ih (keyed.catchUp record)

/-- Whatever a directory holds, what is recovered from it stands under its own keys. -/
theorem keyed_of_recover {tables : Tables} (recovered : recover files = .ok tables) :
    tables.Keyed := by
  cases read : Log.readManifest files with
  | error error => simp [recover, read, bind, Except.bind] at recovered
  | ok found =>
      obtain ⟨base, snapshot, rfl⟩ := (recover_eq_ok_iff read).mp recovered
      exact (keyed_of_snapshotTables snapshot).foldl_catchUp _

end DocStore
