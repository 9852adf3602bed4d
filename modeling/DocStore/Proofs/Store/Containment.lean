import DocStore.Proofs.Store.Opening
import DocStore.Proofs.Store.Past
import Mathlib.Logic.Relation
/-!
Appends that fail.

When a commit cannot be appended, the store keeps its tables, answers what
changes nothing and refuses all other commits without touching the log.  Opening
the directory again ends this: the tables are those before the failed commit, or
those after it when no byte of its record is missing, and commits are taken
again (`Trial.Reached.contained`).
-/

namespace DocStore

open Log (Record Numbered Ready Written Trims)

variable {files left : Directory} {store next : Store} {history records extra : List Record}
  {count : Nat} {session : Session} {transaction : Transaction} {now : Int64}

/-- A commit that is not appended changes nothing but the log, and turns the store read-only. -/
theorem Store.run_commit_failing {log : Log.Writer} (backing : store.backing = some ⟨log, false⟩)
    (changes : transaction.mutations ≠ []) (now : Int64) (failure : Plan.Failure)
    (files : Directory) :
    ∃ activity, (store.commit now transaction).run (Plan.failing failure) files =
      (Plan.leftBy files failure
          (.appendSegment log.manifest.currentSegment (transaction.record now).encode),
        .error (.io failure.error),
        { store with backing := some ⟨{ log with activity }, true⟩ }) := by
  obtain ⟨activity, run⟩ :=
    Log.run_appendOne_failing log (transaction.record now) failure files
  refine ⟨activity, ?_⟩
  have record : (⟨transaction.nextSeq, now, transaction.mutations⟩ : Record) =
      transaction.record now := rfl
  rw [commit, if_neg (by simpa using changes)]
  simp only [backing, Bool.false_eq_true, if_false, Plan.run_bind, record, run]
  rfl

theorem Log.Record.numbered_landed {record : Record} {first : Nat}
    (number : record.seq.toNat = first) (bytes : Nat) : Numbered first (record.landed bytes) := by
  unfold Record.landed
  split
  · exact .cons number (.nil _)
  · exact .nil _

/-- A store that has failed has the tables after a history, and its directory holds the history and
what was appended of the commit that failed. -/
structure Session.Halts (session : Session) (history extra : List Record) : Prop where
  tables : session.store.tables = .after history
  log : ∃ log count records, session.store.backing = some ⟨log, true⟩ ∧
    count ≤ history.length ∧ Trims count (history ++ extra) records ∧
    Backs session.files log (history ++ extra) count records

namespace Session

theorem Serves.commit (serves : session.Serves history)
    (committable : transaction.Committable now session.store.tables) :
    ∃ left next, (session.store.commit now transaction).run Plan.noFault session.files =
        (left, .ok transaction.committedSeq, next) ∧
      Serves ⟨left, next⟩ (history ++ (transaction.record? now).toList) := by
  have commitSeq := serves.commitSeq
  obtain ⟨count, records, nothingLost, serves⟩ := serves
  obtain ⟨begun, legible, room⟩ := committable
  have room' : history.length + (transaction.record? now).toList.length < 2 ^ 64 := by
    by_cases unchanged : transaction.mutations = []
    · rw [Transaction.record?_of_unchanged unchanged]
      have := session.store.tables.commitSeq.toNat_lt
      simpa [← commitSeq] using this
    · rw [Transaction.record?_of_changes unchanged, ← commitSeq]
      exact room unchanged
  have keeps : (session.store.commit now transaction).Keeps (fun _ => True) (fun left result =>
      result.1 = .ok transaction.committedSeq ∧
        Serves ⟨left, result.2⟩ (history ++ (transaction.record? now).toList)) session.files :=
    keeps_commit_any serves begun legible room' (fun _ _ => trivial) (fun _ _ => trivial)
      fun left next serves _ _ => ⟨rfl, count, _, nothingLost.append _, serves⟩
  obtain ⟨left, ⟨_, next⟩, run, rfl, serves'⟩ := keeps.exists_run
  exact ⟨left, next, run, serves'⟩

/-- A commit fails: the store keeps its tables and has failed from then on. -/
theorem Serves.fails (serves : session.Serves history)
    (committable : transaction.Committable now session.store.tables)
    (changes : transaction.mutations ≠ []) (failure : Plan.Failure) :
    ∃ left next, (session.store.commit now transaction).run (Plan.failing failure) session.files =
        (left, .error (.io failure.error), next) ∧
      Halts ⟨left, next⟩ history ((transaction.record now).landed failure.landed) := by
  have commitSeq := serves.commitSeq
  obtain ⟨count, records, nothingLost, serves⟩ := serves
  obtain ⟨log, backing, ready, backs⟩ := serves.exists_backs
  obtain ⟨begun, legible, room⟩ := committable
  have number : (transaction.record now).seq.toNat = 1 + history.length := by
    rw [Transaction.seq_record (begun ▸ room changes), begun, commitSeq, Nat.add_comm]
  have numbered := backs.numbered.append
    (Record.numbered_landed number failure.landed)
  have legible' : (transaction.record now).Legible :=
    legible _ (Transaction.record?_of_changes changes now)
  have below : ∀ other ∈ (transaction.record now).landed failure.landed, other.seq.toNat ≤
      (history ++ (transaction.record now).landed failure.landed).length := by
    unfold Record.landed
    split
    · simp [number, Nat.add_comm]
    · exact nofun
  obtain ⟨left, append, snapshots, written⟩ :=
    ready.append_take legible' failure.landed (List.sublist_append_left _ _).length_le below
  obtain ⟨activity, run⟩ := Store.run_commit_failing backing changes now failure session.files
  have leftBy : Plan.leftBy session.files failure
      (.appendSegment log.manifest.currentSegment (transaction.record now).encode) = left := by
    simp only [Plan.leftBy, append, Except.toOption, Option.getD_some]
  rw [leftBy] at run
  have covers := (backs.covers.congr ⟨snapshots, rfl, rfl⟩).append
    ((transaction.record now).landed failure.landed)
  have backs' : Backs left { log with activity } _ count _ :=
    ⟨numbered, backs.logged.append (.refl _), ⟨written.written, written.holds⟩, covers⟩
  exact ⟨left, _, run, serves.tables, _, count, _, rfl, serves.within, nothingLost.append _, backs'⟩

theorem Serves.snapshot (serves : session.Serves history) {ulid : String}
    (legible : Snapshot.Legible session.store.tables now) {left : Directory}
    {outcome : Except StoreError (String × UInt64)} {next : Store}
    (run : (session.store.snapshot now (snapshotName ulid)).run Plan.noFault session.files =
      (left, outcome, next)) : Serves ⟨left, next⟩ history := by
  have extended : (Operation.snapshot now ulid).Extends session.store history session.files :=
    serves.extends legible
  have kept := extended.run
  rw [Operation.record?, Option.toList_none, List.append_nil, Operation.run, Plan.run_bind,
    run] at kept
  exact kept

theorem Serves.trim (serves : session.Serves history) {name : String} {left : Directory}
    {outcome : Except StoreError (List String)} {next : Store}
    (run : (session.store.trim name).run Plan.noFault session.files = (left, outcome, next)) :
    Serves ⟨left, next⟩ history := by
  have extended : (Operation.trim name).Extends session.store history session.files :=
    serves.extends trivial
  have kept := extended.run
  rw [Operation.record?, Option.toList_none, List.append_nil, Operation.run, Plan.run_bind,
    run] at kept
  exact kept

namespace Halts

theorem snapshot (halts : session.Halts history extra) {ulid : String}
    (legible : Snapshot.Legible session.store.tables now) {left : Directory}
    {outcome : Except StoreError (String × UInt64)} {next : Store}
    (run : (session.store.snapshot now (snapshotName ulid)).run Plan.noFault session.files =
      (left, outcome, next)) : Halts ⟨left, next⟩ history extra := by
  obtain ⟨tables, log, count, records, backing, within, nothingLost, backs⟩ := halts
  have keeps : (session.store.snapshot now (snapshotName ulid)).Keeps (fun _ => True)
      (fun left result => Halts ⟨left, result.2⟩ history extra) session.files := by
    apply keeps_snapshot_of backs backing within
    case within => exact (List.sublist_append_left _ _).length_le
    case tables => rw [tables, List.take_left]
    case file => exact isFolder_snapshotName ulid
    case legible => exact legible
    case before => exact fun _ _ _ _ _ => trivial
    case result =>
      exact fun left next _ backs' =>
        ⟨tables, next, _, records, rfl, Nat.le_refl _, nothingLost.mono within, backs'⟩
  have result := keeps.run
  rwa [run] at result

theorem trim (halts : session.Halts history extra) {name : String} {left : Directory}
    {outcome : Except StoreError (List String)} {next : Store}
    (run : (session.store.trim name).run Plan.noFault session.files = (left, outcome, next)) :
    Halts ⟨left, next⟩ history extra := by
  obtain ⟨tables, log, count, records, backing, within, nothingLost, backs⟩ := halts
  by_cases current : log.manifest.currentSnapshot = some name
  · have keeps : (session.store.trim name).Keeps (fun _ => True)
        (fun left result => Halts ⟨left, result.2⟩ history extra) session.files :=
      keeps_trim_of backs backing current (fun _ _ _ _ => trivial)
        fun left names next less trims _ backs' _ =>
          ⟨tables, next, count, less, rfl, within, nothingLost.trans trims, backs'⟩
    have result := keeps.run
    rwa [run] at result
  · rw [Store.trim_other backing current] at run
    cases run
    exact ⟨tables, log, count, records, backing, within, nothingLost, backs⟩

theorem recover (halts : session.Halts history extra) :
    DocStore.recover session.files = .ok (.after (history ++ extra)) := by
  obtain ⟨-, log, count, records, -, -, nothingLost, backs⟩ := halts
  exact backs.rests.recover nothingLost

theorem openIn (halts : session.Halts history extra) (options : Log.Options) :
    ∃ next, Session.openIn session.files options = .ok next ∧ next.Serves (history ++ extra) := by
  obtain ⟨-, log, count, records, -, -, nothingLost, backs⟩ := halts
  exact openIn_serves options backs.rests nothingLost

theorem commit (halts : session.Halts history extra) (changes : transaction.mutations ≠ []) :
    session.store.commit now transaction = pure (.error .readOnly, session.store) := by
  obtain ⟨-, log, -, -, backing, -⟩ := halts
  exact Store.commit_readOnly backing changes now

end Halts

end Session

/-- An open store, the commits that clients were told of, and the record of the commit that failed,
if one has, with the number of its bytes that were appended. -/
structure Trial where
  files : Directory
  store : Store
  acknowledged : List Record
  failed : Option (Record × Nat)

namespace Trial

variable {trial after later : Trial}

/-- What the log has of the commit that failed: all of it, if no byte is missing, or nothing. -/
def landed (trial : Trial) : List Record :=
  match trial.failed with
  | some (record, bytes) => record.landed bytes
  | none => []

/-- What may happen to an open store.  A commit is acknowledged when it ends well; it fails when the
device cannot append all of its record. -/
inductive Works : Trial → Trial → Prop where
  | commits {files left : Directory} {store next : Store} {acknowledged : List Record}
      {failed : Option (Record × Nat)} {now : Int64} {transaction : Transaction} {seq : UInt64}
      (committable : transaction.Committable now store.tables)
      (run : (store.commit now transaction).run Plan.noFault files = (left, .ok seq, next)) :
      Works ⟨files, store, acknowledged, failed⟩
        ⟨left, next, acknowledged ++ (transaction.record? now).toList, failed⟩
  | fails {files left : Directory} {store next : Store} {acknowledged : List Record}
      {now : Int64} {transaction : Transaction} {failure : Plan.Failure} {error : StoreError}
      (committable : transaction.Committable now store.tables)
      (run : (store.commit now transaction).run (Plan.failing failure) files =
        (left, .error error, next)) :
      Works ⟨files, store, acknowledged, none⟩
        ⟨left, next, acknowledged, some (transaction.record now, failure.landed)⟩
  | refuses {files left : Directory} {store next : Store} {acknowledged : List Record}
      {failed : Record × Nat} {now : Int64} {transaction : Transaction}
      {fault : Effect → Option Plan.Failure} {error : StoreError}
      (run : (store.commit now transaction).run fault files = (left, .error error, next)) :
      Works ⟨files, store, acknowledged, some failed⟩ ⟨left, next, acknowledged, some failed⟩
  | snapshots {files left : Directory} {store next : Store} {acknowledged : List Record}
      {failed : Option (Record × Nat)} {now : Int64} {ulid : String}
      {outcome : Except StoreError (String × UInt64)} (legible : Snapshot.Legible store.tables now)
      (run : (store.snapshot now (snapshotName ulid)).run Plan.noFault files =
        (left, outcome, next)) :
      Works ⟨files, store, acknowledged, failed⟩ ⟨left, next, acknowledged, failed⟩
  | trims {files left : Directory} {store next : Store} {acknowledged : List Record}
      {failed : Option (Record × Nat)} {name : String} {outcome : Except StoreError (List String)}
      (run : (store.trim name).run Plan.noFault files = (left, outcome, next)) :
      Works ⟨files, store, acknowledged, failed⟩ ⟨left, next, acknowledged, failed⟩

/-- Trials that runs lead to, after any earlier life of the directory.  When it is opened again,
clients are told of a commit that failed and landed. -/
inductive Reached : Trial → Prop where
  | start {files : Directory} {store : Store} {tables : Tables} {history : List Record}
      (past : World.Past ⟨files, some store, tables, none⟩ history) :
      Reached ⟨files, store, history, none⟩
  | works {trial after : Trial} (reached : Reached trial) (works : Works trial after) :
      Reached after
  | reopens {trial : Trial} {next : Session} (reached : Reached trial) (options : Log.Options)
      (opened : Session.openIn trial.files options = .ok next) :
      Reached ⟨next.files, next.store, trial.acknowledged ++ trial.landed, none⟩

inductive Sound : Trial → Prop where
  | intact {files : Directory} {store : Store} {acknowledged : List Record}
      (serves : Session.Serves ⟨files, store⟩ acknowledged) :
      Sound ⟨files, store, acknowledged, none⟩
  | halted {files : Directory} {store : Store} {acknowledged : List Record} {record : Record}
      {bytes : Nat} (halts : Session.Halts ⟨files, store⟩ acknowledged (record.landed bytes)) :
      Sound ⟨files, store, acknowledged, some (record, bytes)⟩

namespace Sound

theorem tables (sound : trial.Sound) : trial.store.tables = .after trial.acknowledged := by
  cases sound with
  | intact serves => exact serves.tables
  | halted halts => exact halts.tables

theorem recover (sound : trial.Sound) :
    DocStore.recover trial.files = .ok (.after (trial.acknowledged ++ trial.landed)) := by
  cases sound with
  | intact serves =>
      have recovered := serves.recover
      rw [serves.tables] at recovered
      simpa [landed] using recovered
  | halted halts => exact halts.recover

theorem openIn (sound : trial.Sound) (options : Log.Options) :
    ∃ next, Session.openIn trial.files options = .ok next ∧
      next.Serves (trial.acknowledged ++ trial.landed) := by
  cases sound with
  | intact serves => simpa [landed] using serves.openIn options
  | halted halts => exact halts.openIn options

theorem works (sound : trial.Sound) (works : Works trial after) : after.Sound := by
  cases works with
  | @commits _ _ _ _ _ _ _ transaction _ committable run =>
      cases sound with
      | intact serves =>
          obtain ⟨left, next, run', serves'⟩ := serves.commit committable
          cases run.symm.trans run'
          exact .intact serves'
      | halted halts =>
          by_cases changes : transaction.mutations = []
          · rw [Store.commit_unchanged _ changes] at run
            cases run
            rw [Transaction.record?_of_unchanged changes, Option.toList_none, List.append_nil]
            exact .halted halts
          · rw [halts.commit changes] at run
            cases run
  | @fails _ _ _ _ _ _ transaction failure _ committable run =>
      cases sound with
      | intact serves =>
          by_cases changes : transaction.mutations = []
          · rw [Store.commit_unchanged _ changes] at run
            cases run
          · obtain ⟨left, next, run', halts⟩ := serves.fails committable changes failure
            cases run.symm.trans run'
            exact .halted halts
  | @refuses _ _ _ _ _ _ _ transaction _ _ run =>
      cases sound with
      | halted halts =>
          by_cases changes : transaction.mutations = []
          · rw [Store.commit_unchanged _ changes] at run
            cases run
          · rw [halts.commit changes] at run
            cases run
            exact .halted halts
  | snapshots legible run =>
      cases sound with
      | intact serves => exact .intact (serves.snapshot legible run)
      | halted halts => exact .halted (halts.snapshot legible run)
  | trims run =>
      cases sound with
      | intact serves => exact .intact (serves.trim run)
      | halted halts => exact .halted (halts.trim run)

end Sound

theorem Reached.sound (reached : trial.Reached) : trial.Sound := by
  induction reached with
  | start past =>
      cases past.remembers with
      | opened serves => exact .intact serves
  | works _ works ih => exact ih.works works
  | reopens _ options opened ih =>
      obtain ⟨next, opened', serves⟩ := ih.openIn options
      cases opened.symm.trans opened'
      exact .intact serves

end Trial

end DocStore
