import DocStore.Proofs.Store.Session
/-!
Crashes.

A world is a directory with the store that may be open in it and the tables that
clients were told of.  The device may stop on the way through any operation and
any opening.  Every world that is reached so is opened again with what clients
were told of, or with the one operation on top that was stopped
(`reached_recovers`).
-/

namespace DocStore

open Log (Record Trims)

variable {files left : Directory} {store : Store} {tables : Tables}
  {history records : List Record} {count : Nat}

/-- A commit leads to the tables that its record is replayed to. -/
theorem Transaction.apply_eq_replay (transaction : Transaction) (now : Int64) :
    transaction.apply = transaction.tables.replay (transaction.record? now).toList := by
  unfold Transaction.apply Transaction.record?
  cases transaction.mutations.isEmpty with
  | true => rfl
  | false => rfl

theorem StoreRequest.inMemory_eq_replay (request : StoreRequest) (tables : Tables) :
    (request.inMemory tables).2 = tables.replay (request.record? tables).toList := by
  cases request.shape with
  | read answer run record =>
      rw [record, inMemory_of_run (run (.ofTables tables))]
      rfl
  | @write request α now stage stages answer run record =>
      rw [record, inMemory_of_write stages run]
      unfold Store.writeInMemory stagedRecord?
      cases staged : stage (.begin tables) with
      | error error => rfl
      | ok found =>
          have begun : found.2.tables = tables := stages _ _ _ staged
          exact begun ▸ found.2.apply_eq_replay now
  | transact now actions =>
      have begun : ((Transaction.begin tables).actAll actions).2.tables = tables :=
        Transaction.tables_actAll (.begin tables) actions
      rw [inMemory_of_run (run_transact_ofTables now actions tables)]
      exact (Transaction.apply_eq_replay _ now).trans (by rw [begun]; rfl)

/-- What is done to an open store.  A trim may name any snapshot. -/
inductive Operation where
  | ask (request : StoreRequest)
  | snapshot (now : Int64) (ulid : String)
  | trim (name : String)

namespace Operation

def run (store : Store) : Operation → Plan Store
  | .ask request => do return (← request.run store).2
  | .snapshot now ulid => do return (← store.snapshot now (snapshotName ulid)).2
  | .trim name => do return (← store.trim name).2

/-- The tables that an operation leads to in memory. -/
def apply (tables : Tables) : Operation → Tables
  | .ask request => (request.inMemory tables).2
  | _ => tables

/-- The record of the commit that an operation makes, if it makes one. -/
def record? (tables : Tables) : Operation → Option Record
  | .ask request => request.record? tables
  | .snapshot _ _ | .trim _ => none

theorem apply_eq_replay (operation : Operation) (tables : Tables) :
    operation.apply tables = tables.replay (operation.record? tables).toList := by
  cases operation with
  | ask request => exact request.inMemory_eq_replay tables
  | snapshot now ulid => rfl
  | trim name => rfl

/-- What an operation writes is read as it was written, and there is a number for its commit. -/
def Legible (tables : Tables) : Operation → Prop
  | .ask request => ∀ record ∈ request.record? tables,
      record.Legible ∧ tables.commitSeq.toNat + 1 < 2 ^ 64
  | .snapshot now _ => Snapshot.Legible tables now
  | .trim _ => True

instance (tables : Tables) : (operation : Operation) → Decidable (operation.Legible tables)
  | .ask request => inferInstanceAs (Decidable (∀ record ∈ request.record? tables, _))
  | .snapshot now _ => inferInstanceAs (Decidable (Snapshot.Legible tables now))
  | .trim _ => .isTrue trivial

end Operation

/-- A directory from which the tables are recovered: it holds their history and has lost nothing
newer than its snapshot. -/
def Directory.Holds (files : Directory) (tables : Tables) : Prop :=
  ∃ history count records, Trims count history records ∧ Rests files history count records ∧
    tables = .after history

/-- An open store with a log behind it, in a directory that holds its tables. -/
def Store.Lives (store : Store) (files : Directory) : Prop :=
  ∃ history count records, Trims count history records ∧
    Serves files store history count records

theorem Rests.holds (rests : Rests files history count records)
    (nothingLost : Trims count history records) : files.Holds (.after history) :=
  ⟨history, count, records, nothingLost, rests, rfl⟩

theorem Store.Lives.holds (lives : store.Lives files) : files.Holds store.tables := by
  obtain ⟨history, count, records, nothingLost, serves⟩ := lives
  exact serves.tables ▸ serves.rests.holds nothingLost

namespace Directory.Holds

theorem recover (holds : files.Holds tables) : DocStore.recover files = .ok tables := by
  obtain ⟨history, count, records, nothingLost, rests, rfl⟩ := holds
  exact rests.recover nothingLost

/-- On the way of an opening the tables stay the same, and its end is a store with them. -/
theorem keeps_open (holds : files.Holds tables) (options : Log.Options) :
    (Store.openIn files options).Keeps (fun left => left.Holds tables)
      (fun left outcome => ∃ store, outcome = .ok store ∧ store.Lives left ∧ store.tables = tables)
      files := by
  obtain ⟨history, count, records, nothingLost, rests, rfl⟩ := holds
  apply DocStore.keeps_open options rests nothingLost
  case before => exact fun left rests => rests.holds nothingLost
  case opened =>
    exact fun left store serves =>
      ⟨store, rfl, ⟨history, count, records, nothingLost, serves⟩, serves.tables⟩

end Directory.Holds

theorem Serves.room (serves : Serves files store history count records) {request : StoreRequest}
    (legible : (Operation.ask request).Legible store.tables) :
    history.length + (request.record? store.tables).toList.length < 2 ^ 64 := by
  have commitSeq := serves.commitSeq
  cases written : request.record? store.tables with
  | none =>
      have := store.tables.commitSeq.toNat_lt
      simpa [commitSeq] using this
  | some record =>
      obtain ⟨-, room⟩ := legible record written
      simpa [commitSeq] using room

/-- A directory holds a history and further commits.  The log has lost nothing of the history that
is newer than the snapshot, and none of the further commits. -/
def Directory.Retains (files : Directory) (history added : List Record) : Prop :=
  ∃ count records, Trims count history records ∧
    Rests files (history ++ added) count (records ++ added)

theorem Rests.retains (rests : Rests files history count records)
    (nothingLost : Trims count history records) : files.Retains history [] :=
  ⟨count, records, nothingLost, by simpa using rests⟩

theorem Directory.Retains.holds {added : List Record} (retains : files.Retains history added) :
    files.Holds (.after (history ++ added)) := by
  obtain ⟨count, records, nothingLost, rests⟩ := retains
  exact rests.holds (nothingLost.append added)

theorem Session.Serves.retains {session : Session} (serves : session.Serves history) :
    session.files.Retains history [] := by
  obtain ⟨count, records, nothingLost, serves⟩ := serves
  exact serves.rests.retains nothingLost

/-- On the way of the operation the directory retains the history, and its commit or not. -/
def Operation.Extends (operation : Operation) (store : Store) (history : List Record)
    (files : Directory) : Prop :=
  (operation.run store).Keeps
    (fun left => left.Retains history [] ∨
      left.Retains history (operation.record? store.tables).toList)
    (fun left next =>
      Session.Serves ⟨left, next⟩ (history ++ (operation.record? store.tables).toList)) files

namespace Serves

variable (serves : Serves files store history count records)
  (nothingLost : Trims count history records)

include serves nothingLost

theorem extends_ask {request : StoreRequest}
    (legible : (Operation.ask request).Legible store.tables) :
    (Operation.ask request).Extends store history files := by
  refine Plan.Keeps.bind ?_
  apply keeps_request serves request (fun record member => (legible record member).1)
    (serves.room legible)
  case before => exact fun left rests => .inl (rests.retains nothingLost)
  case after => exact fun left rests => .inr ⟨count, records, nothingLost, rests⟩
  case result =>
    intro left next answer serves _ _
    exact Plan.keeps_pure (.inr ⟨count, records, nothingLost, serves.rests⟩)
      ⟨count, _, nothingLost.append _, serves⟩

theorem extends_snapshot {now : Int64} {ulid : String}
    (legible : Snapshot.Legible store.tables now) :
    (Operation.snapshot now ulid).Extends store history files := by
  refine Plan.Keeps.bind ?_
  apply keeps_snapshot serves (isFolder_snapshotName ulid) legible
  case before => exact fun left more above rests => .inl (rests.retains (nothingLost.mono above))
  case result =>
    intro left next serves' _
    have nothingLost' := nothingLost.mono serves.within
    rw [Operation.record?, Option.toList_none, List.append_nil]
    exact Plan.keeps_pure (.inl (serves'.rests.retains nothingLost')) ⟨_, _, nothingLost', serves'⟩

theorem extends_trim (name : String) : (Operation.trim name).Extends store history files := by
  obtain ⟨log, backing, -⟩ := serves.log
  refine Plan.Keeps.bind ?_
  rw [Operation.record?, Option.toList_none, List.append_nil]
  by_cases current : log.manifest.currentSnapshot = some name
  · apply keeps_trim serves
    case current =>
      intro other also
      rw [backing] at also
      cases also
      exact current
    case before =>
      exact fun left less trims rests => .inl (rests.retains (nothingLost.trans trims))
    case result =>
      intro left names next less trims serves' _ _
      have nothingLost' := nothingLost.trans trims
      exact Plan.keeps_pure (.inl (serves'.rests.retains nothingLost'))
        ⟨_, _, nothingLost', serves'⟩
  · rw [Store.trim_other backing current]
    have now := serves.rests.retains nothingLost
    exact Plan.keeps_pure (.inl now) (Plan.keeps_pure (.inl now) ⟨_, _, nothingLost, serves⟩)

end Serves

/-- The operation adds its commit to the history. -/
theorem Session.Serves.extends {session : Session} (serves : session.Serves history)
    {operation : Operation} (legible : operation.Legible session.store.tables) :
    operation.Extends session.store history session.files := by
  obtain ⟨count, records, nothingLost, serves⟩ := serves
  cases operation with
  | ask request => exact serves.extends_ask nothingLost legible
  | snapshot now ulid => exact serves.extends_snapshot nothingLost legible
  | trim name => exact serves.extends_trim nothingLost name

/-- On the way of the operation the directory holds the tables before it or those after it. -/
def Operation.Lasts (operation : Operation) (store : Store) (files : Directory) : Prop :=
  (operation.run store).Keeps
    (fun left => left.Holds store.tables ∨ left.Holds (operation.apply store.tables))
    (fun left next => next.Lives left ∧ next.tables = operation.apply store.tables) files

theorem Store.Lives.lasts (lives : store.Lives files) {operation : Operation}
    (legible : operation.Legible store.tables) : operation.Lasts store files := by
  obtain ⟨history, count, records, nothingLost, serves⟩ := lives
  have tables := serves.tables
  have applied : operation.apply store.tables =
      .after (history ++ (operation.record? store.tables).toList) := by
    rw [operation.apply_eq_replay, Tables.after, Tables.replay_append, ← Tables.after, ← tables]
  have opened : Session.Serves ⟨files, store⟩ history := ⟨count, records, nothingLost, serves⟩
  refine (opened.extends legible).mono (fun left retained => ?_) fun left next serves' => ?_
  · rw [applied]
    rcases retained with before | after
    · exact .inl (tables ▸ by simpa using before.holds)
    · exact .inr after.holds
  · rw [applied]
    exact ⟨⟨_, serves'⟩, serves'.tables⟩

/-- A directory, the store that is open in it, the tables that clients were told of, and the
operation that was stopped, if one was. -/
structure World where
  files : Directory
  store : Option Store
  acknowledged : Tables
  stopped : Option Operation

namespace World

def start : World := ⟨.empty, none, .empty, none⟩

/-- What may happen next: the store is opened, performs an operation or is closed, or the device
stops on the way.  Clients of a store that was opened are told of its tables. -/
inductive Next : World → World → Prop where
  | opens {files left : Directory} {store : Store} {acknowledged : Tables}
      {stopped : Option Operation} (options : Log.Options)
      (run : (Store.openIn files options).run Plan.noFault files = (left, .ok store)) :
      Next ⟨files, none, acknowledged, stopped⟩ ⟨left, some store, store.tables, none⟩
  | stopsOpening {files left : Directory} {acknowledged : Tables} {stopped : Option Operation}
      (options : Log.Options) (leaves : Plan.Leaves files (Store.openIn files options) left) :
      Next ⟨files, none, acknowledged, stopped⟩ ⟨left, none, acknowledged, stopped⟩
  | performs {files left : Directory} {store next : Store} {acknowledged : Tables}
      {stopped : Option Operation} (operation : Operation)
      (legible : operation.Legible acknowledged)
      (run : (operation.run store).run Plan.noFault files = (left, next)) :
      Next ⟨files, some store, acknowledged, stopped⟩
        ⟨left, some next, operation.apply acknowledged, none⟩
  | stops {files left : Directory} {store : Store} {acknowledged : Tables}
      {stopped : Option Operation} (operation : Operation)
      (legible : operation.Legible acknowledged)
      (leaves : Plan.Leaves files (operation.run store) left) :
      Next ⟨files, some store, acknowledged, stopped⟩ ⟨left, none, acknowledged, some operation⟩
  | closes {files : Directory} {store : Store} {acknowledged : Tables}
      {stopped : Option Operation} :
      Next ⟨files, some store, acknowledged, stopped⟩ ⟨files, none, acknowledged, none⟩

inductive Reached : World → Prop where
  | start : Reached start
  | next {world after : World} (reached : Reached world) (next : Next world after) : Reached after

/-- Tables that may be found again: those that clients were told of, or those with the operation on
top that was stopped. -/
def Allows (world : World) (tables : Tables) : Prop :=
  tables = world.acknowledged ∨
    ∃ operation ∈ world.stopped, tables = operation.apply world.acknowledged

inductive Sound : World → Prop where
  | opened {files : Directory} {store : Store} (lives : store.Lives files) :
      Sound ⟨files, some store, store.tables, none⟩
  | closed {files : Directory} {tables acknowledged : Tables} {stopped : Option Operation}
      (holds : files.Holds tables)
      (allowed : Allows ⟨files, none, acknowledged, stopped⟩ tables) :
      Sound ⟨files, none, acknowledged, stopped⟩

variable {world after : World}

theorem Sound.next (sound : Sound world) (next : Next world after) : Sound after := by
  cases next with
  | opens options run =>
      cases sound with
      | closed holds allowed =>
          obtain ⟨store, opened, lives, -⟩ := (holds.keeps_open options).run
          rw [run] at opened lives
          cases opened
          exact .opened lives
  | stopsOpening options leaves =>
      cases sound with
      | closed holds allowed => exact .closed ((holds.keeps_open options).leaves leaves) allowed
  | performs operation legible run =>
      cases sound with
      | opened lives =>
          obtain ⟨lives', tables⟩ := (lives.lasts legible).run
          rw [run] at lives' tables
          exact tables ▸ .opened lives'
  | stops operation legible leaves =>
      cases sound with
      | opened lives =>
          rcases (lives.lasts legible).leaves leaves with before | after
          · exact .closed before (.inl rfl)
          · exact .closed after (.inr ⟨operation, rfl, rfl⟩)
  | closes =>
      cases sound with
      | opened lives => exact .closed lives.holds (.inl rfl)

theorem Reached.sound (reached : Reached world) : Sound world := by
  induction reached with
  | start => exact .closed (Rests.empty.holds (.refl _ _)) (.inl rfl)
  | next _ next ih => exact ih.next next

theorem Sound.holds (sound : Sound world) :
    ∃ tables, world.files.Holds tables ∧ world.Allows tables := by
  cases sound with
  | opened lives => exact ⟨_, lives.holds, .inl rfl⟩
  | closed holds allowed => exact ⟨_, holds, allowed⟩

end World

/-- Wherever the device has stopped, and however often: the directory is opened again, with the
tables that clients were told of or with the one operation on top that was stopped. -/
theorem reached_recovers {world : World} (reached : world.Reached) :
    ∃ tables, world.Allows tables ∧ recover world.files = .ok tables ∧
      ∀ options, ∃ session, Session.openIn world.files options = .ok session ∧
        session.store.tables = tables ∧ recover session.files = .ok tables := by
  obtain ⟨tables, holds, allowed⟩ := reached.sound.holds
  refine ⟨tables, allowed, holds.recover, fun options => ?_⟩
  obtain ⟨history, count, records, nothingLost, rests, rfl⟩ := holds
  obtain ⟨session, opened, serves⟩ := Session.openIn_serves options rests nothingLost
  exact ⟨session, opened, serves.tables, serves.tables ▸ serves.recover⟩

/-- A commit is on the disk when the device stops, and nobody was told of it. -/
theorem unacknowledged_commit_recovers :
    ∃ world : World, world.Reached ∧
      world.acknowledged = .empty ∧ world.stopped = some (.ask (.createIndex 1 "books")) ∧
      ∃ tables, world.Allows tables ∧ recover world.files = .ok tables ∧
        ∀ options, ∃ session, Session.openIn world.files options = .ok session ∧
          session.store.tables = tables ∧ recover session.files = .ok tables := by
  have holds : Directory.empty.Holds .empty := Rests.empty.holds (.refl _ _)
  obtain ⟨left, _, run, store, rfl, -, tables⟩ := (holds.keeps_open .standard).exists_run
  have legible : (Operation.ask (.createIndex 1 "books")).Legible store.tables := by
    rw [tables]
    decide +kernel
  have reached := (World.Reached.start.next (.opens .standard run)).next
    (.stops _ legible (Plan.leaves_run _ _))
  exact ⟨_, reached, tables, rfl, reached_recovers reached⟩

end DocStore
