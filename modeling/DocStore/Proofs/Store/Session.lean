import DocStore.Proofs.Store.Request

namespace DocStore

open Log (Record Trims)

def snapshotName (ulid : String) : String := "snap-" ++ ulid ++ ".zst"

theorem isFolder_snapshotName (ulid : String) :
    Directory.isFolder (snapshotName ulid) = false := by
  refine Directory.isFolder_of_long ?_
  simp only [snapshotName, String.toList_append, List.length_append]
  exact Nat.lt_of_lt_of_le (by decide : 2 < ".zst".toList.length) (Nat.le_add_left _ _)

/-- A step of a script: a request, or what is done to a store with a log only. -/
inductive Step where
  | ask (request : StoreRequest)
  | snapshot (now : Int64) (ulid : String)
  | trim
  | reopen (options : Log.Options)

namespace Step

def request? : Step → Option StoreRequest
  | .ask request => some request
  | _ => none

end Step

/-- The snapshot that the manifest of a store points at. -/
def Store.currentSnapshot? (store : Store) : Option String :=
  store.backing.bind fun backing => backing.log.manifest.currentSnapshot

structure Session where
  files : Directory
  store : Store

namespace Session

def openIn (files : Directory) (options : Log.Options) : Except StoreError Session :=
  match (Store.openIn files options).run Plan.noFault files with
  | (files, .ok store) => .ok ⟨files, store⟩
  | (_, .error error) => .error (.io error)

/-- One step, with the answer if it is a request.  A trim names the current snapshot; without one
nothing is trimmed. -/
def perform (session : Session) : Step → Except StoreError (List Answer × Session)
  | .ask request =>
      let (files, answer, store) := (request.run session.store).run Plan.noFault session.files
      .ok ([answer], ⟨files, store⟩)
  | .snapshot now ulid =>
      match (session.store.snapshot now (snapshotName ulid)).run Plan.noFault session.files with
      | (files, .ok _, store) => .ok ([], ⟨files, store⟩)
      | (_, .error error, _) => .error error
  | .trim =>
      match session.store.currentSnapshot? with
      | none => .ok ([], session)
      | some name =>
          match (session.store.trim name).run Plan.noFault session.files with
          | (files, .ok _, store) => .ok ([], ⟨files, store⟩)
          | (_, .error error, _) => .error error
  | .reopen options => (openIn session.files options).map fun session => ([], session)

def performAll (session : Session) : List Step → Except StoreError (List Answer × Session)
  | [] => .ok ([], session)
  | step :: rest => do
      let (answers, session) ← session.perform step
      let (later, session) ← session.performAll rest
      .ok (answers ++ later, session)

end Session

/-- What a store in memory answers to a list of requests, and its tables then. -/
def StoreRequest.allInMemory (tables : Tables) : List StoreRequest → List Answer × Tables
  | [] => ([], tables)
  | request :: rest =>
      let (answer, tables) := request.inMemory tables
      let (later, tables) := allInMemory tables rest
      (answer :: later, tables)

def requests (script : List Step) : List StoreRequest := script.filterMap Step.request?

def writtenRecords (tables : Tables) : List Step → List Record
  | [] => []
  | .ask request :: rest =>
      (request.record? tables).toList ++ writtenRecords (request.inMemory tables).2 rest
  | _ :: rest => writtenRecords tables rest

def writtenSnapshots (tables : Tables) : List Step → List (Tables × Int64)
  | [] => []
  | .ask request :: rest => writtenSnapshots (request.inMemory tables).2 rest
  | .snapshot now _ :: rest => (tables, now) :: writtenSnapshots tables rest
  | _ :: rest => writtenSnapshots tables rest

/-- Every record and every line of a snapshot that a script writes is read as it was written, and
there are not too many commits for their numbers. -/
structure LegibleScript (tables : Tables) (written : Nat) (script : List Step) : Prop where
  records : ∀ record ∈ writtenRecords tables script, record.Legible
  snapshots : ∀ taken ∈ writtenSnapshots tables script, Snapshot.Legible taken.1 taken.2
  few : written + (writtenRecords tables script).length < 2 ^ 64

instance (tables : Tables) (written : Nat) (script : List Step) :
    Decidable (LegibleScript tables written script) :=
  decidable_of_iff ((∀ record ∈ writtenRecords tables script, record.Legible) ∧
      (∀ taken ∈ writtenSnapshots tables script, Snapshot.Legible taken.1 taken.2) ∧
      written + (writtenRecords tables script).length < 2 ^ 64)
    ⟨fun ⟨records, snapshots, few⟩ => ⟨records, snapshots, few⟩,
      fun legible => ⟨legible.records, legible.snapshots, legible.few⟩⟩

private theorem writtenRecords_prefix (tables : Tables) (done rest : List Step) :
    writtenRecords tables done <+: writtenRecords tables (done ++ rest) := by
  induction done generalizing tables with
  | nil => exact List.nil_prefix
  | cons step done ih =>
      cases step with
      | ask request => exact (List.prefix_append_right_inj _).mpr (ih _)
      | snapshot now ulid => exact ih tables
      | trim => exact ih tables
      | reopen options => exact ih tables

private theorem writtenSnapshots_prefix (tables : Tables) (done rest : List Step) :
    writtenSnapshots tables done <+: writtenSnapshots tables (done ++ rest) := by
  induction done generalizing tables with
  | nil => exact List.nil_prefix
  | cons step done ih =>
      cases step with
      | ask request => exact ih _
      | snapshot now ulid => exact List.cons_prefix_cons.mpr ⟨rfl, ih tables⟩
      | trim => exact ih tables
      | reopen options => exact ih tables

theorem LegibleScript.of_prefix {tables : Tables} {written : Nat} {done script : List Step}
    (legible : LegibleScript tables written script) (begun : done <+: script) :
    LegibleScript tables written done := by
  obtain ⟨rest, rfl⟩ := begun
  have records := writtenRecords_prefix tables done rest
  have snapshots := writtenSnapshots_prefix tables done rest
  have few := legible.few
  refine ⟨fun record member => legible.records record (records.subset member),
    fun taken member => legible.snapshots taken (snapshots.subset member), ?_⟩
  have := records.length_le
  omega

variable {session : Session} {files : Directory} {history records : List Record} {count : Nat}

/-- The store of a session holds a history, and its directory has lost nothing of it. -/
def Session.Serves (session : Session) (history : List Record) : Prop :=
  ∃ count records, Trims count history records ∧
    DocStore.Serves session.files session.store history count records

namespace Session

theorem Serves.tables (serves : session.Serves history) :
    session.store.tables = .after history := by
  obtain ⟨_, _, _, serves⟩ := serves
  exact serves.tables

theorem Serves.recover (serves : session.Serves history) :
    DocStore.recover session.files = .ok session.store.tables := by
  obtain ⟨count, records, nothingLost, serves⟩ := serves
  rw [serves.tables, serves.rests.recover nothingLost]

theorem openIn_serves (options : Log.Options) (rests : Rests files history count records)
    (nothingLost : Trims count history records) :
    ∃ next, openIn files options = .ok next ∧ next.Serves history := by
  have keeps : (Store.openIn files options).Keeps (fun _ => True) (fun left outcome =>
      ∃ store, outcome = .ok store ∧ DocStore.Serves left store history count records) files :=
    keeps_open options rests nothingLost (fun _ _ => trivial)
      fun left store serves => ⟨store, rfl, serves⟩
  obtain ⟨left, _, run, store, rfl, serves⟩ := keeps.exists_run
  exact ⟨⟨left, store⟩, by simp only [openIn, run], count, records, nothingLost, serves⟩

theorem Serves.commitSeq (serves : session.Serves history) :
    session.store.tables.commitSeq.toNat = history.length := by
  obtain ⟨_, _, _, serves⟩ := serves
  exact serves.commitSeq

theorem Serves.openIn (serves : session.Serves history) (options : Log.Options) :
    ∃ next, Session.openIn session.files options = .ok next ∧ next.Serves history := by
  obtain ⟨count, records, nothingLost, serves⟩ := serves
  exact openIn_serves options serves.rests nothingLost

theorem perform_ask (serves : session.Serves history) (request : StoreRequest)
    (legible : ∀ record ∈ request.record? session.store.tables, record.Legible)
    (room : history.length + (request.record? session.store.tables).toList.length < 2 ^ 64) :
    ∃ next, session.perform (.ask request) =
        .ok ([(request.inMemory session.store.tables).1], next) ∧
      next.Serves (history ++ (request.record? session.store.tables).toList) ∧
      next.store.tables = (request.inMemory session.store.tables).2 := by
  obtain ⟨count, records, nothingLost, serves⟩ := serves
  have keeps : (request.run session.store).Keeps (fun _ => True) (fun left result =>
      DocStore.Serves left result.2 (history ++ (request.record? session.store.tables).toList)
          count (records ++ (request.record? session.store.tables).toList) ∧
        request.inMemory session.store.tables = (result.1, result.2.tables)) session.files :=
    keeps_request serves request legible room (fun _ _ => trivial) (fun _ _ => trivial)
      fun left next answer serves inMemory _ => ⟨serves, inMemory⟩
  obtain ⟨serves', inMemory⟩ := keeps.run
  rw [inMemory]
  exact ⟨_, rfl, ⟨count, _, nothingLost.append _, serves'⟩, rfl⟩

theorem perform_snapshot (serves : session.Serves history) (now : Int64) (ulid : String)
    (legible : Snapshot.Legible session.store.tables now) :
    ∃ next, session.perform (.snapshot now ulid) = .ok ([], next) ∧ next.Serves history ∧
      next.store.tables = session.store.tables := by
  obtain ⟨count, records, nothingLost, serves⟩ := serves
  have keeps : (session.store.snapshot now (snapshotName ulid)).Keeps (fun _ => True)
      (fun left result => (∃ told, result.1 = .ok told) ∧
        DocStore.Serves left result.2 history history.length records ∧
          result.2.tables = session.store.tables) session.files :=
    keeps_snapshot serves (isFolder_snapshotName ulid) legible (fun _ _ _ _ => trivial)
      fun left next serves tables => ⟨⟨_, rfl⟩, serves, tables⟩
  obtain ⟨left, ⟨_, store⟩, run, ⟨told, rfl⟩, serves', tables⟩ := keeps.exists_run
  exact ⟨⟨left, store⟩, by simp only [perform, run],
    ⟨history.length, records, nothingLost.mono serves.within, serves'⟩, tables⟩

theorem perform_trim (serves : session.Serves history) :
    ∃ next, session.perform .trim = .ok ([], next) ∧ next.Serves history ∧
      next.store.tables = session.store.tables := by
  obtain ⟨count, records, nothingLost, serves⟩ := serves
  unfold perform
  cases current : session.store.currentSnapshot? with
  | none => exact ⟨session, rfl, ⟨count, records, nothingLost, serves⟩, rfl⟩
  | some name =>
      have named (log : Log.Writer) (backing : session.store.backing = some ⟨log, false⟩) :
          log.manifest.currentSnapshot = some name := by
        simpa [Store.currentSnapshot?, backing] using current
      have keeps : (session.store.trim name).Keeps (fun _ => True)
          (fun left result => (∃ names, result.1 = .ok names) ∧
            (∃ less, Trims count records less ∧
              DocStore.Serves left result.2 history count less) ∧
                result.2.tables = session.store.tables) session.files :=
        keeps_trim serves named (fun _ _ _ _ => trivial)
          fun left names next less trims serves tables _ =>
            ⟨⟨names, rfl⟩, ⟨less, trims, serves⟩, tables⟩
      obtain ⟨left, ⟨_, store⟩, run, ⟨names, rfl⟩, ⟨less, trims, serves'⟩, tables⟩ :=
        keeps.exists_run
      exact ⟨⟨left, store⟩, by simp only [run],
        ⟨count, less, nothingLost.trans trims, serves'⟩, tables⟩

theorem perform_reopen (serves : session.Serves history) (options : Log.Options) :
    ∃ next, session.perform (.reopen options) = .ok ([], next) ∧ next.Serves history ∧
      next.store.tables = session.store.tables := by
  obtain ⟨count, records, nothingLost, serves⟩ := serves
  obtain ⟨next, opened, serves'⟩ := openIn_serves options serves.rests nothingLost
  exact ⟨next, by simp only [perform, opened, Except.map], serves',
    serves'.tables.trans serves.tables.symm⟩

/-- A step gives the answers and the tables of its request in memory, and the rest of the script
stays legible. -/
theorem Serves.performStep (serves : session.Serves history) {step : Step} {rest : List Step}
    (legible : LegibleScript session.store.tables history.length (step :: rest)) :
    ∃ answers next history', session.perform step = .ok (answers, next) ∧
      next.Serves history' ∧ LegibleScript next.store.tables history'.length rest ∧
      StoreRequest.allInMemory session.store.tables (requests (step :: rest)) =
        (answers ++ (StoreRequest.allInMemory next.store.tables (requests rest)).1,
          (StoreRequest.allInMemory next.store.tables (requests rest)).2) := by
  cases step with
  | ask request =>
      have few := legible.few
      simp only [writtenRecords, List.length_append] at few
      obtain ⟨next, performed, serves', tables⟩ := perform_ask serves request
        (fun record member => legible.records record
          (List.mem_append_left _ (Option.mem_toList.mpr member))) (by omega)
      refine ⟨_, next, _, performed, serves', ⟨?_, ?_, ?_⟩, ?_⟩
      · exact fun record member => legible.records record
          (List.mem_append_right _ (tables ▸ member))
      · exact fun taken member => legible.snapshots taken
          (show taken ∈ writtenSnapshots (request.inMemory _).2 rest from tables ▸ member)
      · rw [tables, List.length_append]
        omega
      · rw [tables]
        rfl
  | snapshot now ulid =>
      obtain ⟨next, performed, serves', tables⟩ := perform_snapshot serves now ulid
        (legible.snapshots _ List.mem_cons_self)
      refine ⟨_, next, _, performed, serves', ?_, by rw [tables]; rfl⟩
      rw [tables]
      exact ⟨legible.records, fun taken member =>
        legible.snapshots taken (List.mem_cons_of_mem _ member), legible.few⟩
  | trim =>
      obtain ⟨next, performed, serves', tables⟩ := perform_trim serves
      refine ⟨_, next, _, performed, serves', ?_, by rw [tables]; rfl⟩
      rw [tables]
      exact ⟨legible.records, legible.snapshots, legible.few⟩
  | reopen options =>
      obtain ⟨next, performed, serves', tables⟩ := perform_reopen serves options
      refine ⟨_, next, _, performed, serves', ?_, by rw [tables]; rfl⟩
      rw [tables]
      exact ⟨legible.records, legible.snapshots, legible.few⟩

theorem Serves.performAll (serves : session.Serves history) {script : List Step}
    (legible : LegibleScript session.store.tables history.length script) :
    ∃ next history', session.performAll script =
        .ok ((StoreRequest.allInMemory session.store.tables (requests script)).1, next) ∧
      next.Serves history' ∧
      next.store.tables = (StoreRequest.allInMemory session.store.tables (requests script)).2 := by
  induction script generalizing session history with
  | nil => exact ⟨session, history, rfl, serves, rfl⟩
  | cons step rest ih =>
      obtain ⟨answers, next, history', performed, serves', legible', inMemory⟩ :=
        serves.performStep legible
      obtain ⟨last, history'', later, serves'', tables⟩ := ih serves' legible'
      refine ⟨last, history'', ?_, serves'', by rw [inMemory, tables]⟩
      simp only [performAll, performed, later, bind, Except.bind, inMemory]

end Session

/-- A script run in a new directory, with what only a store with a log can do at any places, is
answered as its requests alone are in memory; and after every step the tables that are recovered
from the directory are those of the store in memory. -/
theorem session_refines_memory (options : Log.Options) (script : List Step)
    (legible : LegibleScript .empty 0 script) (done : List Step) (begun : done <+: script) :
    ∃ session, (do (← Session.openIn .empty options).performAll done) =
        .ok ((StoreRequest.allInMemory .empty (requests done)).1, session) ∧
      recover session.files = .ok (StoreRequest.allInMemory .empty (requests done)).2 ∧
      session.store.tables = (StoreRequest.allInMemory .empty (requests done)).2 := by
  obtain ⟨start, opened, serves⟩ := Session.openIn_serves options Rests.empty (.refl _ _)
  have empty : start.store.tables = .empty := serves.tables
  have legible' : LegibleScript start.store.tables 0 done := empty ▸ legible.of_prefix begun
  obtain ⟨last, history, performed, serves', tables⟩ := serves.performAll legible'
  rw [empty] at performed tables
  refine ⟨last, ?_, ?_, tables⟩
  · simp only [opened, bind, Except.bind, performed]
  · rw [serves'.recover, tables]

/-- A script with a snapshot, a trim and a reopening between its requests. -/
def lentBook : List Step :=
  [.ask (.createIndex 1 "books"),
    .ask (.upsertDocument 2 "books" "dune" (.object [("title", .string "Dune")]) false),
    .snapshot 3 "a", .trim, .ask (.deleteDocument 4 "books" "dune"), .reopen ⟨1, 1, 1⟩,
    .ask (.getDocument "books" "dune")]

theorem lentBook_refines_memory :
    LegibleScript .empty 0 lentBook ∧
      ∃ session, (do (← Session.openIn .empty .standard).performAll lentBook) =
          .ok ((StoreRequest.allInMemory .empty (requests lentBook)).1, session) ∧
        recover session.files = .ok (StoreRequest.allInMemory .empty (requests lentBook)).2 ∧
        session.store.tables = (StoreRequest.allInMemory .empty (requests lentBook)).2 :=
  have legible : LegibleScript .empty 0 lentBook := by decide +kernel
  ⟨legible, session_refines_memory .standard lentBook legible lentBook (List.prefix_refl _)⟩

end DocStore
