import DocStore.Proofs.Log.Resume
import DocStore.Proofs.Store.Session
/-!
Opening a directory of any content.

A store opens with the tables that are recovered.  What is recovered afterwards is
the same unless a file was adopted that recovery had not read and that has newer
records.  Commits are found again as long as the segments they go to come last and
hold nothing else (`opened_recovers_iff`).
-/

namespace DocStore

open Log (Record Manifest Clear Continues Opened Opening)

variable {files left : Directory} {tables : Tables} {records : List Record} {session : Session}
  {count : Nat} {options : Log.Options}

namespace Tables

theorem commitSeq_catchUp (tables : Tables) (record : Record) :
    (tables.catchUp record).commitSeq.toNat = max tables.commitSeq.toNat record.seq.toNat := by
  unfold catchUp
  split
  · next older =>
      rw [UInt64.le_iff_toNat_le] at older
      omega
  · rw [commitSeq_applyCommit, toNat_max]

theorem commitSeq_foldl_catchUp (tables : Tables) (records : List Record) :
    tables.commitSeq.toNat ≤ (records.foldl catchUp tables).commitSeq.toNat ∧
      ∀ record ∈ records, record.seq.toNat ≤ (records.foldl catchUp tables).commitSeq.toNat := by
  induction records generalizing tables with
  | nil => exact ⟨Nat.le_refl _, nofun⟩
  | cons record rest ih =>
      obtain ⟨above, rest'⟩ := ih (tables.catchUp record)
      rw [commitSeq_catchUp] at above
      rw [List.foldl_cons]
      refine ⟨by omega, fun other member => ?_⟩
      rcases List.mem_cons.mp member with rfl | member
      · omega
      · exact rest' other member

theorem foldl_catchUp_eq_self_iff :
    records.foldl catchUp tables = tables ↔ ∀ record ∈ records, record.seq ≤ tables.commitSeq := by
  constructor
  · intro same record member
    have bound := (commitSeq_foldl_catchUp tables records).2 record member
    rw [same] at bound
    exact UInt64.le_iff_toNat_le.mpr bound
  · intro older
    induction records with
    | nil => rfl
    | cons record rest ih =>
        have skipped : tables.catchUp record = tables := if_pos (older record List.mem_cons_self)
        rw [List.foldl_cons, skipped]
        exact ih fun other member => older other (List.mem_cons_of_mem _ member)

end Tables

/-- The records that are replayed behind those of before are applied to the tables of before. -/
theorem Log.Extends.recover {found : Option Manifest} {now : Manifest}
    (extended : Log.Extends files (found.getD .blank) records left now)
    (read : Log.readManifest files = .ok found) (written : left.manifest = some now.text)
    (recovered : DocStore.recover files = .ok tables) :
    DocStore.recover left = .ok (records.foldl Tables.catchUp tables) := by
  obtain ⟨base, snapshot, replayed⟩ := (recover_eq_ok_iff read).mp recovered
  refine (recover_eq_ok_iff (Log.readManifest_of_written written)).mpr ⟨base, ?_, ?_⟩
  · rw [← snapshot]
    simp only [snapshotTables, Option.getD_some, extended.same.current, extended.same.snapshots]
  · rw [Option.getD_some, extended.replayed, List.foldl_append, replayed]

/-- The records of the segment that opening goes on with, if recovery does not read it. -/
def Directory.adopted (files : Directory) : List Record :=
  match Log.readManifest files with
  | .ok found => Log.adopted files (found.getD .first)
  | .error _ => []

structure Session.OpenedFrom (session : Session) (files : Directory) (found : Option Manifest)
    (log : Log.Writer) : Prop where
  read : Log.readManifest files = .ok found
  recovered : recover files = .ok session.store.tables
  backing : session.store.backing = some ⟨log, false⟩
  manifest : log.manifest = Log.openedManifest found
  named : Log.IsFileName log.manifest.currentSegment
  opening : Opening files log.manifest session.files
  opened : Opened session.files log.manifest

theorem readManifest_of_recover (recovered : recover files = .ok tables) :
    ∃ found, Log.readManifest files = .ok found := by
  cases read : Log.readManifest files with
  | ok found => exact ⟨found, rfl⟩
  | error error => simp [recover, read, bind, Except.bind] at recovered

/-- A store opens if its directory is recovered and its log goes on with a segment that can be
created. -/
theorem Session.exists_openIn {found : Option Manifest} (recovered : recover files = .ok tables)
    (read : Log.readManifest files = .ok found) (named : Log.IsFileName (found.getD .first).resumed)
    (options : Log.Options) :
    ∃ session, openIn files options = .ok session ∧ session.store.tables = tables := by
  have keeps : (Log.Writer.openIn files options).Keeps (fun _ => True)
      (fun _ outcome => ∃ log, outcome = .ok log) files :=
    Log.keeps_openIn_any options read named (fun _ _ => trivial) fun _ log _ _ _ => ⟨log, rfl⟩
  obtain ⟨left, _, run, log, rfl⟩ := keeps.exists_run
  refine ⟨⟨left, tables, some ⟨log, false⟩⟩, ?_, rfl⟩
  simp only [openIn, Store.openIn, recovered, Plan.run_bind, run]
  rfl

theorem Session.openedFrom (opened : Session.openIn files options = .ok session) :
    ∃ found log, session.OpenedFrom files found log := by
  cases recovered : recover files with
  | error error => simp [openIn, Store.openIn, recovered, pure, Plan.run] at opened
  | ok tables =>
      obtain ⟨found, read⟩ := readManifest_of_recover recovered
      simp only [openIn, Store.openIn, recovered, Plan.run_bind] at opened
      generalize run : (Log.Writer.openIn files options).run Plan.noFault files = result at opened
      obtain ⟨left, outcome⟩ := result
      cases outcome with
      | error error => simp [pure, Plan.run] at opened
      | ok log =>
          simp only [pure, Plan.run, Except.ok.injEq] at opened
          obtain ⟨manifest, opening, opened'⟩ := Log.openIn_ok read run
          subst opened
          refine ⟨found, log, read, recovered, rfl, manifest, ?_, manifest ▸ opening,
            manifest ▸ opened'⟩
          rw [manifest]
          exact Log.named_of_openIn read run

namespace Session

theorem OpenedFrom.recover {found : Option Manifest} {log : Log.Writer}
    (opened : session.OpenedFrom files found log) :
    DocStore.recover session.files =
      .ok (files.adopted.foldl Tables.catchUp session.store.tables) := by
  have extended := (opened.manifest ▸ opened.opening).extended
  have adopted : files.adopted = Log.adopted files (found.getD .first) := by
    simp only [Directory.adopted, opened.read]
  rw [adopted]
  exact extended.recover opened.read (opened.manifest ▸ opened.opened.written) opened.recovered

theorem OpenedFrom.recover_iff {found : Option Manifest} {log : Log.Writer}
    (opened : session.OpenedFrom files found log) :
    DocStore.recover session.files = .ok session.store.tables ↔
      ∀ record ∈ files.adopted, record.seq ≤ session.store.tables.commitSeq := by
  rw [opened.recover, Except.ok.injEq, Tables.foldl_catchUp_eq_self_iff]

/-- Recovery does with the record of a transaction what the commit does. -/
private theorem catchUp_record {transaction : Transaction} (changes : transaction.mutations ≠ [])
    (room : transaction.tables.commitSeq.toNat + 1 < 2 ^ 64) (now : Int64) :
    transaction.tables.catchUp (transaction.record now) = transaction.apply := by
  have number := Transaction.seq_record room now
  rw [Transaction.apply, if_neg (by simpa using changes), Tables.catchUp, if_neg]
  · rfl
  · rw [UInt64.le_iff_toNat_le]
    omega

/-- Transactions are committed one after another, and each of them is acknowledged. -/
inductive Commits : Session → List Record → Session → Prop where
  | nil (session : Session) : Commits session [] session
  | cons {session final : Session} {now : Int64} {transaction : Transaction} {left : Directory}
      {store : Store} {seq : UInt64} {records : List Record}
      (begun : transaction.tables = session.store.tables)
      (run : (session.store.commit now transaction).run Plan.noFault session.files =
        (left, .ok seq, store))
      (later : Commits ⟨left, store⟩ records final) :
      Commits session ((transaction.record? now).toList ++ records) final

/-- The directory means the tables of the store, and `count` further commits can be appended. -/
structure Accepts (session : Session) (count : Nat) : Prop where
  log : ∃ log, session.store.backing = some ⟨log, false⟩ ∧
    Continues session.files log.manifest session.store.tables.commitSeq.toNat count
  recovered : DocStore.recover session.files = .ok session.store.tables
  few : session.store.tables.commitSeq.toNat + count < 2 ^ 64

namespace Accepts

theorem commit (accepts : session.Accepts (count + 1)) {transaction : Transaction}
    (begun : transaction.tables = session.store.tables) (changes : transaction.mutations ≠ [])
    {now : Int64} (legible : (transaction.record now).Legible) :
    ∃ left store, (session.store.commit now transaction).run Plan.noFault session.files =
        (left, .ok transaction.nextSeq, store) ∧
      Accepts ⟨left, store⟩ count ∧ store.tables = transaction.apply := by
  obtain ⟨⟨log, backing, continues⟩, recovered, few⟩ := accepts
  have room : transaction.tables.commitSeq.toNat + 1 < 2 ^ 64 := by
    rw [begun]
    omega
  have number := Transaction.seq_record room now
  have applied := catchUp_record changes room now
  rw [begun] at number applied
  have commitSeq : transaction.apply.commitSeq.toNat = (transaction.record now).seq.toNat := by
    rw [← applied, Tables.commitSeq_catchUp]
    omega
  have keeps : (session.store.commit now transaction).Keeps (fun _ => True)
      (fun left result => result.1 = .ok transaction.nextSeq ∧ Accepts ⟨left, result.2⟩ count ∧
        result.2.tables = transaction.apply) session.files := by
    unfold Store.commit
    rw [if_neg (by simpa using changes)]
    simp only [backing, Bool.false_eq_true, if_false]
    refine Plan.Keeps.bind (continues.keeps_appendOne legible (by omega) ?_)
    intro left next idle continues' older extended
    refine Plan.keeps_pure trivial ⟨rfl, ⟨⟨next, rfl, ?_⟩, ?_, ?_⟩, rfl⟩
    · exact commitSeq ▸ continues'
    · -- The new commit is as new as any record of a segment that was begun.
      have read := Log.readManifest_of_written continues.opened.written
      have skipped : idle.foldl Tables.catchUp transaction.apply = transaction.apply :=
        Tables.foldl_catchUp_eq_self_iff.mpr fun record member =>
          UInt64.le_iff_toNat_le.mpr (commitSeq ▸ older record member)
      have recovered' := Log.Extends.recover extended read continues'.opened.written recovered
      rwa [List.foldl_cons, applied, skipped] at recovered'
    · change transaction.apply.commitSeq.toNat + count < 2 ^ 64
      omega
  obtain ⟨left, ⟨_, store⟩, run, rfl, accepts, tables⟩ := keeps.exists_run
  exact ⟨left, store, run, accepts, tables⟩

theorem commits (accepts : session.Accepts records.length) {final : Session}
    (commits : session.Commits records final) (legible : ∀ record ∈ records, record.Legible) :
    final.Accepts 0 ∧ final.store.tables = session.store.tables.replay records := by
  induction commits with
  | nil session => exact ⟨accepts, rfl⟩
  | @cons session final now transaction left store seq records begun run later ih =>
      cases unchanged : transaction.mutations.isEmpty with
      | true =>
          have none : transaction.record? now = none := if_pos unchanged
          rw [none] at accepts legible ⊢
          rw [Store.commit, if_pos unchanged] at run
          cases run
          exact ih accepts legible
      | false =>
          have changes : transaction.mutations ≠ [] := by simpa using unchanged
          rw [Transaction.record?_of_changes changes, Option.toList_some] at accepts legible ⊢
          obtain ⟨left', store', run', accepts', tables⟩ :=
            accepts.commit begun changes (legible _ List.mem_cons_self)
          rw [run'] at run
          cases run
          obtain ⟨accepts'', replayed⟩ :=
            ih accepts' fun record member => legible record (List.mem_cons_of_mem _ member)
          refine ⟨accepts'', replayed.trans ?_⟩
          rw [tables, Transaction.apply, if_neg (by simp [unchanged]), begun]
          rfl

theorem reopen (accepts : session.Accepts count) (options : Log.Options) :
    ∃ last, openIn session.files options = .ok last ∧
      last.store.tables = session.store.tables := by
  obtain ⟨⟨log, -, opened, named, -, -⟩, recovered, -⟩ := accepts
  refine exists_openIn recovered (Log.readManifest_of_written opened.written) ?_ options
  rw [Option.getD_some, named.resumed_eq]
  exact named

end Accepts

/-- There are segments for `count` further commits, which come last and hold nothing newer. -/
def HasRoom (session : Session) (count : Nat) : Prop :=
  session.store.tables.commitSeq.toNat + count < 2 ^ 64 ∧
    ∃ log, session.store.backing = some ⟨log, false⟩ ∧
      Clear session.files log.manifest session.store.tables.commitSeq.toNat count

theorem OpenedFrom.accepts {found : Option Manifest} {log : Log.Writer}
    (opened : session.OpenedFrom files found log) (room : session.HasRoom count)
    (same : DocStore.recover session.files = .ok session.store.tables) :
    session.Accepts count := by
  obtain ⟨few, other, backing, clear⟩ := room
  obtain rfl : log = other := by
    have both := opened.backing.symm.trans backing
    cases both
    rfl
  exact ⟨⟨log, backing, opened.opened, opened.named, clear, by omega⟩, same, few⟩

end Session

/-- A store opens with what is recovered from its directory.  What is recovered then is the same
exactly if no record was adopted that is newer, and then a store that is opened after further
commits has these as well, if there was room for them. -/
theorem opened_recovers_iff (opened : Session.openIn files options = .ok session) :
    recover files = .ok session.store.tables ∧
      (recover session.files = .ok session.store.tables ↔
        ∀ record ∈ files.adopted, record.seq ≤ session.store.tables.commitSeq) ∧
      ∀ records final, session.Commits records final → (∀ record ∈ records, record.Legible) →
        session.HasRoom records.length → recover session.files = .ok session.store.tables →
          ∀ options, ∃ last, Session.openIn final.files options = .ok last ∧
            last.store.tables = session.store.tables.replay records := by
  obtain ⟨found, log, from'⟩ := Session.openedFrom opened
  refine ⟨from'.recovered, from'.recover_iff, ?_⟩
  intro records final commits legible room same options
  obtain ⟨accepts, tables⟩ := (from'.accepts room same).commits commits legible
  rw [← tables]
  exact accepts.reopen options

/-- A torn segment is left, and no manifest. -/
def tornSegment : Directory :=
  { Directory.empty with segments := (∅ : SortedMap _ _).insert "00000001.wal" [0x4C] }

def tornSegmentOpened : Session :=
  match Session.openIn tornSegment ⟨1, 1, 1⟩ with
  | .ok session => session
  | .error _ => ⟨.empty, .inMemory⟩

theorem openIn_tornSegment : Session.openIn tornSegment ⟨1, 1, 1⟩ = .ok tornSegmentOpened := by
  obtain ⟨session, opened⟩ : ∃ session, Session.openIn tornSegment ⟨1, 1, 1⟩ = .ok session :=
    ⟨_, rfl⟩
  rw [tornSegmentOpened, opened]

theorem hasRoom_tornSegmentOpened : tornSegmentOpened.HasRoom 1 := by
  refine ⟨by decide +kernel, _, rfl, ⟨[], 0, by decide +kernel, nofun⟩, ?_, ?_, ?_⟩
  · intro ahead positive within
    obtain rfl : ahead = 1 := Nat.le_antisymm within positive
    decide +kernel
  · intro ahead positive within
    obtain rfl : ahead = 1 := Nat.le_antisymm within positive
    exact .nil
  · intro ahead positive within
    obtain rfl : ahead = 1 := Nat.le_antisymm within positive
    exact nofun

def createBooks : Transaction := (Transaction.begin .empty).putIndex (.new "books")

def createFilms (tables : Tables) : Transaction :=
  (Transaction.begin tables).putIndex (.new "films")

theorem tornSegment_recovers :
    recover tornSegment = .ok .empty ∧ recover tornSegmentOpened.files = .ok .empty ∧
      ∃ final, tornSegmentOpened.Commits [createBooks.record 1] final ∧
        ∃ last, Session.openIn final.files .standard = .ok last ∧
          last.store.tables = .after [createBooks.record 1] := by
  have opened := opened_recovers_iff openIn_tornSegment
  have tables : tornSegmentOpened.store.tables = .empty := by decide +kernel
  obtain ⟨recovered, same, later⟩ := opened
  rw [tables] at recovered same later
  have recovered' := same.mpr (by decide +kernel)
  obtain ⟨left, store, run⟩ : ∃ left store,
      (tornSegmentOpened.store.commit 1 createBooks).run Plan.noFault tornSegmentOpened.files =
        (left, .ok 1, store) := ⟨_, _, rfl⟩
  have commits : tornSegmentOpened.Commits [createBooks.record 1] ⟨left, store⟩ :=
    .cons tables.symm run (.nil _)
  refine ⟨recovered, recovered', _, commits, ?_⟩
  exact later _ _ commits (by decide +kernel) hasRoom_tornSegmentOpened recovered' .standard

/-- A segment with a commit is left, and no manifest. -/
def booksSegment : Directory :=
  { Directory.empty with
    segments := (∅ : SortedMap _ _).insert "00000001.wal" (createBooks.record 1).encode }

set_option maxRecDepth 10000 in
/-- Opening adopts the segment: what is recovered then is not what the store has. -/
theorem booksSegment_adopted :
    ∃ session, Session.openIn booksSegment .standard = .ok session ∧
      recover booksSegment = .ok session.store.tables ∧
      recover session.files ≠ .ok session.store.tables := by
  have recovered : recover booksSegment = .ok .empty := by decide +kernel
  have adopted : booksSegment.adopted = [createBooks.record 1] := by decide +kernel
  have read : Log.readManifest booksSegment = .ok none := rfl
  obtain ⟨session, opened, tables⟩ :=
    Session.exists_openIn recovered read (Log.isFileName_segmentName 1) .standard
  obtain ⟨found, log, from'⟩ := Session.openedFrom opened
  refine ⟨session, opened, from'.recovered, fun same => ?_⟩
  have older := from'.recover_iff.mp same (createBooks.record 1) (by simp [adopted])
  rw [tables] at older
  exact absurd older (by decide)

end DocStore
