import DocStore.Proofs.Store.Crash
/-!
Snapshots that are taken at the same time.

A snapshot takes three steps (`Store.snapshot_eq`), and between the steps of one
call others are made, segments are trimmed, and commits go on.  A call that
exported early may finish late, and then the bookmark moves back.  What is
recovered is right, and nothing above the bookmark is missing from the log,
exactly as long as it does not move back behind a commit that a trim has removed
(`interleaved_recovers_iff`).
-/

namespace DocStore

open Log (Record Trims)

variable {files left : Directory} {store : Store} {history records : List Record} {count : Nat}

/-- The records that the log of a directory still has. -/
def Directory.logged (files : Directory) : List Record := (Log.replay files).toOption.getD []

/-- The number of the last commit in the snapshot that recovery begins with. -/
def Directory.snapshotSeq (files : Directory) : Nat :=
  match Log.readManifest files >>= fun found => snapshotTables files (found.getD .blank) with
  | .ok tables => tables.commitSeq.toNat
  | .error _ => 0

theorem Rests.logged_eq (rests : Rests files history count records) : files.logged = records := by
  obtain ⟨manifest, stands, -⟩ := rests.log
  rw [Directory.logged, stands.replay]
  rfl

theorem Rests.snapshotSeq_eq (rests : Rests files history count records) :
    files.snapshotSeq = count := by
  obtain ⟨manifest, stands, covers⟩ := rests.log
  obtain ⟨found, read, snapshot⟩ := covers.read_snapshot stands
  simp only [Directory.snapshotSeq, read, bind, Except.bind, snapshot]
  rw [Tables.commitSeq_after (rests.numbered.take count), List.length_take_of_le covers.within]

/-- A snapshot that is being taken: its tables are exported, and then its file is written. -/
inductive SnapshotCall where
  | exported (tables : Tables)
  | written (name : String) (seq : UInt64)

/-- A store on which snapshots are being taken, with all commits so far and the records that trims
have removed from the log. -/
structure Scene where
  files : Directory
  store : Store
  history : List Record
  calls : List SnapshotCall
  removed : List Record

/-- A step of one of the calls, which are told by their places, or a request, or a trim of the
current snapshot. -/
inductive Event where
  | ask (request : StoreRequest)
  | exportTables
  | writeFile (call : Nat) (now : Int64) (ulid : String)
  | mark (call : Nat)
  | trim

namespace Scene

def start (session : Session) : Scene := ⟨session.files, session.store, [], [], []⟩

/-- One step.  A call that is not as far as the step needs stays as it is. -/
def perform (scene : Scene) : Event → Scene
  | .ask request =>
      let after := (request.run scene.store).run Plan.noFault scene.files
      { scene with
        files := after.1
        store := after.2.2
        history := scene.history ++ (request.record? scene.store.tables).toList }
  | .exportTables => { scene with calls := scene.calls ++ [.exported scene.store.tables] }
  | .writeFile call now ulid =>
      match scene.calls[call]? with
      | some (.exported tables) =>
          { scene with
            files := scene.files.withSnapshot (snapshotName ulid) (Snapshot.write tables now)
            calls := scene.calls.set call (.written (snapshotName ulid) tables.commitSeq) }
      | _ => scene
  | .mark call =>
      match scene.calls[call]? with
      | some (.written name seq) =>
          let after := (scene.store.markSnapshot name seq).run Plan.noFault scene.files
          { scene with
            files := after.1
            store := after.2.2
            calls := scene.calls.eraseIdx call }
      | _ => scene
  | .trim =>
      match scene.store.currentSnapshot? with
      | some name =>
          let after := (scene.store.trim name).run Plan.noFault scene.files
          { scene with
            files := after.1
            store := after.2.2
            removed := scene.removed ++
              scene.files.logged.filter fun record => record ∉ after.1.logged }
      | none => scene

end Scene

/-- What a step writes is read as it was written, there is a number for its commit, and the file of
a snapshot is a new one. -/
def Event.Allowed (scene : Scene) : Event → Prop
  | .ask request => (Operation.ask request).Legible scene.store.tables
  | .writeFile call now ulid =>
      scene.files.snapshots.get? (snapshotName ulid) = none ∧
        match scene.calls[call]? with
        | some (.exported tables) => Snapshot.Legible tables now
        | _ => True
  | _ => True

/-- Scenes that any steps lead to, in any order. -/
inductive Scene.Reached : Scene → Prop where
  | start {session : Session} (options : Log.Options)
      (opened : Session.openIn .empty options = .ok session) : Reached (.start session)
  | step {scene : Scene} (reached : Reached scene) (event : Event) (allowed : event.Allowed scene) :
      Reached (scene.perform event)

/-- A call has exported the tables after some of the commits, and its file holds them. -/
def SnapshotCall.Sound (files : Directory) (history : List Record) : SnapshotCall → Prop
  | .exported tables => ∃ taken ≤ history.length, tables = .after (history.take taken)
  | .written name seq => ∃ taken ≤ history.length,
      files.HoldsSnapshot name (.after (history.take taken)) ∧ seq.toNat = taken

theorem SnapshotCall.Sound.mono {call : SnapshotCall} (sound : call.Sound files history)
    (same : ∀ name tables, files.HoldsSnapshot name tables → left.HoldsSnapshot name tables)
    (added : List Record) : call.Sound left (history ++ added) := by
  have more {taken : Nat} (within : taken ≤ history.length) :
      taken ≤ (history ++ added).length ∧ (history ++ added).take taken = history.take taken := by
    rw [List.length_append, List.take_append_of_le_length within]
    exact ⟨Nat.le_add_right_of_le within, rfl⟩
  cases call with
  | exported tables =>
      obtain ⟨taken, within, exported⟩ := sound
      obtain ⟨within', taken'⟩ := more within
      exact ⟨taken, within', exported.trans (by rw [taken'])⟩
  | written name seq =>
      obtain ⟨taken, within, holds, number⟩ := sound
      obtain ⟨within', taken'⟩ := more within
      exact ⟨taken, within', taken' ▸ same name _ holds, number⟩

theorem SnapshotCall.Sound.congr {call : SnapshotCall} (sound : call.Sound files history)
    (same : ∀ name tables, files.HoldsSnapshot name tables → left.HoldsSnapshot name tables) :
    call.Sound left history := by
  have sound := sound.mono same []
  rwa [List.append_nil] at sound

namespace Scene

/-- The history is parted into what the log has and what trims have removed from it. -/
structure Sound (scene : Scene) : Prop where
  serves : ∃ count, Serves scene.files scene.store scene.history count scene.files.logged
  calls : ∀ call ∈ scene.calls, call.Sound scene.files scene.history
  kept : ∀ record ∈ scene.history, record ∈ scene.files.logged ∨ record ∈ scene.removed
  removed : ∀ record ∈ scene.removed, record ∈ scene.history ∧ record ∉ scene.files.logged

variable {scene : Scene} {event : Event}

theorem Sound.start {session : Session} {options : Log.Options}
    (opened : Session.openIn .empty options = .ok session) : (start session).Sound := by
  obtain ⟨next, opened', count, records, trims, serves⟩ :=
    Session.openIn_serves options Rests.empty (.refl _ _)
  rw [opened] at opened'
  cases opened'
  exact ⟨⟨count, serves.rests.logged_eq.symm ▸ serves⟩, nofun, nofun, nofun⟩

theorem Sound.ask (sound : scene.Sound) {request : StoreRequest}
    (allowed : (Event.ask request).Allowed scene) : (scene.perform (.ask request)).Sound := by
  obtain ⟨⟨count, serves⟩, calls, kept, removed⟩ := sound
  have keeps : (request.run scene.store).Keeps (fun _ => True) (fun left result =>
      Serves left result.2 (scene.history ++ (request.record? scene.store.tables).toList) count
        (scene.files.logged ++ (request.record? scene.store.tables).toList) ∧
          left.snapshots = scene.files.snapshots) scene.files := by
    refine keeps_request serves request (fun record member => (allowed record member).1)
      (serves.room allowed) (fun _ _ => trivial) (fun _ _ => trivial) ?_
    exact fun left next answer serves _ same => ⟨serves, same⟩
  obtain ⟨left, result, run, serves', same⟩ := keeps.exists_run
  simp only [perform, run]
  have logged := serves'.rests.logged_eq
  refine ⟨⟨count, logged.symm ▸ serves'⟩, ?_, ?_, ?_⟩
  · exact fun call member => (calls call member).mono (fun _ _ holds => holds.congr same) _
  · intro record member
    simp only [logged]
    rcases List.mem_append.mp member with old | new
    · exact (kept record old).imp_left (List.mem_append_left _)
    · exact .inl (List.mem_append_right _ new)
  · intro record member
    obtain ⟨old, gone⟩ := removed record member
    simp only [logged]
    refine ⟨List.mem_append_left _ old, fun again => ?_⟩
    rcases List.mem_append.mp again with still | new
    · exact gone still
    · exact (List.nodup_append.mp serves'.numbered.nodup).2.2 record old record new rfl

theorem Sound.exportTables (sound : scene.Sound) : (scene.perform .exportTables).Sound := by
  obtain ⟨⟨count, serves⟩, calls, kept, removed⟩ := sound
  refine ⟨⟨count, serves⟩, fun call member => ?_, kept, removed⟩
  rcases List.mem_append.mp member with before | now
  · exact calls call before
  · rw [List.mem_singleton.mp now]
    exact ⟨scene.history.length, Nat.le_refl _,
      serves.tables.trans (congrArg Tables.after List.take_length.symm)⟩

theorem Sound.writeFile (sound : scene.Sound) {call : Nat} {now : Int64} {ulid : String}
    (allowed : (Event.writeFile call now ulid).Allowed scene) :
    (scene.perform (.writeFile call now ulid)).Sound := by
  simp only [perform]
  split
  case h_2 => exact sound
  case h_1 tables here =>
    obtain ⟨⟨count, serves⟩, calls, kept, removed⟩ := sound
    obtain ⟨fresh, legible⟩ := allowed
    simp only [here] at legible
    obtain ⟨taken, within, exported⟩ := calls _ (List.mem_of_getElem? here)
    have keyed : tables.Keyed := exported ▸ Tables.Keyed.empty.replay _
    have serves' := serves.withSnapshot (snapshotName ulid) (Snapshot.write tables now)
      fun log _ covers => covers.withSnapshot
        (fun current => (covers.holdsSnapshot current).ne_of_fresh fresh rfl) _
    have number : tables.commitSeq.toNat = taken := by
      rw [exported, Tables.commitSeq_after (serves.numbered.take taken),
        List.length_take_of_le within]
    have logged := serves'.rests.logged_eq
    refine ⟨⟨count, logged.symm ▸ serves'⟩, fun other member => ?_, ?_, ?_⟩
    · rcases List.mem_or_eq_of_mem_set member with before | rfl
      · exact (calls other before).congr fun name tables holds =>
          holds.withSnapshot (holds.ne_of_fresh fresh)
      · have holds := Directory.holdsSnapshot_write (isFolder_snapshotName ulid) keyed legible
          scene.files
        exact ⟨taken, within, exported ▸ holds, number⟩
    · simpa only [logged] using kept
    · simpa only [logged] using removed

theorem Sound.mark (sound : scene.Sound) (call : Nat) : (scene.perform (.mark call)).Sound := by
  simp only [perform]
  split
  case h_2 => exact sound
  case h_1 name seq here =>
    obtain ⟨⟨count, serves⟩, calls, kept, removed⟩ := sound
    obtain ⟨taken, within, holds, number⟩ := calls _ (List.mem_of_getElem? here)
    have keeps : (scene.store.markSnapshot name seq).Keeps (fun _ => True) (fun left result =>
        Serves left result.2 scene.history taken scene.files.logged ∧
          left.snapshots = scene.files.snapshots) scene.files :=
      keeps_markSnapshot serves within holds number (fun _ _ => trivial) (fun _ _ => trivial)
        fun left next serves _ same => ⟨serves, same⟩
    obtain ⟨left, result, run, serves', same⟩ := keeps.exists_run
    simp only [run]
    have logged := serves'.rests.logged_eq
    refine ⟨⟨taken, logged.symm ▸ serves'⟩, fun other member => ?_, ?_, ?_⟩
    · exact (calls other (List.mem_of_mem_eraseIdx member)).congr fun _ _ holds => holds.congr same
    · simpa only [logged] using kept
    · simpa only [logged] using removed

/-- A trim of the current snapshot takes records out of the log that the snapshot covers. -/
private theorem trim_run (serves : Serves files store history count files.logged) {name : String}
    (current : store.currentSnapshot? = some name) :
    ∃ left names next, (store.trim name).run Plan.noFault files = (left, names, next) ∧
      Trims count files.logged left.logged ∧ Serves left next history count left.logged ∧
        left.snapshots = files.snapshots := by
  have keeps : (store.trim name).Keeps (fun _ => True) (fun left result =>
      ∃ less, Trims count files.logged less ∧ Serves left result.2 history count less ∧
        left.snapshots = files.snapshots) files :=
    keeps_trim serves (fun log backing => by simpa [Store.currentSnapshot?, backing] using current)
      (fun _ _ _ _ => trivial)
      fun left names next less trims serves _ same => ⟨less, trims, serves, same⟩
  obtain ⟨left, ⟨names, next⟩, run, less, trims, serves', same⟩ := keeps.exists_run
  have logged := serves'.rests.logged_eq
  exact ⟨left, names, next, run, logged.symm ▸ trims, logged.symm ▸ serves', same⟩

theorem Sound.trim (sound : scene.Sound) : (scene.perform .trim).Sound := by
  simp only [perform]
  split
  case h_2 => exact sound
  case h_1 name current =>
    obtain ⟨⟨count, serves⟩, calls, kept, removed⟩ := sound
    obtain ⟨left, names, next, run, trims, serves', same⟩ := trim_run serves current
    simp only [run]
    refine ⟨⟨count, serves'⟩, fun other member => ?_, ?_, ?_⟩
    · exact (calls other member).congr fun _ _ holds => holds.congr same
    · intro record member
      by_cases still : record ∈ left.logged
      · exact .inl still
      · refine .inr (List.mem_append.mpr ((kept record member).symm.imp_right fun before => ?_))
        exact List.mem_filter.mpr ⟨before, decide_eq_true still⟩
    · intro record member
      rcases List.mem_append.mp member with before | now
      · obtain ⟨old, gone⟩ := removed record before
        exact ⟨old, fun again => gone (trims.sublist.subset again)⟩
      · obtain ⟨before, gone⟩ := List.mem_filter.mp now
        exact ⟨serves.logged.subset before, of_decide_eq_true gone⟩

theorem Reached.sound (reached : scene.Reached) : scene.Sound := by
  induction reached with
  | start options opened => exact .start opened
  | @step scene reached event allowed ih =>
      cases event with
      | ask request => exact ih.ask allowed
      | exportTables => exact ih.exportTables
      | writeFile call now ulid => exact ih.writeFile allowed
      | mark call => exact ih.mark call
      | trim => exact ih.trim

end Scene

/-- Nothing is lost when the snapshot covers what trims have removed. -/
theorem Scene.Reached.recovers_of_covered {scene : Scene} (reached : scene.Reached)
    (covered : ∀ record ∈ scene.removed, record.seq.toNat ≤ scene.files.snapshotSeq) :
    recover scene.files = .ok scene.store.tables ∧
      ∀ record ∈ scene.history, record ∉ scene.files.logged →
        record.seq.toNat ≤ scene.files.snapshotSeq := by
  obtain ⟨⟨count, serves⟩, -, kept, -⟩ := reached.sound
  rw [serves.rests.snapshotSeq_eq] at covered ⊢
  have lost : ∀ record ∈ scene.history, record ∉ scene.files.logged → record.seq.toNat ≤ count :=
    fun record member gone => covered record ((kept record member).resolve_left gone)
  refine ⟨?_, lost⟩
  rw [serves.tables]
  refine serves.rests.recover ⟨serves.logged, fun record member newer => ?_⟩
  by_contra gone
  exact Nat.not_lt.mpr (lost record member gone) newer

/-- What is recovered is what was committed, and no commit that the log has lost is newer than the
snapshot of the manifest, exactly as long as the snapshot covers all commits that trims have
removed. -/
theorem interleaved_recovers_iff {scene : Scene} (reached : scene.Reached) :
    (recover scene.files = .ok scene.store.tables ∧
      ∀ record ∈ scene.history, record ∉ scene.files.logged →
        record.seq.toNat ≤ scene.files.snapshotSeq) ↔
      ∀ record ∈ scene.removed, record.seq.toNat ≤ scene.files.snapshotSeq := by
  refine ⟨?_, reached.recovers_of_covered⟩
  rintro ⟨-, covered⟩ record member
  obtain ⟨old, gone⟩ := reached.sound.removed record member
  exact covered record old gone

namespace Scene

/-- Every step of a run is allowed where it is made. -/
def Allows (scene : Scene) : List Event → Prop
  | [] => True
  | event :: rest => event.Allowed scene ∧ (scene.perform event).Allows rest

def run (scene : Scene) (events : List Event) : Scene := events.foldl perform scene

theorem Reached.run {scene : Scene} (reached : scene.Reached) {events : List Event}
    (allowed : scene.Allows events) : (scene.run events).Reached := by
  induction events generalizing scene with
  | nil => exact reached
  | cons event rest ih => exact ih (reached.step event allowed.1) allowed.2

/-- The snapshot that recovery begins with never moves back in a run. -/
def Forward (scene : Scene) : List Event → Prop
  | [] => True
  | event :: rest =>
      scene.files.snapshotSeq ≤ (scene.perform event).files.snapshotSeq ∧
        (scene.perform event).Forward rest

/-- A trim removes what the snapshot covers, and leaves the snapshot as it is. -/
theorem Reached.covered_trim {scene : Scene} (reached : scene.Reached)
    (covered : ∀ record ∈ scene.removed, record.seq.toNat ≤ scene.files.snapshotSeq) :
    ∀ record ∈ (scene.perform .trim).removed,
      record.seq.toNat ≤ (scene.perform .trim).files.snapshotSeq := by
  obtain ⟨count, serves⟩ := reached.sound.serves
  rw [serves.rests.snapshotSeq_eq] at covered
  simp only [perform]
  split
  case h_2 => rwa [serves.rests.snapshotSeq_eq]
  case h_1 name current =>
    obtain ⟨left, names, next, run, trims, serves', -⟩ := trim_run serves current
    simp only [run]
    rw [serves'.rests.snapshotSeq_eq]
    intro record member
    rcases List.mem_append.mp member with before | now
    · exact covered record before
    · obtain ⟨logged, gone⟩ := List.mem_filter.mp now
      by_contra newer
      exact of_decide_eq_true gone (trims.newer record logged (Nat.lt_of_not_le newer))

/-- Removed records stay covered unless the snapshot moves back. -/
theorem Reached.covered_perform {scene : Scene} (reached : scene.Reached) (event : Event)
    (forward : scene.files.snapshotSeq ≤ (scene.perform event).files.snapshotSeq)
    (covered : ∀ record ∈ scene.removed, record.seq.toNat ≤ scene.files.snapshotSeq) :
    ∀ record ∈ (scene.perform event).removed,
      record.seq.toNat ≤ (scene.perform event).files.snapshotSeq := by
  have still (same : (scene.perform event).removed = scene.removed) :
      ∀ record ∈ (scene.perform event).removed,
        record.seq.toNat ≤ (scene.perform event).files.snapshotSeq := fun record member =>
    Nat.le_trans (covered record (same ▸ member)) forward
  cases event with
  | ask request => exact still rfl
  | exportTables => exact still rfl
  | writeFile call now ulid =>
      refine still ?_
      simp only [perform]
      split <;> rfl
  | mark call =>
      refine still ?_
      simp only [perform]
      split <;> rfl
  | trim => exact reached.covered_trim covered

/-- As long as the snapshot never moves back, what is recovered is what was committed. -/
theorem Reached.recovers_of_forward {scene : Scene} (reached : scene.Reached)
    (covered : ∀ record ∈ scene.removed, record.seq.toNat ≤ scene.files.snapshotSeq)
    {events : List Event} (allowed : scene.Allows events) (forward : scene.Forward events) :
    recover (scene.run events).files = .ok (scene.run events).store.tables := by
  induction events generalizing scene with
  | nil => exact (reached.recovers_of_covered covered).1
  | cons event rest ih =>
      exact ih (reached.step event allowed.1) (reached.covered_perform event forward.1 covered)
        allowed.2 forward.2

instance (scene : Scene) : (event : Event) → Decidable (event.Allowed scene)
  | .ask request => inferInstanceAs (Decidable ((Operation.ask request).Legible scene.store.tables))
  | .writeFile call now _ =>
      have : Decidable (match scene.calls[call]? with
          | some (.exported tables) => Snapshot.Legible tables now
          | _ => True) :=
        match scene.calls[call]? with
        | some (.exported tables) => inferInstanceAs (Decidable (Snapshot.Legible tables now))
        | some (.written _ _) | none => .isTrue trivial
      inferInstanceAs (Decidable (_ ∧ _))
  | .exportTables | .mark _ | .trim => .isTrue trivial

instance decidableAllows (scene : Scene) : (events : List Event) → Decidable (scene.Allows events)
  | [] => .isTrue trivial
  | event :: rest =>
      have := decidableAllows (scene.perform event) rest
      inferInstanceAs (Decidable (_ ∧ _))

end Scene

def newSession : Session :=
  match Session.openIn .empty ⟨1, 1, 1⟩ with
  | .ok session => session
  | .error _ => ⟨.empty, .inMemory⟩

theorem openIn_newSession : Session.openIn .empty ⟨1, 1, 1⟩ = .ok newSession := by
  obtain ⟨next, opened, -⟩ := Session.openIn_serves ⟨1, 1, 1⟩ Rests.empty (.refl _ _)
  rw [newSession, opened]

/-- Of two snapshots that are being taken the later one becomes current. -/
def overtaking : List Event :=
  [.ask (.createIndex 1 "books"), .exportTables, .ask (.createIndex 2 "films"), .exportTables,
    .writeFile 0 3 "a", .writeFile 1 3 "b", .mark 1]

def overtaken : Scene := (Scene.start newSession).run overtaking

set_option maxRecDepth 10000 in
theorem overtaken_reached : overtaken.Reached :=
  (Scene.Reached.start _ openIn_newSession).run (by decide +kernel)

/-- The log is trimmed, and nothing is lost. -/
theorem overtaken_trim_recovers :
    (overtaken.perform .trim).Reached ∧
      recover (overtaken.perform .trim).files = .ok (overtaken.perform .trim).store.tables := by
  have reached := overtaken_reached.step .trim trivial
  have nothing : overtaken.removed = [] := rfl
  have covered := overtaken_reached.covered_trim (by rw [nothing]; exact nofun)
  exact ⟨reached, ((interleaved_recovers_iff reached).mpr covered).1⟩

set_option maxRecDepth 10000 in
/-- When the call that was overtaken becomes current after the trim, a commit is lost. -/
theorem overtaken_trim_mark_loses :
    ((overtaken.perform .trim).perform (.mark 0)).Reached ∧
      recover ((overtaken.perform .trim).perform (.mark 0)).files ≠
        .ok ((overtaken.perform .trim).perform (.mark 0)).store.tables :=
  ⟨(overtaken_reached.step .trim trivial).step (.mark 0) trivial, by decide +kernel⟩

end DocStore
