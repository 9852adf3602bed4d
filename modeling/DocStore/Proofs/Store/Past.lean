import DocStore.Proofs.Store.Interleaving
/-!
What a world has committed.

The past of a world is the list of all its commits, through crashes and
reopenings.  The directory retains all of it that the snapshot does not cover
(`Past.rests`).
-/

namespace DocStore

open Log (Record Trims)

variable {files left : Directory} {store : Store} {history : List Record}

theorem Directory.Retains.rests (retains : files.Retains history []) :
    ∃ count records, Trims count history records ∧ Rests files history count records := by
  simpa only [Directory.Retains, List.append_nil] using retains

/-- After a commit that was stopped the directory retains it as well, if its record is in the
log. -/
theorem Session.Serves.retains_stopped {operation : Operation}
    (serves : Session.Serves ⟨files, store⟩ history) (legible : operation.Legible store.tables)
    (leaves : Plan.Leaves files (operation.run store) left) :
    left.Retains
      (history ++ (operation.record? store.tables).toList.filter (· ∈ left.logged)) [] := by
  have keeps := serves.extends legible
  obtain ⟨_, _, _, committed⟩ := keeps.run
  rcases keeps.leaves leaves with before | ⟨count, records, nothingLost, rests⟩
  · obtain ⟨count, records, nothingLost, rests⟩ := before.rests
    have distinct := (List.nodup_append.mp committed.numbered.nodup).2.2
    have absent :
        (operation.record? store.tables).toList.filter (· ∈ left.logged) = [] := by
      refine List.filter_eq_nil_iff.mpr fun record added logged => ?_
      rw [rests.logged_eq, decide_eq_true_eq] at logged
      exact distinct record (rests.logged.subset logged) record added rfl
    rw [absent, List.append_nil]
    exact before
  · have present : (operation.record? store.tables).toList.filter (· ∈ left.logged) =
        (operation.record? store.tables).toList := by
      refine List.filter_eq_self.mpr fun record added => decide_eq_true ?_
      rw [rests.logged_eq]
      exact List.mem_append_right _ added
    rw [present]
    exact rests.retains (nothingLost.append _)

namespace World

/-- The commits of a world in their order.  A commit that was stopped is one of them when its record
is in the log. -/
inductive Past : World → List Record → Prop where
  | start : Past start []
  | opens {files left : Directory} {store : Store} {acknowledged : Tables}
      {stopped : Option Operation} {history : List Record}
      (past : Past ⟨files, none, acknowledged, stopped⟩ history) (options : Log.Options)
      (run : (Store.openIn files options).run Plan.noFault files = (left, .ok store)) :
      Past ⟨left, some store, store.tables, none⟩ history
  | stopsOpening {files left : Directory} {acknowledged : Tables} {stopped : Option Operation}
      {history : List Record} (past : Past ⟨files, none, acknowledged, stopped⟩ history)
      (options : Log.Options) (leaves : Plan.Leaves files (Store.openIn files options) left) :
      Past ⟨left, none, acknowledged, stopped⟩ history
  | performs {files left : Directory} {store next : Store} {acknowledged : Tables}
      {stopped : Option Operation} {history : List Record}
      (past : Past ⟨files, some store, acknowledged, stopped⟩ history) (operation : Operation)
      (legible : operation.Legible acknowledged)
      (run : (operation.run store).run Plan.noFault files = (left, next)) :
      Past ⟨left, some next, operation.apply acknowledged, none⟩
        (history ++ (operation.record? acknowledged).toList)
  | stops {files left : Directory} {store : Store} {acknowledged : Tables}
      {stopped : Option Operation} {history : List Record}
      (past : Past ⟨files, some store, acknowledged, stopped⟩ history) (operation : Operation)
      (legible : operation.Legible acknowledged)
      (leaves : Plan.Leaves files (operation.run store) left) :
      Past ⟨left, none, acknowledged, some operation⟩
        (history ++ (operation.record? acknowledged).toList.filter (· ∈ left.logged))
  | closes {files : Directory} {store : Store} {acknowledged : Tables}
      {stopped : Option Operation} {history : List Record}
      (past : Past ⟨files, some store, acknowledged, stopped⟩ history) :
      Past ⟨files, none, acknowledged, none⟩ history

theorem Reached.exists_past {world : World} (reached : world.Reached) :
    ∃ history, world.Past history := by
  induction reached with
  | start => exact ⟨_, .start⟩
  | next _ next ih =>
      obtain ⟨history, past⟩ := ih
      cases next with
      | opens options run => exact ⟨_, past.opens options run⟩
      | stopsOpening options leaves => exact ⟨_, past.stopsOpening options leaves⟩
      | performs operation legible run => exact ⟨_, past.performs operation legible run⟩
      | stops operation legible leaves => exact ⟨_, past.stops operation legible leaves⟩
      | closes => exact ⟨_, past.closes⟩

/-- The directory retains the commits, and an open store serves the tables after them. -/
inductive Remembers : World → List Record → Prop where
  | opened {files : Directory} {store : Store} {history : List Record}
      (serves : Session.Serves ⟨files, store⟩ history) :
      Remembers ⟨files, some store, store.tables, none⟩ history
  | closed {files : Directory} {acknowledged : Tables} {stopped : Option Operation}
      {history : List Record} (retains : files.Retains history []) :
      Remembers ⟨files, none, acknowledged, stopped⟩ history

theorem Past.remembers {world : World} (past : world.Past history) : world.Remembers history := by
  induction past with
  | start => exact .closed (Rests.empty.retains (.refl _ _))
  | opens _ options run ih =>
      cases ih with
      | closed retains =>
          obtain ⟨count, records, nothingLost, rests⟩ := retains.rests
          obtain ⟨next, opened, serves⟩ := Session.openIn_serves options rests nothingLost
          simp only [Session.openIn, run, Except.ok.injEq] at opened
          exact .opened (opened ▸ serves)
  | @stopsOpening files _ _ _ history _ options leaves ih =>
      cases ih with
      | closed retains =>
          obtain ⟨count, records, nothingLost, rests⟩ := retains.rests
          have keeps : (Store.openIn files options).Keeps (fun left => left.Retains history [])
              (fun _ _ => True) files :=
            keeps_open options rests nothingLost (fun left rests => rests.retains nothingLost)
              fun _ _ _ => trivial
          exact .closed (keeps.leaves leaves)
  | performs _ operation legible run ih =>
      cases ih with
      | opened serves =>
          have committed := (serves.extends legible).run
          rw [run] at committed
          have tables := committed.tables
          rw [Tables.after, Tables.replay_append, ← Tables.after, ← serves.tables,
            ← operation.apply_eq_replay] at tables
          exact tables ▸ .opened committed
  | stops _ operation legible leaves ih =>
      cases ih with
      | opened serves => exact .closed (serves.retains_stopped legible leaves)
  | closes _ ih =>
      cases ih with
      | opened serves => exact .closed serves.retains

theorem Past.rests {world : World} (past : world.Past history) :
    ∃ count records, Trims count history records ∧ Rests world.files history count records := by
  cases past.remembers with
  | opened serves => exact serves.retains.rests
  | closed retains => exact retains.rests

theorem Past.readManifest {world : World} (past : world.Past history)
    (opened : world.store = some store) {backing : Backing}
    (backed : store.backing = some backing) :
    Log.readManifest world.files = .ok (some backing.log.manifest) := by
  cases past.remembers with
  | opened serves =>
      cases opened
      obtain ⟨_, _, _, serves⟩ := serves
      obtain ⟨log, same, ready, -⟩ := serves.log
      cases same.symm.trans backed
      exact Log.readManifest_of_written ready.written
  | closed retains => cases opened

/-- The world of a session in which nobody was told more than the tables of its store. -/
def ofSession (session : Session) : World :=
  ⟨session.files, some session.store, session.store.tables, none⟩

def perform (world : World) (operation : Operation) : World :=
  match world.store with
  | none => world
  | some store =>
      let after := (operation.run store).run Plan.noFault world.files
      ⟨after.1, some after.2, operation.apply world.acknowledged, none⟩

theorem Past.ofSession {session : Session} {options : Log.Options}
    (opened : Session.openIn .empty options = .ok session) : (ofSession session).Past [] := by
  unfold Session.openIn at opened
  split at opened
  · next run =>
      cases opened
      exact Past.start.opens options run
  · cases opened

theorem Past.perform {world : World} {store : Store} (past : world.Past history)
    (opened : world.store = some store) (operation : Operation)
    (legible : operation.Legible world.acknowledged) :
    (world.perform operation).Past
      (history ++ (operation.record? world.acknowledged).toList) := by
  obtain ⟨files, _, acknowledged, stopped⟩ := world
  cases opened
  exact past.performs operation legible rfl

end World

end DocStore
