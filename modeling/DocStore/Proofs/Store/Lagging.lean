import DocStore.Proofs.Log.Lagging
import DocStore.Proofs.Plan.Faults
import DocStore.Proofs.Store.Damage
import DocStore.Proofs.Store.Opening
/-!
Manifests that cannot be written.

Any writing of the manifest may fail while the segments are written, and commits
are acknowledged all the same.  Recovery goes by the manifest that was written
last.  It has all commits exactly if the segments that this manifest does not list
have none yet and its snapshot covers what was trimmed
(`lagging_recovers_iff`).
-/

namespace DocStore

open Log (Record Manifest Numbered Trims Holds Lags Emptied persisted)

variable {files left : Directory} {written manifest : Manifest} {history records told : List Record}
  {later : List String} {bound count covered : Nat} {record : Record} {log : Log.Writer}

/-- What the manifest that was written last tells of a history. -/
structure Trails (files : Directory) (written manifest : Manifest) (later : List String)
    (history : List Record) (bound covered : Nat) (told : List Record) : Prop where
  text : files.manifest = some written.text
  lags : Lags files.content written manifest later history.length bound told
  logged : told.Sublist history
  covers : Covers files written history covered
  below : covered ≤ bound

/-- An open log carries a history, and the manifest that was written last trails behind its own. -/
structure Carries (files : Directory) (manifest : Manifest) (history : List Record) (count : Nat)
    (records : List Record) : Prop where
  numbered : Numbered 1 history
  logged : records.Sublist history
  holds : Holds files.content manifest history.length records
  covers : Covers files manifest history count
  current : ∃ bytes, files.segments.get? manifest.currentSegment = some bytes ∧
    Record.Spells bytes (Log.recordsIn bytes)
  trails : ∃ written later bound covered told,
    Trails files written manifest later history bound covered told

namespace Carries

/-- The manifest is written. -/
theorem persist (carries : Carries files manifest history count records) :
    Carries (persisted files manifest) manifest history count records := by
  obtain ⟨numbered, logged, holds, covers, current, -⟩ := carries
  have covers' : Covers (persisted files manifest) manifest history count :=
    covers.congr ⟨rfl, rfl, rfl⟩
  exact ⟨numbered, logged, holds, covers', current, manifest, [], history.length, count, records,
    rfl, .refl holds, logged, covers', covers.within⟩

/-- The manifest cannot be written. -/
theorem stage (carries : Carries files manifest history count records) (staged : Option String) :
    Carries { files with staged } manifest history count records := by
  obtain ⟨numbered, logged, holds, covers, current, written, later, bound, covered, told, trails⟩ :=
    carries
  exact ⟨numbered, logged, holds, covers.congr ⟨rfl, rfl, rfl⟩, current, written, later, bound,
    covered, told, trails.text, trails.lags, trails.logged, trails.covers.congr ⟨rfl, rfl, rfl⟩,
    trails.below⟩

/-- A plan that goes on alike whether the manifest is written or not. -/
theorem endures_persist {α : Type} {next : Except IoError Unit → Plan α}
    {post : Directory → α → Prop} (carries : Carries files manifest history count records)
    (later : ∀ left outcome, left.content = files.content →
      Carries left manifest history count records →
        (next outcome).Endures Effect.WritesManifest post left) :
    (Log.Writer.persist manifest >>= next).Endures Effect.WritesManifest post files :=
  Plan.endures_persist (later _ _ rfl carries.persist)
    fun staged _ => later _ _ rfl (carries.stage staged)

theorem append (carries : Carries files manifest history count records) (legible : record.Legible)
    (number : record.seq.toNat = history.length + 1) :
    ∃ appended, (Effect.appendSegment manifest.currentSegment record.encode).apply files =
        .ok appended ∧
      Carries appended manifest (history ++ [record]) count (records ++ [record]) := by
  obtain ⟨numbered, logged, holds, covers, ⟨bytes, found, spells⟩, written, later, bound, covered,
    told, text, lags, loggedTold, coversTold, below⟩ := carries
  have content : files.content manifest.currentSegment = bytes := by
    simp [Directory.content, found]
  obtain ⟨appended, append, appendedContent, sameManifest, snapshots, segment⟩ :=
    Log.apply_appendSegment found record.encode
  have spells' := spells.snoc legible
  have grown := Log.recordsIn_of_spells spells'
  rw [← content] at grown
  have length : record.seq.toNat = (history ++ [record]).length := by simpa using number
  have holds' : Holds appended.content manifest (history ++ [record]).length
      (records ++ [record]) := by
    rw [appendedContent, ← length, ← content]
    exact holds.update grown (by omega) (by simp)
  obtain ⟨bound', told', above, tells, lags'⟩ :=
    lags.append grown (by omega) holds.lists_current (grown ▸ content ▸ spells')
  rw [content, ← appendedContent, length] at lags'
  have loggedTold' : told'.Sublist (history ++ [record]) := by
    rcases tells with rfl | rfl
    · exact loggedTold.trans (List.sublist_append_left _ _)
    · exact loggedTold.append (.refl _)
  refine ⟨appended, append, numbered.snoc (by omega), logged.append (.refl _), holds',
    (covers.congr ⟨snapshots, rfl, rfl⟩).snoc record, ⟨_, segment, ?_⟩, written, later, bound',
    covered, told', sameManifest ▸ text, lags', loggedTold',
    (coversTold.congr ⟨snapshots, rfl, rfl⟩).snoc record, by omega⟩
  rw [← content, grown, content]
  exact spells'

/-- Another manifest that lists the same segments and goes on with the same one. -/
theorem change (carries : Carries files manifest history count records) {now : Manifest}
    (holds : Holds files.content now history.length records)
    (lists : ∀ name, now.lists name = manifest.lists name)
    (current : now.currentSegment = manifest.currentSegment) {more : Nat}
    (covers : Covers files now history more) : Carries files now history more records := by
  obtain ⟨numbered, logged, -, -, segment, written, later, bound, covered, told, trails⟩ := carries
  exact ⟨numbered, logged, holds, covers, current ▸ segment, written, later, bound, covered, told,
    trails.text, trails.lags.congr lists current, trails.logged, trails.covers, trails.below⟩

theorem noted (carries : Carries files manifest history count records) {seq : UInt64}
    (known : seq.toNat ≤ history.length) :
    Carries files (Log.Writer.noteBatch manifest seq) history count records :=
  carries.change (carries.holds.noteBatch known) (fun name => manifest.lists_noteBatch seq name) rfl
    (carries.covers.congr ⟨rfl, rfl, rfl⟩)

/-- A new segment begins. -/
theorem rotate (carries : Carries files manifest history count records)
    (rotated : Holds files.content manifest.rotated history.length records)
    (begun : files.content manifest.rotated.currentSegment = []) :
    ∃ created, (Effect.createSegment manifest.rotated.currentSegment).apply files = .ok created ∧
      Carries created manifest.rotated history count records := by
  obtain ⟨numbered, logged, holds, covers, -, written, later, bound, covered, told, trails⟩ :=
    carries
  obtain ⟨older, last, maxSeq, arranged⟩ := rotated.arranged
  obtain ⟨created, create, content, sameManifest, snapshots, exists'⟩ :=
    Log.apply_createSegment files last
  rw [← arranged.current] at create exists'
  have lags := trails.lags.rotated holds.lists_current rotated begun
  rw [← content] at lags rotated
  exact ⟨created, create, numbered, logged, rotated, covers.congr ⟨snapshots, rfl, rfl⟩,
    ⟨[], begun ▸ exists', .nil⟩, written, _, bound, covered, told, sameManifest ▸ trails.text, lags,
    trails.logged, trails.covers.congr ⟨snapshots, rfl, rfl⟩, trails.below⟩

theorem endures_rotate (carries : Carries files log.manifest history count records)
    (rotated : Holds files.content log.manifest.rotated history.length records)
    (begun : files.content log.manifest.rotated.currentSegment = [])
    {post : Directory → Log.Writer → Prop}
    (result : ∀ left next, Carries left next.manifest history count records → post left next) :
    log.rotate.Endures Effect.WritesManifest post files := by
  obtain ⟨created, create, carries'⟩ := carries.rotate rotated begun
  unfold Log.Writer.rotate
  refine Plan.endures_effect create nofun ?_
  exact carries'.endures_persist fun left outcome _ carries'' =>
    Plan.endures_pure (result left _ carries'')

/-- A record is appended and acknowledged, whether the manifest is written or not. -/
theorem endures_appendOne (carries : Carries files log.manifest history count records)
    (legible : record.Legible) (number : record.seq.toNat = history.length + 1)
    {post : Directory → Except IoError Unit × Log.Writer → Prop}
    (result : ∀ left next, Carries left next.manifest (history ++ [record]) count
      (records ++ [record]) → post left (.ok (), next)) :
    (log.appendOne record).Endures Effect.WritesManifest post files := by
  have before := carries.holds.noted
  obtain ⟨appended, append, carries'⟩ := carries.append legible number
  have length : record.seq.toNat = (history ++ [record]).length := by simpa using number
  have noted := carries'.noted (Nat.le_of_eq length)
  obtain ⟨rotated, begun⟩ := carries'.holds.rotated length (by omega)
  rw [Log.appendOne_eq]
  refine .bind (.bind ?_)
  unfold Log.Writer.writeBatch
  simp only [List.flatMap_cons, List.flatMap_nil, List.append_nil, List.map_cons, List.map_nil,
    List.foldl_cons, List.foldl_nil, Log.max_zero_left]
  refine Plan.endures_effect append nofun ?_
  refine noted.endures_persist fun left outcome same carries'' => ?_
  rw [← same] at rotated begun
  split
  · refine .bind ?_
    apply endures_rotate
    case carries => exact carries''
    case rotated => exact rotated
    case begun => exact begun
    case result => exact result
  · exact Plan.endures_pure (result left _ carries'')

theorem withSnapshot (carries : Carries files manifest history count records) {name : String}
    (fresh : files.snapshots.get? name = none) (text : String) :
    Carries (files.withSnapshot name text) manifest history count records := by
  obtain ⟨numbered, logged, holds, covers, current, written, later, bound, covered, told, trails⟩ :=
    carries
  have apart {manifest : Manifest} {count : Nat} (covers : Covers files manifest history count) :
      Covers (files.withSnapshot name text) manifest history count :=
    covers.withSnapshot (fun current => (covers.holdsSnapshot current).ne_of_fresh fresh rfl) text
  exact ⟨numbered, logged, holds, apart covers, current, written, later, bound, covered, told,
    trails.text, trails.lags, trails.logged, apart trails.covers, trails.below⟩

/-- The snapshot of all commits becomes current, in memory at least. -/
theorem endures_setSnapshot (carries : Carries files log.manifest history count records)
    {name : String} {seq : UInt64} (holds : files.HoldsSnapshot name (.after history))
    (number : seq.toNat = history.length)
    {post : Directory → Except IoError Unit × Log.Writer → Prop}
    (result : ∀ left outcome next, Carries left next.manifest history history.length records →
      post left (outcome, next)) :
    (log.setSnapshot name seq).Endures Effect.WritesManifest post files := by
  have covers : Covers files (log.manifest.marked name seq) history history.length :=
    .marked (Nat.le_refl _) (by rwa [List.take_length]) number
  have marked := carries.change (carries.holds.marked name seq) (fun _ => rfl) rfl covers
  change (Log.Writer.persist (log.manifest.marked name seq) >>= fun outcome =>
    pure (outcome, { log with manifest := log.manifest.marked name seq })).Endures _ post files
  exact marked.endures_persist fun left outcome _ carries' =>
    Plan.endures_pure (result left outcome _ carries')

/-- Segments that the snapshot covers are removed and no longer listed. -/
theorem trim (carries : Carries files manifest history count records)
    (emptied : Emptied files (Log.coveredNames manifest) left) :
    ∃ less, Trims count records less ∧ Carries left manifest.trimmed history count less := by
  obtain ⟨numbered, logged, holds, covers, ⟨bytes, found, spells⟩, written, later, bound, covered,
    told, text, lags, loggedTold, coversTold, below⟩ := carries
  obtain ⟨fewer, first, holds'⟩ := holds.emptied fun name member => Log.mem_coveredNames.mp member
  obtain ⟨less, second, trimmed⟩ := holds'.trimmed
  obtain ⟨told', fewerTold, lags'⟩ := lags.emptied (Log.coveredNames manifest)
  have lags'' := lags'.trimmed fun segment member covered =>
    if_pos (Log.mem_coveredNames.mpr ⟨segment, member, rfl, covered⟩)
  rw [← emptied.content] at trimmed lags''
  have kept : manifest.currentSegment ∉ Log.coveredNames manifest := by
    intro member
    obtain ⟨segment, -, name, covered⟩ := Log.mem_coveredNames.mp member
    simp [Log.Writer.isCovered, name] at covered
  have segment : left.segments.get? manifest.currentSegment = some bytes := by
    rw [emptied.others _ kept, found]
  have trims := (first.trans second).mono covers.bookmark
  exact ⟨less, trims, numbered, trims.sublist.trans logged, trimmed,
    covers.congr ⟨emptied.snapshots, rfl, rfl⟩, ⟨bytes, segment, spells⟩, written, later, bound,
    covered, told', emptied.written ▸ text, lags'', fewerTold.trans loggedTold,
    coversTold.congr ⟨emptied.snapshots, rfl, rfl⟩, below⟩

theorem endures_removeAll {start : Directory} {segments : List Log.SegmentInfo}
    {names : List String} (emptied : Emptied start names files) {post : Directory → Unit → Prop}
    (result : ∀ left, Emptied start (names ++ segments.map Log.SegmentInfo.name) left →
      post left ()) :
    (Log.Writer.removeAll segments).Endures Effect.WritesManifest post files := by
  induction segments generalizing files names with
  | nil => exact Plan.endures_pure (result files (by simpa using emptied))
  | cons segment rest ih =>
      refine Plan.endures_effect_ignored nofun fun _ => ih (emptied.remove segment.name) ?_
      simpa using result

/-- The segments that the current snapshot covers are removed, whether the manifest is written or
not. -/
theorem endures_trim (carries : Carries files log.manifest history count records) {name : String}
    (current : log.manifest.currentSnapshot = some name)
    {post : Directory → Except IoError (List String) × Log.Writer → Prop}
    (result : ∀ left outcome next less, Trims count records less →
      Carries left next.manifest history count less → post left (outcome, next)) :
    (log.trim name).Endures Effect.WritesManifest post files := by
  unfold Log.Writer.trim
  dsimp only
  rw [if_neg (not_not_intro current)]
  refine .bind (endures_removeAll (Emptied.refl files) fun left emptied => ?_)
  rw [List.nil_append] at emptied
  obtain ⟨less, trims, carries'⟩ := carries.trim emptied
  change (Log.Writer.persist log.manifest.trimmed >>= _).Endures _ post left
  refine carries'.endures_persist fun left outcome _ carries'' => ?_
  cases outcome with
  | ok => exact Plan.endures_pure (result left _ _ less trims carries'')
  | error => exact Plan.endures_pure (result left _ _ less trims carries'')

end Carries

/-- The directory without some of its segments. -/
def Directory.blanked (files : Directory) (names : List String) : Directory :=
  { files with segments := files.segments.filter fun name _ => decide (name ∉ names) }

theorem Directory.content_blanked (files : Directory) (names : List String) :
    (files.blanked names).content = Log.emptied files.content names := by
  funext name
  simp only [content, blanked, SortedMap.get?_filter, Log.emptied]
  by_cases member : name ∈ names <;> cases files.segments.get? name <;> simp [Option.filter, member]

namespace Trails

/-- Segments that the written manifest does not list are not read. -/
theorem replay_blanked (trails : Trails files written manifest later history bound covered told) :
    Log.replay (files.blanked later) = Log.replay files := by
  have read := Log.readManifest_of_written trails.text
  have read' : Log.readManifest (files.blanked later) = .ok (some written) := read
  rw [Log.replay_of_read read, Log.replay_of_read read']
  refine congrArg Except.ok (List.flatMap_congr fun segment member => ?_)
  refine Log.segmentRecords_congr ?_
  have kept : segment.name ∉ later := fun among => by
    have unlisted := trails.lags.unlisted _ among
    have listed : written.lists segment.name = true :=
      Manifest.lists_iff.mpr ⟨segment, member, rfl⟩
    simp [listed] at unlisted
  rw [files.content_blanked, Log.emptied, if_neg kept]

theorem recover_blanked (trails : Trails files written manifest later history bound covered told) :
    recover (files.blanked later) = recover files := by
  unfold recover
  rw [trails.replay_blanked]
  rfl

theorem rests_blanked (trails : Trails files written manifest later history bound covered told)
    (numbered : Numbered 1 history) : Rests (files.blanked later) history covered told := by
  have holds := trails.lags.told.mono trails.lags.within
  rw [← files.content_blanked] at holds
  exact ⟨numbered, trails.logged, written, ⟨.inl trails.text, holds⟩,
    trails.covers.congr ⟨rfl, rfl, rfl⟩⟩

theorem snapshotSeq_eq (trails : Trails files written manifest later history bound covered told)
    (numbered : Numbered 1 history) : files.snapshotSeq = covered :=
  (trails.rests_blanked numbered).snapshotSeq_eq

theorem applied_eq (trails : Trails files written manifest later history bound covered told)
    (numbered : Numbered 1 history) :
    files.applied = told.filter fun record => covered < record.seq.toNat := by
  have logged : files.logged = (files.blanked later).logged := by
    rw [Directory.logged, Directory.logged, trails.replay_blanked]
  rw [Directory.applied, logged, (trails.rests_blanked numbered).logged_eq,
    trails.snapshotSeq_eq numbered]

theorem recover (trails : Trails files written manifest later history bound covered told)
    (numbered : Numbered 1 history) :
    DocStore.recover files =
      .ok ((Tables.after (history.take files.snapshotSeq)).replay files.applied) := by
  have rests := trails.rests_blanked numbered
  rw [← trails.recover_blanked, rests.recover_applied, rests.applied_eq,
    trails.applied_eq numbered, trails.snapshotSeq_eq numbered]

end Trails

/-- An open store, all its commits, and the commits whose records trims have removed. -/
structure Course where
  files : Directory
  store : Store
  history : List Record
  removed : List Record

namespace Course

def ofSession (session : Session) (history : List Record) : Course :=
  ⟨session.files, session.store, history, history.filter (· ∉ session.files.logged)⟩

/-- The records in the segments of the open log. -/
def stored (files : Directory) (store : Store) : List Record :=
  match store.backing with
  | some backing => Log.listed files.content backing.log.manifest
  | none => []

/-- The segments of the open log that the written manifest does not list. -/
def unlisted (course : Course) : List Log.SegmentInfo :=
  match Log.readManifest course.files, course.store.backing with
  | .ok (some written), some backing =>
      backing.log.manifest.segments.filter fun segment => !written.lists segment.name
  | _, _ => []

/-- All segments with records are listed in the written manifest, and its snapshot covers all that
was removed. -/
structure NothingLost (course : Course) : Prop where
  listed : ∀ segment ∈ course.unlisted, Log.recordsIn (course.files.content segment.name) = []
  covered : ∀ record ∈ course.removed, record.seq.toNat ≤ course.files.snapshotSeq

/-- What may happen to an open store on a device where any writing of the manifest may fail.  It is
opened again while nothing is lost. -/
inductive Next : Course → Course → Prop where
  | commits {files left : Directory} {store next : Store} {history removed : List Record}
      {now : Int64} {transaction : Transaction} {seq : UInt64}
      (committable : transaction.Committable now store.tables)
      (ends : Plan.Ends Effect.WritesManifest files (store.commit now transaction) left
        (.ok seq, next)) :
      Next ⟨files, store, history, removed⟩
        ⟨left, next, history ++ (transaction.record? now).toList, removed⟩
  | snapshots {files left : Directory} {store next : Store} {history removed : List Record}
      {now : Int64} {ulid : String} {outcome : Except StoreError (String × UInt64)}
      (fresh : files.snapshots.get? (snapshotName ulid) = none)
      (legible : Snapshot.Legible store.tables now)
      (ends : Plan.Ends Effect.WritesManifest files (store.snapshot now (snapshotName ulid)) left
        (outcome, next)) :
      Next ⟨files, store, history, removed⟩ ⟨left, next, history, removed⟩
  | trims {files left : Directory} {store next : Store} {history removed : List Record}
      {name : String} {outcome : Except StoreError (List String)}
      (ends : Plan.Ends Effect.WritesManifest files (store.trim name) left (outcome, next)) :
      Next ⟨files, store, history, removed⟩
        ⟨left, next, history,
          removed ++ (stored files store).filter (· ∉ stored left next)⟩
  | reopens {course : Course} {session : Session} {options : Log.Options}
      (nothingLost : course.NothingLost)
      (opened : Session.openIn course.files options = .ok session) :
      Next course (ofSession session course.history)

inductive Reached : Course → Prop where
  | start {files : Directory} {store : Store} {tables : Tables} {history : List Record}
      (past : World.Past ⟨files, some store, tables, none⟩ history) :
      Reached (ofSession ⟨files, store⟩ history)
  | next {course after : Course} (reached : Reached course) (next : Next course after) :
      Reached after

variable {course after : Course}

/-- The log carries the commits of the store, and what it lost of them was trimmed. -/
structure Stands (course : Course) (log : Log.Writer) (count : Nat) (records : List Record) :
    Prop where
  backing : course.store.backing = some ⟨log, false⟩
  tables : course.store.tables = .after course.history
  carries : Carries course.files log.manifest course.history count records
  each : ∀ record ∈ course.history, record ∈ records ∨ record ∈ course.removed
  apart : ∀ record ∈ course.removed, record ∉ records
  old : ∀ record ∈ course.removed, record ∈ course.history ∧ record.seq.toNat ≤ count

def Sound (course : Course) : Prop := ∃ log count records, course.Stands log count records

namespace Stands

theorem stored_eq (stands : course.Stands log count records) :
    stored course.files course.store = records := by
  rw [stored, stands.backing]
  exact stands.carries.holds.held

theorem mem_unlisted (stands : course.Stands log count records)
    (text : course.files.manifest = some written.text) {segment : Log.SegmentInfo} :
    segment ∈ course.unlisted ↔
      segment ∈ log.manifest.segments ∧ written.lists segment.name = false := by
  rw [unlisted, Log.readManifest_of_written text, stands.backing]
  simp

end Stands

theorem sound_ofSession {session : Session} (serves : session.Serves history) :
    (ofSession session history).Sound := by
  obtain ⟨count, records, nothingLost, serves⟩ := serves
  have logged := serves.rests.logged_eq
  obtain ⟨log, backing, ready, backs⟩ := serves.exists_backs
  have carries : Carries session.files log.manifest history count records :=
    ⟨backs.numbered, backs.logged, ready.holds, backs.covers, ready.current, log.manifest, [],
      history.length, count, records, ready.written, .refl ready.holds, backs.logged, backs.covers,
      backs.covers.within⟩
  have removed {record : Record} : record ∈ (ofSession session history).removed ↔
      record ∈ history ∧ record ∉ records := by
    simp [ofSession, logged]
  refine ⟨log, count, records, backing, serves.tables, carries, ?_, ?_, ?_⟩
  · intro record member
    by_cases kept : record ∈ records
    · exact .inl kept
    · exact .inr (removed.mpr ⟨member, kept⟩)
  · exact fun record member => (removed.mp member).2
  · intro record member
    obtain ⟨inHistory, gone⟩ := removed.mp member
    refine ⟨inHistory, Nat.le_of_not_lt fun newer => gone ?_⟩
    exact nothingLost.newer record inHistory newer

namespace Stands

variable {now : Int64} {transaction : Transaction}

/-- A commit is acknowledged, whether the manifest is written or not. -/
theorem endures_commit (stands : course.Stands log count records)
    (committable : transaction.Committable now course.store.tables) :
    (course.store.commit now transaction).Endures Effect.WritesManifest (fun left result =>
      result.1 = .ok transaction.committedSeq ∧
        Sound ⟨left, result.2, course.history ++ (transaction.record? now).toList,
          course.removed⟩) course.files := by
  obtain ⟨backing, tables, carries, each, apart, old⟩ := stands
  obtain ⟨begun, legible, room⟩ := committable
  by_cases unchanged : transaction.mutations = []
  · rw [Store.commit_unchanged _ unchanged, Transaction.record?_of_unchanged unchanged,
      Option.toList_none, List.append_nil, Transaction.committedSeq,
      if_pos (by simpa using unchanged), begun]
    exact Plan.endures_pure ⟨rfl, log, count, records, backing, tables, carries, each, apart, old⟩
  · have committed : transaction.committedSeq = transaction.nextSeq :=
      if_neg (by simpa using unchanged)
    have some := Transaction.record?_of_changes unchanged now
    have number : (transaction.record now).seq.toNat = course.history.length + 1 := by
      rw [Transaction.seq_record (begun ▸ room unchanged), begun, tables,
        Tables.commitSeq_after carries.numbered]
    rw [some, Option.toList_some, committed, Store.commit, if_neg (by simpa using unchanged)]
    simp only [backing, Bool.false_eq_true, if_false]
    refine .bind (carries.endures_appendOne (legible _ some) number fun left next carries' => ?_)
    refine Plan.endures_pure ⟨rfl, next, count, _, rfl,
      Transaction.apply_eq_after (begun.trans tables) unchanged now, carries', ?_, ?_, ?_⟩
    · intro record member
      rcases List.mem_append.mp member with before | now
      · exact (each record before).imp_left (List.mem_append_left _)
      · exact .inl (List.mem_append_right _ now)
    · intro record member kept
      rcases List.mem_append.mp kept with before | now
      · exact apart record member before
      · have within := carries.covers.within
        obtain ⟨-, below⟩ := old record member
        rw [List.mem_singleton.mp now, number] at below
        omega
    · intro record member
      obtain ⟨inHistory, below⟩ := old record member
      exact ⟨List.mem_append_left _ inHistory, below⟩

theorem endures_snapshot (stands : course.Stands log count records) {ulid : String}
    (fresh : course.files.snapshots.get? (snapshotName ulid) = none)
    (legible : Snapshot.Legible course.store.tables now) :
    (course.store.snapshot now (snapshotName ulid)).Endures Effect.WritesManifest
      (fun left result => Sound ⟨left, result.2, course.history, course.removed⟩) course.files := by
  obtain ⟨backing, tables, carries, each, apart, old⟩ := stands
  have keyed : course.store.tables.Keyed := tables ▸ Tables.Keyed.empty.replay _
  have holds := Directory.holdsSnapshot_write (isFolder_snapshotName ulid) keyed legible
    course.files
  have number : course.store.tables.commitSeq.toNat = course.history.length := by
    rw [tables, Tables.commitSeq_after carries.numbered]
  have sound {left : Directory} {next : Log.Writer}
      (carries' : Carries left next.manifest course.history course.history.length records) :
      Sound ⟨left, ⟨course.store.tables, some ⟨next, false⟩⟩, course.history, course.removed⟩ := by
    refine ⟨next, course.history.length, records, rfl, tables, carries', each, apart, ?_⟩
    intro record member
    obtain ⟨inHistory, below⟩ := old record member
    exact ⟨inHistory, Nat.le_trans below carries.covers.within⟩
  rw [Store.snapshot_eq backing]
  refine Plan.endures_effect rfl nofun ?_
  change (course.store.markSnapshot _ _).Endures _ _
    (course.files.withSnapshot (snapshotName ulid) (Snapshot.write course.store.tables now))
  unfold Store.markSnapshot
  simp only [backing]
  refine .bind ((carries.withSnapshot fresh _).endures_setSnapshot (tables ▸ holds) number ?_)
  intro left outcome next carries'
  cases outcome with
  | ok => exact Plan.endures_pure (sound carries')
  | error => exact Plan.endures_pure (sound carries')

theorem endures_trim (stands : course.Stands log count records) (name : String) :
    (course.store.trim name).Endures Effect.WritesManifest (fun left result =>
      Sound ⟨left, result.2, course.history, course.removed ++
        (stored course.files course.store).filter (· ∉ stored left result.2)⟩) course.files := by
  rw [stands.stored_eq]
  obtain ⟨backing, tables, carries, each, apart, old⟩ := stands
  have sound {left : Directory} {next : Store} {log : Log.Writer} {less : List Record}
      (trims : Trims count records less) (backing' : next.backing = some ⟨log, false⟩)
      (tables' : next.tables = course.store.tables)
      (carries' : Carries left log.manifest course.history count less) :
      Sound ⟨left, next, course.history,
        course.removed ++ records.filter (· ∉ stored left next)⟩ := by
    have stored : stored left next = less := by
      rw [stored, backing']
      exact carries'.holds.held
    have removed {record : Record} :
        record ∈ course.removed ++ records.filter (· ∉ less) ↔
          record ∈ course.removed ∨ record ∈ records ∧ record ∉ less := by
      simp
    rw [stored]
    refine ⟨log, count, less, backing', tables'.trans tables, carries', ?_, ?_, ?_⟩
    · intro record member
      by_cases kept : record ∈ less
      · exact .inl kept
      · exact .inr (removed.mpr ((each record member).symm.imp_right fun had => ⟨had, kept⟩))
    · intro record member kept
      rcases removed.mp member with before | now
      · exact apart record before (trims.sublist.subset kept)
      · exact now.2 kept
    · intro record member
      rcases removed.mp member with before | ⟨had, gone⟩
      · exact old record before
      · refine ⟨carries.logged.subset had, Nat.le_of_not_lt fun newer => gone ?_⟩
        exact trims.newer record had newer
  by_cases current : log.manifest.currentSnapshot = some name
  · unfold Store.trim
    simp only [backing]
    refine .bind (carries.endures_trim current fun left outcome next less trims carries' => ?_)
    split <;> exact Plan.endures_pure (sound trims rfl rfl carries')
  · rw [Store.trim_other backing current]
    exact Plan.endures_pure (sound (.refl _ _) backing rfl carries)

/-- Records that the written manifest does not tell of are in segments that it does not list. -/
theorem told_or_unlisted (stands : course.Stands log count records)
    (trails : Trails course.files written log.manifest later course.history bound covered told)
    (held : record ∈ records) :
    record ∈ told ∨ ∃ segment ∈ course.unlisted,
      record ∈ Log.recordsIn (course.files.content segment.name) := by
  rw [← stands.carries.holds.held] at held
  refine (trails.lags.told_or_later held).imp_right ?_
  rintro ⟨segment, among, new, inside⟩
  exact ⟨segment, (stands.mem_unlisted trails.text).mpr ⟨among, trails.lags.unlisted _ new⟩, inside⟩

/-- What recovery finds when nothing is lost. -/
theorem rests (stands : course.Stands log count records) (nothingLost : course.NothingLost) :
    ∃ covered told, Trims covered course.history told ∧
      Rests course.files course.history covered told := by
  have numbered := stands.carries.numbered
  obtain ⟨written, later, bound, covered, told, trails⟩ := stands.carries.trails
  have whole : Log.emptied course.files.content later = course.files.content :=
    trails.lags.emptied_eq fun segment member unlisted =>
      nothingLost.listed segment ((stands.mem_unlisted trails.text).mpr ⟨member, unlisted⟩)
  have holds := trails.lags.told.mono trails.lags.within
  rw [whole] at holds
  refine ⟨covered, told, ⟨trails.logged, fun record member newer => ?_⟩, numbered, trails.logged,
    written, ⟨.inl trails.text, holds⟩, trails.covers⟩
  rcases stands.each record member with held | removed
  · refine (stands.told_or_unlisted trails held).resolve_right ?_
    rintro ⟨segment, unlisted, inside⟩
    rw [nothingLost.listed segment unlisted] at inside
    cases inside
  · have old := nothingLost.covered record removed
    rw [trails.snapshotSeq_eq numbered] at old
    omega

/-- Every commit is in the snapshot or applied exactly if nothing is lost. -/
theorem found_iff (stands : course.Stands log count records) :
    (∀ record ∈ course.history,
        record.seq.toNat ≤ course.files.snapshotSeq ∨ record ∈ course.files.applied) ↔
      course.NothingLost := by
  have numbered := stands.carries.numbered
  obtain ⟨written, later, bound, covered, told, trails⟩ := stands.carries.trails
  constructor
  · intro found
    rw [trails.snapshotSeq_eq numbered, trails.applied_eq numbered] at found
    constructor
    · -- A record of such a segment is newer than all that the written manifest tells of.
      intro segment unlisted
      obtain ⟨member, absent⟩ := (stands.mem_unlisted trails.text).mp unlisted
      have known := trails.lags.listed _ (Manifest.lists_iff.mpr ⟨segment, member, rfl⟩)
      have new := known.resolve_left (by simp [absent])
      refine List.eq_nil_iff_forall_not_mem.mpr fun record inside => ?_
      have held : record ∈ records := by
        rw [← stands.carries.holds.held]
        exact List.mem_flatMap.mpr ⟨segment, member, inside⟩
      have newer := trails.lags.newer _ new record inside
      have below := trails.below
      rcases found record (stands.carries.logged.subset held) with old | applied
      · omega
      · have := trails.lags.told.numbered record (List.mem_filter.mp applied).1
        omega
    · intro record removed
      rw [trails.snapshotSeq_eq numbered]
      refine (found record (stands.old record removed).1).resolve_right fun applied => ?_
      have held := trails.lags.told_subset (List.mem_filter.mp applied).1
      rw [stands.carries.holds.held] at held
      exact stands.apart record removed held
  · intro nothingLost record member
    obtain ⟨covered, told, trims, rests⟩ := stands.rests nothingLost
    rw [rests.snapshotSeq_eq, rests.applied_eq, List.mem_filter, decide_eq_true_eq]
    by_cases old : record.seq.toNat ≤ covered
    · exact .inl old
    · exact .inr ⟨trims.newer record member (Nat.lt_of_not_le old), Nat.lt_of_not_le old⟩

/-- A manifest that is written in the end makes up for all that were not. -/
theorem nothingLost_of_written (stands : course.Stands log count records)
    (read : Log.readManifest course.files = .ok (some log.manifest)) : course.NothingLost := by
  obtain ⟨written, later, bound, covered, told, trails⟩ := stands.carries.trails
  obtain rfl : written = log.manifest := by
    have both := (Log.readManifest_of_written trails.text).symm.trans read
    simpa using both
  constructor
  · intro segment unlisted
    obtain ⟨member, absent⟩ := (stands.mem_unlisted trails.text).mp unlisted
    have listed : log.manifest.lists segment.name = true :=
      Manifest.lists_iff.mpr ⟨segment, member, rfl⟩
    simp [listed] at absent
  · intro record removed
    have same : course.files.snapshotSeq = count := by
      have stands' : Log.Stands course.files log.manifest course.history.length records :=
        ⟨.inl trails.text, stands.carries.holds⟩
      exact Rests.snapshotSeq_eq ⟨stands.carries.numbered, stands.carries.logged, _, stands',
        stands.carries.covers⟩
    rw [same]
    exact (stands.old record removed).2

end Stands

theorem Reached.sound (reached : course.Reached) : course.Sound := by
  induction reached with
  | start past =>
      cases past.remembers with
      | opened serves => exact sound_ofSession serves
  | next _ next ih =>
      obtain ⟨log, count, records, stands⟩ := ih
      cases next with
      | commits committable ends => exact ((stands.endures_commit committable).ends ends).2
      | snapshots fresh legible ends => exact (stands.endures_snapshot fresh legible).ends ends
      | trims ends => exact (stands.endures_trim _).ends ends
      | @reopens _ _ options nothingLost opened =>
          obtain ⟨covered, told, trims, rests⟩ := stands.rests nothingLost
          obtain ⟨session, opened', serves⟩ := Session.openIn_serves options rests trims
          cases opened.symm.trans opened'
          exact sound_ofSession serves

end Course

/-- Every commit is acknowledged, whether its manifest is written or not.  Recovery gives the
snapshot of the written manifest with the newer records of the segments that it lists.  All commits
are among these exactly if nothing is lost, and then a store that is opened again has the same
tables.  Nothing is lost once the manifest was written. -/
theorem lagging_recovers_iff {course : Course} (reached : course.Reached) :
    (∀ (transaction : Transaction) (now : Int64), transaction.Committable now course.store.tables →
      ∀ left result,
        Plan.Ends Effect.WritesManifest course.files (course.store.commit now transaction) left
          result → result.1 = .ok transaction.committedSeq) ∧
      recover course.files =
        .ok ((Tables.after (course.history.take course.files.snapshotSeq)).replay
          course.files.applied) ∧
      ((∀ record ∈ course.history,
          record.seq.toNat ≤ course.files.snapshotSeq ∨ record ∈ course.files.applied) ↔
        course.NothingLost) ∧
      (course.NothingLost → recover course.files = .ok course.store.tables ∧
        ∀ options, ∃ next, Session.openIn course.files options = .ok next ∧
          next.store.tables = course.store.tables) ∧
      ∀ backing ∈ course.store.backing,
        Log.readManifest course.files = .ok (some backing.log.manifest) → course.NothingLost := by
  obtain ⟨log, count, records, stands⟩ := reached.sound
  refine ⟨?_, ?_, stands.found_iff, fun nothingLost => ?_, ?_⟩
  · intro transaction now committable left result ends
    exact ((stands.endures_commit committable).ends ends).1
  · obtain ⟨written, later, bound, covered, told, trails⟩ := stands.carries.trails
    exact trails.recover stands.carries.numbered
  · obtain ⟨covered, told, trims, rests⟩ := stands.rests nothingLost
    refine ⟨by rw [rests.recover trims, stands.tables], fun options => ?_⟩
    obtain ⟨next, opened, serves⟩ := Session.openIn_serves options rests trims
    exact ⟨next, opened, serves.tables.trans stands.tables.symm⟩
  · intro backing same read
    cases stands.backing.symm.trans same
    exact stands.nothingLost_of_written read

namespace Course

def commit (course : Course) (fault : Effect → Option Plan.Failure) (now : Int64)
    (transaction : Transaction) : Course :=
  let (left, _, next) := (course.store.commit now transaction).run fault course.files
  ⟨left, next, course.history ++ (transaction.record? now).toList, course.removed⟩

def snapshot (course : Course) (fault : Effect → Option Plan.Failure) (now : Int64)
    (ulid : String) : Course :=
  let (left, _, next) := (course.store.snapshot now (snapshotName ulid)).run fault course.files
  ⟨left, next, course.history, course.removed⟩

variable {course : Course} {fault : Effect → Option Plan.Failure}
  (may : ∀ change failure, fault change = some failure → change.WritesManifest)
include may

private theorem ends_run {α : Type} (plan : Plan α) (files : Directory) :
    Plan.Ends Effect.WritesManifest files plan (plan.run fault files).1
      (plan.run fault files).2 := by
  refine Plan.ends_run may (fun name bytes => ?_) plan files
  exact Option.eq_none_iff_forall_ne_some.mpr fun failure fails => may _ failure fails

theorem Reached.commit (reached : course.Reached) {transaction : Transaction} {now : Int64}
    (committable : transaction.Committable now course.store.tables) :
    (course.commit fault now transaction).Reached := by
  obtain ⟨log, count, records, stands⟩ := reached.sound
  have ends := ends_run may (course.store.commit now transaction) course.files
  obtain ⟨files, store, history, removed⟩ := course
  have acknowledged := ((stands.endures_commit committable).ends ends).1
  unfold Course.commit
  generalize (store.commit now transaction).run fault files = result at ends acknowledged ⊢
  obtain ⟨left, outcome, next⟩ := result
  cases acknowledged
  exact reached.next (.commits committable ends)

theorem Reached.snapshot (reached : course.Reached) {ulid : String} {now : Int64}
    (fresh : course.files.snapshots.get? (snapshotName ulid) = none)
    (legible : Snapshot.Legible course.store.tables now) :
    (course.snapshot fault now ulid).Reached := by
  have ends := ends_run may (course.store.snapshot now (snapshotName ulid)) course.files
  obtain ⟨files, store, history, removed⟩ := course
  exact reached.next (.snapshots fresh legible ends)

end Course

/-- No manifest can be staged. -/
def unstaged : Effect → Option Plan.Failure
  | .stageManifest _ => some ⟨.noSpace, 0⟩
  | _ => none

theorem writesManifest_of_unstaged (change : Effect) (failure : Plan.Failure)
    (fails : unstaged change = some failure) : change.WritesManifest := by
  cases change with
  | stageManifest => trivial
  | _ => cases fails

/-- Two commits, each in a segment of its own, while no manifest can be staged. -/
def unlistedFilms : Course :=
  let books := (Course.ofSession newSession []).commit unstaged 1 createBooks
  books.commit unstaged 2 (createFilms books.store.tables)

theorem unlistedFilms_reached : unlistedFilms.Reached := by
  have start : (Course.ofSession newSession []).Reached :=
    .start (World.Past.ofSession openIn_newSession)
  have books : ((Course.ofSession newSession []).commit unstaged 1 createBooks).Reached :=
    start.commit writesManifest_of_unstaged
      ⟨by decide +kernel, by decide +kernel, fun _ => by decide +kernel⟩
  exact books.commit writesManifest_of_unstaged
    ⟨rfl, by decide +kernel, fun _ => by decide +kernel⟩

/-- The manifest is written with a snapshot, and then nothing is lost. -/
theorem unlistedFilms_snapshot_recovers :
    (unlistedFilms.snapshot Plan.noFault 3 "a").Reached ∧
      recover (unlistedFilms.snapshot Plan.noFault 3 "a").files =
        .ok (unlistedFilms.snapshot Plan.noFault 3 "a").store.tables := by
  have reached : (unlistedFilms.snapshot Plan.noFault 3 "a").Reached :=
    unlistedFilms_reached.snapshot (fun _ _ fails => by cases fails) (by decide +kernel)
      (by decide +kernel)
  obtain ⟨-, -, -, recovers, written⟩ := lagging_recovers_iff reached
  obtain ⟨backing, same, text⟩ :
      ∃ backing, (unlistedFilms.snapshot Plan.noFault 3 "a").store.backing = some backing ∧
        (unlistedFilms.snapshot Plan.noFault 3 "a").files.manifest =
          some backing.log.manifest.text := ⟨_, rfl, rfl⟩
  exact ⟨reached, (recovers (written backing same (Log.readManifest_of_written text))).1⟩

set_option maxRecDepth 10000 in
/-- The second commit was acknowledged and is not recovered. -/
theorem unlistedFilms_loses :
    unlistedFilms.Reached ∧
      recover unlistedFilms.files = .ok (.after (unlistedFilms.history.take 1)) ∧
      ∃ record ∈ unlistedFilms.history,
        ¬ record.seq.toNat ≤ unlistedFilms.files.snapshotSeq ∧
          record ∉ unlistedFilms.files.applied :=
  ⟨unlistedFilms_reached, by decide +kernel⟩

end DocStore
