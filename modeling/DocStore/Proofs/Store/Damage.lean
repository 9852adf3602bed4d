import DocStore.Proofs.Log.Damage
import DocStore.Proofs.Store.Past
/-!
Recovery after damage.

Replaying ends a damaged segment where it no longer reads and goes on with the
next one.  So recovery never fails over a damaged segment, but it gives the tables
after the first commits of the history only if nothing was lost that the snapshot
does not cover, or if no later segment has records
(`damaged_recovers_prefix_iff`).
-/

namespace DocStore

open Log (Record Manifest SegmentInfo Stands Damages Numbered Trims)

variable {files left : Directory} {history records kept lost later : List Record} {count : Nat}
  {manifest : Manifest} {older newer : List SegmentInfo} {damaged : SegmentInfo}

/-- The records that recovery applies: those of the log that the snapshot does not cover. -/
def Directory.applied (files : Directory) : List Record :=
  files.logged.filter fun record => files.snapshotSeq < record.seq.toNat

/-- Recovery gives the tables after the first commits of a history: of these it applies all that the
snapshot does not cover, and no others. -/
def Directory.RecoversPrefix (files : Directory) (history : List Record) : Prop :=
  ∃ length, files.snapshotSeq ≤ length ∧ length ≤ history.length ∧
    recover files = .ok (.after (history.take length)) ∧
      files.applied = (history.take length).drop files.snapshotSeq

theorem Rests.applied_eq (rests : Rests files history count records) :
    files.applied = records.filter fun record => count < record.seq.toNat := by
  rw [Directory.applied, rests.logged_eq, rests.snapshotSeq_eq]

theorem Rests.recover_applied (rests : Rests files history count records) :
    DocStore.recover files = .ok ((Tables.after (history.take count)).replay files.applied) := by
  obtain ⟨manifest, stands, covers⟩ := rests.log
  rw [recover_of_stands stands covers rests.numbered rests.logged, rests.applied_eq]

theorem Rests.recoversPrefix_iff (rests : Rests files history count records) :
    files.RecoversPrefix history ↔
      ∃ length, count ≤ length ∧ length ≤ history.length ∧
        files.applied = (history.take length).drop count := by
  rw [Directory.RecoversPrefix, rests.snapshotSeq_eq]
  refine exists_congr fun length => and_congr_right fun above => and_congr_right fun _ => ?_
  refine ⟨And.right, fun same => ⟨?_, same⟩⟩
  have first : (history.take length).take count = history.take count := by
    rw [List.take_take, Nat.min_eq_left above]
  rw [rests.recover_applied, same, ← first, Tables.after, ← Tables.replay_append,
    List.take_append_drop]
  rfl

theorem Log.Numbered.mem_drop_take (numbered : Numbered 1 history) {length : Nat}
    {record next : Record} (member : record ∈ history) (newer : count < record.seq.toNat)
    (applied : next ∈ (history.take length).drop count)
    (before : record.seq.toNat < next.seq.toNat) : record ∈ (history.take length).drop count := by
  have taken : record ∈ history.take length := by
    have ascending := numbered.ascending
    rw [← List.take_append_drop length history] at member ascending
    refine (List.mem_append.mp member).resolve_right fun dropped => ?_
    have after := (List.pairwise_append.mp ascending).2.2 next (List.mem_of_mem_drop applied)
      record dropped
    omega
  rw [← (numbered.take length).filter_newer count]
  exact List.mem_filter.mpr ⟨taken, decide_eq_true newer⟩

/-- A missing commit that is older than one that was applied must have been covered. -/
private theorem covered_of_applied (numbered : Numbered 1 history)
    (trims : Trims count history (kept ++ lost ++ later)) {length : Nat}
    (same : (kept ++ later).filter (fun record => count < record.seq.toNat) =
      (history.take length).drop count) (nonempty : later ≠ []) :
    ∀ record ∈ lost, record.seq.toNat ≤ count := by
  intro missing inLost
  by_contra uncovered
  have newer : count < missing.seq.toNat := by omega
  obtain ⟨next, inLater⟩ := List.exists_mem_of_ne_nil later nonempty
  obtain ⟨keptBefore, laterAfter⟩ : (∀ record ∈ kept, record.seq.toNat < missing.seq.toNat) ∧
      ∀ record ∈ later, missing.seq.toNat < record.seq.toNat := by
    obtain ⟨front, -, across⟩ :=
      List.pairwise_append.mp (numbered.ascending.sublist trims.sublist)
    exact ⟨fun record member => (List.pairwise_append.mp front).2.2 record member missing inLost,
      across missing (List.mem_append_right _ inLost)⟩
  have before := laterAfter next inLater
  have applied : next ∈ (history.take length).drop count := by
    rw [← same]
    refine List.mem_filter.mpr ⟨List.mem_append_right _ inLater, decide_eq_true ?_⟩
    exact Nat.lt_trans newer before
  have inHistory : missing ∈ history :=
    trims.sublist.subset (List.mem_append_left _ (List.mem_append_right _ inLost))
  have among := numbered.mem_drop_take inHistory newer applied before
  rw [← same] at among
  rcases List.mem_append.mp (List.mem_filter.mp among).1 with inKept | inLater
  · exact Nat.lt_irrefl _ (keptBefore missing inKept)
  · exact Nat.lt_irrefl _ (laterAfter missing inLater)

/-- Without some records of the middle, the newer ones are the first of all newer commits only if
none of the missing is newer or nothing comes after them. -/
theorem newer_prefix_iff (numbered : Numbered 1 history)
    (trims : Trims count history (kept ++ lost ++ later)) (within : count ≤ history.length) :
    (∃ length, count ≤ length ∧ length ≤ history.length ∧
        (kept ++ later).filter (fun record => count < record.seq.toNat) =
          (history.take length).drop count) ↔
      (∀ record ∈ lost, record.seq.toNat ≤ count) ∨ later = [] := by
  have all := trims.newer_eq numbered
  constructor
  · rintro ⟨length, -, -, same⟩
    exact or_iff_not_imp_right.mpr (covered_of_applied numbered trims same)
  · rintro (covered | rfl)
    · refine ⟨history.length, within, Nat.le_refl _, ?_⟩
      have none : lost.filter (fun record => count < record.seq.toNat) = [] := by
        simpa using covered
      rw [List.take_length, ← all]
      simp [List.filter_append, none]
    · obtain ⟨rest, split⟩ : kept.filter (fun record => count < record.seq.toNat) <+:
          history.drop count := by
        rw [← all, List.append_nil, List.filter_append]
        exact List.prefix_append _ _
      have size := congrArg List.length split
      rw [List.length_append, List.length_drop] at size
      refine ⟨count + (kept.filter fun record => count < record.seq.toNat).length,
        Nat.le_add_right _ _, by omega, ?_⟩
      rw [List.append_nil, List.drop_take, ← split, Nat.add_sub_cancel_left, List.take_left]

/-- A directory with a damaged segment holds the same history. -/
theorem Rests.of_damages (rests : Rests files history count records)
    (read : Log.readManifest files = .ok (some manifest))
    (segments : manifest.segments = older ++ damaged :: newer)
    (damages : Damages files damaged.name left) :
    ∃ kept lost later, records = kept ++ lost ++ later ∧ Rests left history count (kept ++ later) ∧
      later = newer.flatMap fun segment => Log.segmentRecords left segment.name := by
  obtain ⟨found, stands, covers⟩ := rests.log
  obtain ⟨rfl, written⟩ : found = manifest ∧ files.manifest = some manifest.text := by
    rcases stands.written with written | ⟨missing, -⟩
    · rw [Log.readManifest_of_written written] at read
      cases read
      exact ⟨rfl, written⟩
    · simp [Log.readManifest, missing] at read
  have shortened := damages.shortened
  have member : damaged ∈ found.segments := by simp [segments]
  have distinct : (Log.listed files.content found).Nodup := by
    rw [stands.holds.held]
    exact rests.numbered.nodup.sublist rests.logged
  obtain ⟨holds, sublist⟩ := shortened.holds member stands.holds
  obtain ⟨kept, lost, later, whole, remaining, rest⟩ := shortened.parts segments distinct
  rw [remaining] at holds sublist
  rw [stands.holds.held] at whole
  have standsLeft : Stands left found history.length (kept ++ later) :=
    ⟨.inl (shortened.written.trans written), holds⟩
  refine ⟨kept, lost, later, whole, ?_, ?_⟩
  · exact ⟨rests.numbered, sublist.trans rests.logged, found, standsLeft,
      covers.congr ⟨shortened.snapshots, rfl, rfl⟩⟩
  · rw [rest]
    refine List.flatMap_congr fun segment among => ?_
    obtain ⟨older', last, maxSeq, arranged⟩ := holds.arranged
    have member : segment ∈ found.segments := by simp [segments, among]
    obtain ⟨number, -, -, named⟩ := arranged.named member
    rw [named, Log.segmentRecords_segmentName]

/-- Recovery from a directory with a damaged segment applies what the log still has to the tables of
the snapshot.  That gives the tables after the first commits of the history, without a gap, exactly
if the snapshot covers all that the segment has lost or no segment after it has records. -/
theorem damaged_recovers_prefix_iff {world : World} (past : world.Past history)
    (read : Log.readManifest world.files = .ok (some manifest))
    (segments : manifest.segments = older ++ damaged :: newer)
    (damages : Damages world.files damaged.name left) :
    recover left =
        .ok ((Tables.after (history.take world.files.snapshotSeq)).replay left.applied) ∧
      (left.RecoversPrefix history ↔
        (∀ record ∈ world.files.logged, record ∉ left.logged →
          record.seq.toNat ≤ world.files.snapshotSeq) ∨
        ∀ segment ∈ newer, Log.segmentRecords left segment.name = []) := by
  obtain ⟨count, records, nothingLost, rests⟩ := past.rests
  obtain ⟨kept, lost, later, rfl, restsLeft, rest⟩ := rests.of_damages read segments damages
  obtain ⟨manifest, -, covers⟩ := rests.log
  rw [rests.snapshotSeq_eq, rests.logged_eq, restsLeft.logged_eq]
  refine ⟨restsLeft.recover_applied, ?_⟩
  rw [restsLeft.recoversPrefix_iff, restsLeft.applied_eq,
    newer_prefix_iff rests.numbered nothingLost covers.within]
  obtain ⟨front, -, across⟩ := List.nodup_append.mp (rests.numbered.nodup.sublist rests.logged)
  have apart := (List.nodup_append.mp front).2.2
  refine or_congr ⟨fun covered record member gone => ?_, fun covered record inLost => ?_⟩ ?_
  · rw [List.mem_append, not_or] at gone
    rcases List.mem_append.mp member with inFront | inLater
    · exact covered record ((List.mem_append.mp inFront).resolve_left gone.1)
    · exact absurd inLater gone.2
  · have inFront : record ∈ kept ++ lost := List.mem_append_right _ inLost
    refine covered record (List.mem_append_left _ inFront) fun still => ?_
    rcases List.mem_append.mp still with inKept | inLater
    · exact apart record inKept record inLost rfl
    · exact across record inFront record inLater rfl
  · rw [rest, List.flatMap_eq_nil_iff]

def booksFilms : World :=
  ((World.ofSession newSession).perform (.ask (.createIndex 1 "books"))).perform
    (.ask (.createIndex 2 "films"))

def booksFilmsHistory : List Record :=
  [⟨1, 1, [.putIndex (.new "books")]⟩, ⟨2, 2, [.putIndex (.new "films")]⟩]

def booksFilmsManifest : Manifest :=
  ⟨1, none, none, 2, "00000003.wal",
    [⟨"00000001.wal", 1⟩, ⟨"00000002.wal", 2⟩, ⟨"00000003.wal", 2⟩]⟩

set_option maxRecDepth 10000 in
theorem booksFilms_past : booksFilms.Past booksFilmsHistory := by
  have books := (World.Past.ofSession openIn_newSession).perform rfl
    (.ask (.createIndex 1 "books")) (by decide +kernel)
  have films := books.perform rfl (.ask (.createIndex 2 "films")) (by decide +kernel)
  have commits : ([] ++ ((Operation.ask (.createIndex 1 "books")).record?
      (World.ofSession newSession).acknowledged).toList) ++
        ((Operation.ask (.createIndex 2 "films")).record? ((World.ofSession newSession).perform
          (.ask (.createIndex 1 "books"))).acknowledged).toList = booksFilmsHistory := by
    decide +kernel
  exact commits ▸ films

theorem read_booksFilmsManifest :
    Log.readManifest booksFilms.files = .ok (some booksFilmsManifest) := by
  have open' : ∃ store backing, booksFilms.store = some store ∧ store.backing = some backing ∧
      backing.log.manifest = booksFilmsManifest := ⟨_, _, rfl, rfl, by decide +kernel⟩
  obtain ⟨store, backing, opened, backed, manifest⟩ := open'
  rw [booksFilms_past.readManifest opened backed, manifest]

/-- The last segment that has records is cut short. -/
theorem booksFilms_cut_recovers_prefix :
    ∃ left, Damages booksFilms.files "00000002.wal" left ∧
      left.RecoversPrefix booksFilmsHistory := by
  have damages : Damages booksFilms.files "00000002.wal" _ := .truncated 40
  have segments : booksFilmsManifest.segments =
      [⟨"00000001.wal", 1⟩] ++ ⟨"00000002.wal", 2⟩ :: [⟨"00000003.wal", 2⟩] := rfl
  have recovered :=
    damaged_recovers_prefix_iff booksFilms_past read_booksFilmsManifest segments damages
  exact ⟨_, damages, recovered.2.mpr (.inr (by decide +kernel))⟩

/-- The tables after the second commit alone. -/
def filmsAlone : Tables := ⟨SortedMap.insert ∅ "films" (.new "films"), ∅, 2⟩

set_option maxRecDepth 10000 in
/-- The record of the first segment is torn, and the second commit is applied without it. -/
theorem booksFilms_torn_leaves_gap :
    booksFilms.Past booksFilmsHistory ∧
      Log.readManifest booksFilms.files = .ok (some booksFilmsManifest) ∧
      booksFilmsManifest.lists "00000001.wal" = true ∧
      ∃ left, Damages booksFilms.files "00000001.wal" left ∧ recover left = .ok filmsAlone ∧
        ∀ length, filmsAlone ≠ .after (booksFilmsHistory.take length) := by
  have damages : Damages booksFilms.files "00000001.wal" _ := .truncated 77
  have read := damages.shortened.readManifest.trans read_booksFilmsManifest
  have replayed : (booksFilmsManifest.segments.flatMap fun segment =>
      Log.segmentRecords ((Effect.cutSegment "00000001.wal" 77).settle booksFilms.files)
        segment.name) = booksFilmsHistory.drop 1 := by
    decide +kernel
  have films : (booksFilmsHistory.drop 1).foldl Tables.catchUp .empty = filmsAlone := by
    decide +kernel
  have recovered : recover ((Effect.cutSegment "00000001.wal" 77).settle booksFilms.files) =
      .ok filmsAlone := by
    rw [← films, ← replayed]
    simp only [recover, Log.replay, read]
    rfl
  have apart : ∀ length < 3, filmsAlone ≠ .after (booksFilmsHistory.take length) := by
    decide +kernel
  refine ⟨booksFilms_past, read_booksFilmsManifest, rfl, _, damages, recovered, fun length => ?_⟩
  rw [List.take_eq_take_min]
  exact apart _ (Nat.lt_succ_of_le (Nat.min_le_right _ _))

end DocStore
