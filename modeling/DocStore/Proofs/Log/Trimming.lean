import DocStore.Proofs.Log.Rotation
/-!
Trims of a log.

A log is filled, snapshots of it become current, and the segments that these
cover are removed, in any order.  In all states that are reached the numbers in
the manifest bound those of the records, so that a trim takes away only what the
snapshot covers (`OpenLog.Reached.trimmable`).
-/

namespace DocStore.Log

open Writer (isCovered)

variable {files : Directory} {manifest : Manifest} {state : OpenLog}

/-- After segments were removed no file has one of their names. -/
theorem get?_removeAll (segments : List SegmentInfo) (files : Directory) (name : String) :
    ((Writer.removeAll segments).run Plan.noFault files).1.segments.get? name =
      if name ∈ segments.map SegmentInfo.name then none else files.segments.get? name := by
  induction segments generalizing files with
  | nil => exact (if_neg List.not_mem_nil).symm
  | cons segment rest ih =>
      rw [Writer.removeAll, Plan.run_effect_ignored, ih, settle_removeSegment_eq,
        SortedMap.get?_erase_eq, List.map_cons]
      by_cases here : name = segment.name
      · simp [here]
      · simp [here]

theorem run_trim (log : Writer) {snapshot : String}
    (current : log.manifest.currentSnapshot = some snapshot) (files : Directory) :
    ∃ removed, (log.trim snapshot).run Plan.noFault files =
        (persisted removed log.manifest.trimmed,
          .ok (coveredNames log.manifest), { log with manifest := log.manifest.trimmed }) ∧
      ∀ name, removed.segments.get? name =
        if name ∈ coveredNames log.manifest then none else files.segments.get? name := by
  refine ⟨_, ?_, get?_removeAll (log.manifest.segments.filter (isCovered log.manifest)) files⟩
  unfold Writer.trim
  dsimp only
  rw [if_neg (not_not_intro current), Plan.run_bind]
  rfl

namespace OpenLog

def rotate (state : OpenLog) : OpenLog :=
  let (files, log) := state.log.rotate.run Plan.noFault state.files
  ⟨files, log⟩

def setSnapshot (state : OpenLog) (name : String) (seq : UInt64) : OpenLog :=
  let (files, _, log) := (state.log.setSnapshot name seq).run Plan.noFault state.files
  ⟨files, log⟩

def trim (state : OpenLog) (snapshot : String) : Except IoError (List String) × OpenLog :=
  let (files, outcome, log) := (state.log.trim snapshot).run Plan.noFault state.files
  (outcome, ⟨files, log⟩)

/-- The states that a log comes to from an empty directory, as long as there are names for all of
its segments: by work of writers, with new segments at any time, and by snapshots and trims, with
any names and numbers. -/
inductive Reached : OpenLog → Prop where
  | opened {state : OpenLog} (options : Options) (opens : openIn .empty options = .ok state) :
      Reached state
  | worked {state next : OpenLog} {work : Work} {outcomes : List (Except IoError Unit)}
      (reached : Reached state) (legible : ∀ record ∈ work.added, record.Legible)
      (performed : state.perform work = .ok (outcomes, next))
      (few : next.log.manifest.segments.length ≤ 2 ^ 64) : Reached next
  | rotated {state : OpenLog} (reached : Reached state)
      (few : state.rotate.log.manifest.segments.length ≤ 2 ^ 64) : Reached state.rotate
  | marked {state : OpenLog} (reached : Reached state) (name : String) (seq : UInt64) :
      Reached (state.setSnapshot name seq)
  | trimmed {state : OpenLog} (reached : Reached state) (snapshot : String) :
      Reached (state.trim snapshot).2

/-- The log goes on with parts that have all of its records. -/
structure Sound (state : OpenLog) : Prop where
  going : Going state.files state.log.manifest
  fills : ∃ first parts, Fills state.files state.log.manifest first parts

theorem setSnapshot_eq (state : OpenLog) (name : String) (seq : UInt64) :
    state.setSnapshot name seq = ⟨persisted state.files (state.log.manifest.marked name seq),
      { state.log with manifest := state.log.manifest.marked name seq }⟩ :=
  rfl

theorem trim_of_ne {snapshot : String}
    (other : state.log.manifest.currentSnapshot ≠ some snapshot) :
    state.trim snapshot = (.error .snapshotMismatch, state) := by
  unfold trim Writer.trim
  dsimp only
  rw [if_pos other]
  rfl

/-- What a trim that names the current snapshot does to the log. -/
theorem exists_trim {snapshot : String}
    (current : state.log.manifest.currentSnapshot = some snapshot) :
    ∃ next, state.trim snapshot = (.ok (coveredNames state.log.manifest), next) ∧
      next.log.manifest = state.log.manifest.trimmed ∧
      next.files.manifest = some state.log.manifest.trimmed.text ∧
      ∀ name, next.files.segments.get? name =
        if name ∈ coveredNames state.log.manifest then none
        else state.files.segments.get? name := by
  obtain ⟨removed, run, segments⟩ := run_trim state.log current state.files
  refine ⟨⟨persisted removed state.log.manifest.trimmed,
    { state.log with manifest := state.log.manifest.trimmed }⟩, ?_, rfl, rfl, segments⟩
  simp only [trim, run]

namespace Sound

theorem advances (sound : state.Sound) {next : OpenLog} {records : List Record}
    (advances : Advances state.files state.log.manifest records next.files next.log.manifest)
    (few : next.log.manifest.segments.length ≤ 2 ^ 64) : next.Sound := by
  obtain ⟨first, parts, fills⟩ := sound.fills
  obtain ⟨after, fills', -⟩ := advances.fills first parts fills few
  exact ⟨advances.going, first, after, fills'⟩

theorem rotate (sound : state.Sound) :
    state.rotate.log.manifest = state.log.manifest.rotated ∧
      Advances state.files state.log.manifest [] state.rotate.files
        state.rotate.log.manifest := by
  obtain ⟨left, log, run, manifest, advances⟩ := sound.going.keeps_rotate.exists_run
  simp only [OpenLog.rotate, run]
  exact ⟨manifest, advances⟩

theorem setSnapshot (sound : state.Sound) (name : String) (seq : UInt64) :
    (state.setSnapshot name seq).Sound := by
  obtain ⟨first, parts, fills⟩ := sound.fills
  rw [setSnapshot_eq]
  exact ⟨sound.going.setSnapshot name seq, first, parts, fills.congr rfl rfl⟩

theorem trim (sound : state.Sound) (snapshot : String) : (state.trim snapshot).2.Sound := by
  by_cases current : state.log.manifest.currentSnapshot = some snapshot
  · obtain ⟨first, parts, fills⟩ := sound.fills
    obtain ⟨next, trims, manifest, written, segments⟩ := exists_trim current
    obtain ⟨later, fills'⟩ := fills.trimmed sound.going segments
    rw [trims]
    exact ⟨manifest ▸ sound.going.trimmed written segments, later, _, manifest ▸ fills'⟩
  · rw [trim_of_ne current]
    exact sound

end Sound

theorem Reached.sound (reached : state.Reached) : state.Sound := by
  induction reached with
  | opened options opens =>
      cases (openIn_empty options).symm.trans opens
      exact ⟨going_first options, 1, _, fills_first options⟩
  | worked _ legible performed few ih =>
      obtain ⟨next, performed', advances⟩ := ih.going.perform legible
      cases performed.symm.trans performed'
      exact ih.advances advances few
  | rotated _ few ih => exact ih.advances ih.rotate.2 few
  | marked _ name seq ih => exact ih.setSnapshot name seq
  | trimmed _ snapshot ih => exact ih.trim snapshot

/-- The records of some segments, in the order of these. -/
def recordsOf (state : OpenLog) (segments : List SegmentInfo) : List Record :=
  segments.flatMap fun segment => segmentRecords state.files segment.name

/-- The segments `gone` were taken away from a log, and `kept` are left.  The former are all but the
current one whose numbers are not above the bookmark of the snapshot. -/
structure Trimmed (state next : OpenLog) (bookmark : UInt64) (gone kept : List SegmentInfo) :
    Prop where
  marked : state.log.manifest.snapshotBookmark = some bookmark
  covered : gone = state.log.manifest.segments.filter fun segment =>
    segment.maxSeq ≤ bookmark ∧ segment.name ≠ state.log.manifest.currentSegment
  others : kept = state.log.manifest.segments.filter fun segment =>
    ¬ (segment.maxSeq ≤ bookmark ∧ segment.name ≠ state.log.manifest.currentSegment)
  manifest : next.log.manifest = { state.log.manifest with segments := kept }
  files : ∀ name, next.files.segments.get? name =
    if name ∈ gone.map SegmentInfo.name then none else state.files.segments.get? name
  before : replay state.files = .ok (state.recordsOf state.log.manifest.segments)
  after : replay next.files = .ok (state.recordsOf kept)
  above : (state.recordsOf kept).filter (bookmark < ·.seq) =
    (state.recordsOf state.log.manifest.segments).filter (bookmark < ·.seq)

/-- A log of which trims take away covered records only. -/
structure Trimmable (state : OpenLog) : Prop where
  bounded : ∀ segment ∈ state.log.manifest.segments,
    ∀ record ∈ segmentRecords state.files segment.name, record.seq ≤ segment.maxSeq
  distinct : (state.log.manifest.segments.map SegmentInfo.name).Nodup
  fresh : state.log.manifest.segments.length < 2 ^ 64 →
    state.rotate.log.manifest.currentSegment ∉
      state.log.manifest.segments.map SegmentInfo.name
  mismatch : ∀ name, state.log.manifest.currentSnapshot ≠ some name →
    state.trim name = (.error .snapshotMismatch, state)
  trims : ∀ name, state.log.manifest.currentSnapshot = some name →
    ∃ next bookmark gone kept,
      state.trim name = (.ok (gone.map SegmentInfo.name), next) ∧
        state.Trimmed next bookmark gone kept

theorem isCovered_eq {bookmark : UInt64} (marked : manifest.snapshotBookmark = some bookmark) :
    isCovered manifest = fun segment =>
      decide (segment.maxSeq ≤ bookmark ∧ segment.name ≠ manifest.currentSegment) := by
  funext segment
  rw [isCovered, marked, Option.getD_some, Bool.decide_and, decide_not]
  rfl

theorem Sound.trims (sound : state.Sound) {snapshot : String}
    (current : state.log.manifest.currentSnapshot = some snapshot) :
    ∃ next bookmark gone kept,
      state.trim snapshot = (.ok (gone.map SegmentInfo.name), next) ∧
        state.Trimmed next bookmark gone kept := by
  obtain ⟨going, first, parts, fills⟩ := sound
  obtain ⟨bookmark, marked⟩ := Option.isSome_iff_exists.mp (going.marked (by simp [current]))
  obtain ⟨next, trims, manifest, written, segments⟩ := exists_trim current
  obtain ⟨later, fills'⟩ := fills.trimmed going segments
  have covered := isCovered_eq marked
  have all : state.recordsOf state.log.manifest.segments = parts.flatMap Part.records := by
    rw [recordsOf, fills.listed, fills.segments_flatMap (List.Subset.refl _)]
  have left : state.recordsOf state.log.manifest.trimmed.segments =
      (parts.filter fun part => !isCovered state.log.manifest part.info).flatMap Part.records := by
    rw [recordsOf, fills'.listed, fills.segments_flatMap (List.filter_subset_self _)]
  refine ⟨next, bookmark, state.log.manifest.segments.filter (isCovered state.log.manifest),
    state.log.manifest.trimmed.segments, trims,
    { marked
      covered := by rw [covered]
      others := by simp only [Manifest.trimmed, covered, decide_not]
      manifest
      files := segments
      before := by rw [all, fills.replay going]
      after := by rw [left, fills'.replay (going.trimmed written segments)]
      above := by rw [all, left, fills.above_eq going marked] }⟩

theorem Reached.trimmable (reached : state.Reached) : state.Trimmable := by
  obtain ⟨going, first, parts, fills⟩ := reached.sound
  refine ⟨?_, ?_, ?_, fun _ => trim_of_ne, fun _ => reached.sound.trims⟩
  · rw [fills.listed]
    refine List.forall_mem_map.mpr fun part member record inside => ?_
    rw [← Part.name, fills.segmentRecords_eq member] at inside
    exact fills.bounded part member record inside
  · rw [fills.names_eq]
    exact fills.nodup
  · intro few
    rw [fills.listed, List.length_map] at few
    rw [reached.sound.rotate.1, fills.names_eq]
    exact fills.fresh going few

/-- Three commits, with a segment for each. -/
def shelving : Work :=
  .append [⟨1, 0, [.deleteIndex "films"]⟩, ⟨4, 0, [.deleteIndex "books"]⟩, ⟨2, -1, []⟩]

/-- A snapshot covers the first commit and the last one, and the last one is kept. -/
theorem shelving_trimmable :
    ∃ state next : OpenLog, state.Reached ∧ state.Trimmable ∧
      state.log.manifest.currentSnapshot = some "shelves" ∧
      state.trim "shelves" = (.ok ["00000001.wal"], next) ∧
      state.Trimmed next 2 [⟨"00000001.wal", 1⟩]
        [⟨"00000002.wal", 4⟩, ⟨"00000003.wal", 4⟩, ⟨"00000004.wal", 4⟩] := by
  have legible : ∀ record ∈ shelving.added, record.Legible := by decide +kernel
  obtain ⟨⟨files, options, manifest, length, activity⟩, performed, -⟩ :=
    (going_first ⟨1, 1, 0⟩).perform legible
  have listed : (((first ⟨1, 1, 0⟩).perform shelving).toOption.map
      fun result => result.2.log.manifest) = some ⟨1, none, none, 4, "00000004.wal",
        [⟨"00000001.wal", 1⟩, ⟨"00000002.wal", 4⟩, ⟨"00000003.wal", 4⟩, ⟨"00000004.wal", 4⟩]⟩ := by
    decide +kernel
  obtain rfl := Option.some_inj.mp (performed ▸ listed)
  have reached := ((Reached.opened ⟨1, 1, 0⟩ (openIn_empty _)).worked legible performed
    (by decide : 4 ≤ 2 ^ 64)).marked "shelves" 2
  have trimmable := reached.trimmable
  obtain ⟨next, bookmark, gone, kept, trim, trimmed⟩ := trimmable.trims "shelves" rfl
  obtain rfl : 2 = bookmark := Option.some_inj.mp trimmed.marked
  obtain rfl : gone = [⟨"00000001.wal", 1⟩] := trimmed.covered
  obtain rfl : kept = [⟨"00000002.wal", 4⟩, ⟨"00000003.wal", 4⟩, ⟨"00000004.wal", 4⟩] :=
    trimmed.others
  exact ⟨_, next, reached, trimmable, rfl, trim, trimmed⟩

end OpenLog

end DocStore.Log
