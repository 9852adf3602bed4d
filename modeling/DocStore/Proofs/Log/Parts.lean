import DocStore.Proofs.Log.Writer
import Mathlib.Data.List.Nodup
/-!
The segments of a log with the records that were written to them.

A log on which no effect has failed consists of parts (`Fills`): the manifest
lists them under the names of consecutive numbers, and the directory has a file
for each of them and no other.  The names differ as long as there are not more
parts than names.  The greatest numbers of the parts rise, so that a trim takes
away the first parts and the others keep consecutive names.
-/

namespace DocStore.Log

open Writer (segmentName nextSegmentName noteBatch isCovered)

/-- A segment with the records that were written to it. -/
structure Part where
  info : SegmentInfo
  records : List Record

namespace Part

def name (part : Part) : String := part.info.name

def bytes (part : Part) : Bytes := part.records.flatMap Record.encode

end Part

/-- The manifest of an open log is written.  It lists the current segment last, with the greatest
number of all, and the file of that segment is there.  No file ends with a torn record. -/
structure Going (files : Directory) (manifest : Manifest) : Prop where
  written : files.manifest = some manifest.text
  last : ∃ older, manifest.segments = older ++ [⟨manifest.currentSegment, manifest.lastSeq⟩]
  named : ∃ number, manifest.currentSegment = segmentName number
  stored : ∃ bytes, files.segments.get? manifest.currentSegment = some bytes
  whole : ∀ name, ∃ records, Record.Spells (files.content name) records
  marked : manifest.currentSnapshot.isSome → manifest.snapshotBookmark.isSome

/-- The segments of a log are these parts, with the names from a first number on. -/
structure Fills (files : Directory) (manifest : Manifest) (first : Nat) (parts : List Part) :
    Prop where
  listed : manifest.segments = parts.map Part.info
  named : parts.map Part.name = (List.range' first parts.length).map segmentName
  few : parts.length ≤ 2 ^ 64
  stored : ∀ part ∈ parts, files.segments.get? part.name = some part.bytes
  others : ∀ name, name ∉ parts.map Part.name → files.segments.get? name = none
  legible : ∀ part ∈ parts, ∀ record ∈ part.records, record.Legible
  bounded : ∀ part ∈ parts, ∀ record ∈ part.records, record.seq ≤ part.info.maxSeq
  rising : parts.Pairwise fun before after => before.info.maxSeq ≤ after.info.maxSeq

/-- So many consecutive names are different. -/
theorem nodup_segmentNames (first : Nat) {count : Nat} (few : count ≤ 2 ^ 64) :
    ((List.range' first count).map segmentName).Nodup := by
  refine List.Nodup.map_on (fun a inA b inB same => ?_) List.nodup_range'
  have remainder := Writer.mod_eq_of_segmentName_eq same
  rw [List.mem_range'_1] at inA inB
  omega

/-- A property that later elements do not have unless earlier ones do parts a list in two. -/
theorem filter_parts {α : Type} {covers : α → Bool} {items : List α}
    (downward : items.Pairwise fun before after => covers after = true → covers before = true) :
    items = items.filter covers ++ items.filter fun item => !covers item := by
  induction items with
  | nil => rfl
  | cons item rest ih =>
      obtain ⟨later, downward'⟩ := List.pairwise_cons.mp downward
      cases covered : covers item with
      | true =>
          rw [List.filter_cons_of_pos covered, List.filter_cons_of_neg (by simp [covered]),
            List.cons_append, ← ih downward']
      | false =>
          have uncovered : ∀ other ∈ rest, covers other = false := fun other member =>
            Bool.eq_false_iff.mpr fun covers => by
              have := later other member covers
              rw [covered] at this
              cases this
          have nothing : rest.filter covers = [] :=
            List.filter_eq_nil_iff.mpr fun other member => by simp [uncovered other member]
          have all : (rest.filter fun item => !covers item) = rest :=
            List.filter_eq_self.mpr fun other member => by simp [uncovered other member]
          rw [List.filter_cons_of_neg (by simp [covered]),
            List.filter_cons_of_pos (by simp [covered]), nothing, all, List.nil_append]

/-- The greater of two numbers is not below what one of them is not below. -/
theorem le_max_of_le {seq a b : UInt64} (above : seq ≤ a ∨ seq ≤ b) : seq ≤ max a b := by
  rw [UInt64.le_iff_toNat_le, UInt64.le_iff_toNat_le] at above
  rw [UInt64.le_iff_toNat_le, toNat_max]
  omega

namespace Going

variable {files left : Directory} {manifest : Manifest} {batch : List Record}

theorem readManifest (going : Going files manifest) :
    Log.readManifest files = .ok (some manifest) :=
  readManifest_of_written going.written

theorem getLast?_name (going : Going files manifest) :
    (manifest.segments.map SegmentInfo.name).getLast? = some manifest.currentSegment := by
  obtain ⟨older, segments⟩ := going.last
  rw [segments, List.map_append, List.map_singleton, List.getLast?_concat]

/-- A batch is written to the current segment. -/
theorem noted (going : Going files manifest) (legible : ∀ record ∈ batch, record.Legible)
    (greatest : UInt64) (written : left.manifest = some (noteBatch manifest greatest).text)
    (segments : ∀ name, left.segments.get? name =
      if name = manifest.currentSegment then
        some (files.content manifest.currentSegment ++ batch.flatMap Record.encode)
      else files.segments.get? name) :
    Going left (noteBatch manifest greatest) := by
  obtain ⟨older, listed⟩ := going.last
  refine ⟨written, ⟨older, ?_⟩, going.named, ⟨_, (segments _).trans (if_pos rfl)⟩,
    fun name => ?_, going.marked⟩
  · rw [noteBatch, listed, raiseLast_concat]
  · rw [Directory.content, segments]
    split
    · obtain ⟨records, spelled⟩ := going.whole manifest.currentSegment
      exact ⟨_, spelled.append (.flatMap_encode legible)⟩
    · exact going.whole name

theorem next_named (going : Going files manifest) :
    ∃ number, manifest.rotated.currentSegment = segmentName number := by
  obtain ⟨older, listed⟩ := going.last
  have named := Writer.nextSegmentName_some ⟨manifest.currentSegment, manifest.lastSeq⟩
  rw [← List.getLast?_concat, ← listed] at named
  exact ⟨_, named⟩

/-- A new segment follows, in a file that may have been there. -/
theorem rotated (going : Going files manifest)
    (written : left.manifest = some manifest.rotated.text)
    (segments : ∀ name, left.segments.get? name =
      if name = manifest.rotated.currentSegment then
        some (files.content manifest.rotated.currentSegment)
      else files.segments.get? name) :
    Going left manifest.rotated := by
  refine ⟨written, ⟨manifest.segments, rfl⟩, going.next_named,
    ⟨_, (segments _).trans (if_pos rfl)⟩, fun name => ?_, going.marked⟩
  rw [Directory.content, segments]
  split
  · exact going.whole _
  · exact going.whole name

theorem setSnapshot (going : Going files manifest) (name : String) (seq : UInt64) :
    Going (persisted files (manifest.marked name seq)) (manifest.marked name seq) :=
  ⟨rfl, going.last, going.named, going.stored, going.whole, fun _ => rfl⟩

theorem trimmed (going : Going files manifest)
    (written : left.manifest = some manifest.trimmed.text)
    (segments : ∀ name, left.segments.get? name =
      if name ∈ coveredNames manifest then none else files.segments.get? name) :
    Going left manifest.trimmed := by
  obtain ⟨older, listed⟩ := going.last
  obtain ⟨bytes, stored⟩ := going.stored
  have kept : isCovered manifest ⟨manifest.currentSegment, manifest.lastSeq⟩ = false := by
    simp [isCovered]
  refine ⟨written, ⟨older.filter fun segment => !isCovered manifest segment, ?_⟩, going.named,
    ⟨bytes, ?_⟩, fun name => ?_, going.marked⟩
  · simp [Manifest.trimmed, listed, List.filter_append, kept]
  · have other : manifest.currentSegment ∉ coveredNames manifest := by
      rw [mem_coveredNames]
      rintro ⟨segment, -, same, covered⟩
      simp [isCovered, same] at covered
    exact (segments _).trans ((if_neg other).trans stored)
  · rw [Directory.content, segments]
    split
    · exact ⟨[], .nil⟩
    · exact going.whole name

end Going

namespace Fills

variable {files left : Directory} {manifest : Manifest} {first : Nat} {parts : List Part}
  {batch : List Record}

theorem nodup (fills : Fills files manifest first parts) : (parts.map Part.name).Nodup := by
  rw [fills.named]
  exact nodup_segmentNames first fills.few

/-- The last part is the current segment, and no other one has its name. -/
theorem exists_last (fills : Fills files manifest first parts) (going : Going files manifest) :
    ∃ older records,
      parts = older ++ [⟨⟨manifest.currentSegment, manifest.lastSeq⟩, records⟩] ∧
        ∀ part ∈ older, part.name ≠ manifest.currentSegment := by
  obtain ⟨infos, segments⟩ := going.last
  have distinct := fills.nodup
  rw [fills.listed, List.map_eq_append_iff] at segments
  obtain ⟨older, current, rfl, -, current'⟩ := segments
  obtain ⟨⟨info, records⟩, rfl, rfl⟩ := List.map_eq_singleton_iff.mp current'
  rw [List.map_append, List.nodup_append] at distinct
  exact ⟨older, records, rfl, fun part before =>
    distinct.2.2 _ (List.mem_map_of_mem before) _ List.mem_cons_self⟩

/-- No part has a greater number than the manifest knows of. -/
theorem maxSeq_le (fills : Fills files manifest first parts) (going : Going files manifest)
    {part : Part} (member : part ∈ parts) : part.info.maxSeq ≤ manifest.lastSeq := by
  obtain ⟨older, records, rfl, -⟩ := fills.exists_last going
  rcases List.mem_append.mp member with before | last
  · exact (List.pairwise_append.mp fills.rising).2.2 part before _ List.mem_cons_self
  · rw [List.mem_singleton.mp last]
    exact UInt64.le_refl _

theorem next_eq (fills : Fills files manifest first parts) (going : Going files manifest) :
    nextSegmentName manifest.segments.getLast? = segmentName (first + parts.length) := by
  obtain ⟨older, records, rfl, -⟩ := fills.exists_last going
  have named := fills.named
  rw [List.length_append, List.length_singleton, List.range'_1_concat, List.map_append,
    List.map_append] at named
  have last : manifest.currentSegment = segmentName (first + older.length) :=
    List.singleton_inj.mp (List.append_inj_right' named rfl)
  rw [fills.listed, List.map_append, List.map_singleton, List.getLast?_concat,
    Writer.nextSegmentName_segmentName last, List.length_append, List.length_singleton,
    Nat.add_assoc]

/-- As long as there are names left the next one is new. -/
theorem fresh (fills : Fills files manifest first parts) (going : Going files manifest)
    (few : parts.length < 2 ^ 64) :
    nextSegmentName manifest.segments.getLast? ∉ parts.map Part.name := by
  have distinct := nodup_segmentNames first (Nat.succ_le_of_lt few)
  rw [List.range'_1_concat, List.map_append, List.nodup_append] at distinct
  rw [fills.next_eq going, fills.named]
  exact fun member => distinct.2.2 _ member _ List.mem_cons_self rfl

theorem content_eq (fills : Fills files manifest first parts) {part : Part}
    (member : part ∈ parts) : files.content part.name = part.bytes := by
  rw [Directory.content, fills.stored part member, Option.getD_some]

/-- The segments in their order have the bytes of all records. -/
theorem contents (fills : Fills files manifest first parts) :
    (manifest.segments.flatMap fun segment => files.content segment.name) =
      (parts.flatMap Part.records).flatMap Record.encode := by
  rw [fills.listed, List.flatMap_map, List.flatMap_assoc]
  exact List.flatMap_congr fun part member => fills.content_eq member

theorem names_eq (fills : Fills files manifest first parts) :
    manifest.segments.map SegmentInfo.name = parts.map Part.name := by
  rw [fills.listed, List.map_map]
  rfl

theorem segmentRecords_eq (fills : Fills files manifest first parts) {part : Part}
    (member : part ∈ parts) : segmentRecords files part.name = part.records := by
  have among : part.name ∈ parts.map Part.name := List.mem_map_of_mem member
  rw [fills.named] at among
  obtain ⟨number, -, named⟩ := List.mem_map.mp among
  rw [← named, segmentRecords_segmentName, named, fills.content_eq member]
  exact recordsIn_of_spells (.flatMap_encode (fills.legible part member))

theorem segments_flatMap (fills : Fills files manifest first parts) {among : List Part}
    (inside : among ⊆ parts) :
    ((among.map Part.info).flatMap fun segment => segmentRecords files segment.name) =
      among.flatMap Part.records := by
  rw [List.flatMap_map]
  exact List.flatMap_congr fun part member => fills.segmentRecords_eq (inside member)

theorem replay (fills : Fills files manifest first parts) (going : Going files manifest) :
    Log.replay files = .ok (parts.flatMap Part.records) := by
  simp only [Log.replay, going.readManifest, bind, Except.bind, Option.getD_some, fills.listed,
    fills.segments_flatMap (List.Subset.refl _)]

theorem congr (fills : Fills files manifest first parts) {now : Manifest}
    (segments : left.segments = files.segments) (listed : now.segments = manifest.segments) :
    Fills left now first parts :=
  { fills with
    listed := listed.trans fills.listed
    stored := segments ▸ fills.stored
    others := segments ▸ fills.others }

/-- A batch is written to the last part. -/
theorem noted (fills : Fills files manifest first parts) (going : Going files manifest)
    (legible : ∀ record ∈ batch, record.Legible) {greatest : UInt64}
    (above : ∀ record ∈ batch, record.seq ≤ greatest)
    (segments : ∀ name, left.segments.get? name =
      if name = manifest.currentSegment then
        some (files.content manifest.currentSegment ++ batch.flatMap Record.encode)
      else files.segments.get? name) :
    ∃ grown, Fills left (noteBatch manifest greatest) first grown ∧
      grown.flatMap Part.records = parts.flatMap Part.records ++ batch := by
  obtain ⟨older, records, rfl, apart⟩ := fills.exists_last going
  have before := List.forall_mem_append.mp fills.stored
  have content : files.content manifest.currentSegment = records.flatMap Record.encode := by
    have last := before.2 _ List.mem_cons_self
    rw [Directory.content]
    exact congrArg (·.getD []) last
  have rising := List.pairwise_append.mp fills.rising
  refine ⟨older ++ [⟨⟨manifest.currentSegment, max manifest.lastSeq greatest⟩, records ++ batch⟩],
    { listed := ?_, named := ?_, few := ?_, stored := ?_, others := ?_, legible := ?_,
      bounded := ?_, rising := ?_ }, ?_⟩
  · rw [noteBatch, fills.listed, List.map_append, List.map_singleton, raiseLast_concat]
    simp
  · simpa [Part.name] using fills.named
  · simpa using fills.few
  · refine List.forall_mem_append.mpr ⟨fun part member => ?_, List.forall_mem_singleton.mpr ?_⟩
    · rw [segments, if_neg (apart part member), before.1 part member]
    · rw [segments, Part.name, if_pos rfl, content, Part.bytes, List.flatMap_append]
  · intro name unlisted
    have other : name ≠ manifest.currentSegment := by
      rintro rfl
      simp [Part.name] at unlisted
    rw [segments, if_neg other, fills.others name (by simpa [Part.name] using unlisted)]
  · have legible' := List.forall_mem_append.mp fills.legible
    refine List.forall_mem_append.mpr ⟨legible'.1, List.forall_mem_singleton.mpr ?_⟩
    exact List.forall_mem_append.mpr ⟨legible'.2 _ List.mem_cons_self, legible⟩
  · have bounded := List.forall_mem_append.mp fills.bounded
    refine List.forall_mem_append.mpr ⟨bounded.1, List.forall_mem_singleton.mpr ?_⟩
    refine List.forall_mem_append.mpr ⟨fun record member => ?_, fun record member => ?_⟩
    · exact le_max_of_le (.inl (bounded.2 _ List.mem_cons_self record member))
    · exact le_max_of_le (.inr (above record member))
  · refine List.pairwise_append.mpr ⟨rising.1, List.pairwise_singleton _ _, ?_⟩
    intro part member current last
    rw [List.mem_singleton.mp last]
    exact le_max_of_le (.inl (rising.2.2 part member _ List.mem_cons_self))
  · simp

/-- A part without records follows the others. -/
theorem rotated (fills : Fills files manifest first parts) (going : Going files manifest)
    (few : parts.length < 2 ^ 64)
    (segments : ∀ name, left.segments.get? name =
      if name = manifest.rotated.currentSegment then
        some (files.content manifest.rotated.currentSegment)
      else files.segments.get? name) :
    Fills left manifest.rotated first
      (parts ++ [⟨⟨manifest.rotated.currentSegment, manifest.lastSeq⟩, []⟩]) := by
  have fresh : manifest.rotated.currentSegment ∉ parts.map Part.name := fills.fresh going few
  have next : manifest.rotated.currentSegment = segmentName (first + parts.length) :=
    fills.next_eq going
  have missing := fills.others _ fresh
  exact
    { listed := by
        rw [List.map_append, List.map_singleton, ← fills.listed]
        rfl
      named := by
        rw [List.map_append, fills.named, List.length_append, List.length_singleton,
          List.range'_1_concat, List.map_append, List.map_singleton, List.map_singleton, ← next]
        rfl
      few := by simpa using Nat.succ_le_of_lt few
      stored := by
        refine List.forall_mem_append.mpr ⟨fun part member => ?_, List.forall_mem_singleton.mpr ?_⟩
        · have old : part.name ≠ manifest.rotated.currentSegment := fun same =>
            fresh (same ▸ List.mem_map_of_mem member)
          rw [segments, if_neg old, fills.stored part member]
        · rw [segments, Part.name, if_pos rfl, Directory.content, missing]
          rfl
      others := by
        intro name unlisted
        rw [List.map_append, List.mem_append, not_or] at unlisted
        have other : name ≠ manifest.rotated.currentSegment := fun same =>
          unlisted.2 (List.mem_singleton.mpr same)
        rw [segments, if_neg other, fills.others name unlisted.1]
      legible := List.forall_mem_append.mpr ⟨fills.legible, List.forall_mem_singleton.mpr nofun⟩
      bounded := List.forall_mem_append.mpr ⟨fills.bounded, List.forall_mem_singleton.mpr nofun⟩
      rising := by
        refine List.pairwise_append.mpr ⟨fills.rising, List.pairwise_singleton _ _, ?_⟩
        intro part member current last
        rw [List.mem_singleton.mp last]
        exact fills.maxSeq_le going member }

/-- The parts that the snapshot covers are the first ones. -/
theorem covered_parts (fills : Fills files manifest first parts) (going : Going files manifest) :
    parts = (parts.filter fun part => isCovered manifest part.info) ++
      parts.filter fun part => !isCovered manifest part.info := by
  refine filter_parts ?_
  obtain ⟨older, records, rfl, apart⟩ := fills.exists_last going
  have rising := List.pairwise_append.mp fills.rising
  refine List.pairwise_append.mpr ⟨?_, List.pairwise_singleton _ _, ?_⟩
  · refine List.Pairwise.imp_of_mem (fun {before after} member _ below covered => ?_) rising.1
    simp only [isCovered, Bool.and_eq_true, decide_eq_true_eq, bne_iff_ne] at covered ⊢
    exact ⟨UInt64.le_trans below covered.1, apart before member⟩
  · intro part member current last
    rw [List.mem_singleton.mp last]
    simp [isCovered]

/-- No record above the bookmark is in a part that the snapshot covers. -/
theorem above_eq (fills : Fills files manifest first parts) (going : Going files manifest)
    {bookmark : UInt64} (marked : manifest.snapshotBookmark = some bookmark) :
    ((parts.filter fun part => !isCovered manifest part.info).flatMap Part.records).filter
        (bookmark < ·.seq) = (parts.flatMap Part.records).filter (bookmark < ·.seq) := by
  have nothing : ((parts.filter fun part => isCovered manifest part.info).flatMap
      Part.records).filter (bookmark < ·.seq) = [] := by
    refine List.filter_eq_nil_iff.mpr fun record member => ?_
    obtain ⟨part, among, inside⟩ := List.mem_flatMap.mp member
    obtain ⟨member, covered⟩ := List.mem_filter.mp among
    simp only [isCovered, marked, Option.getD_some, Bool.and_eq_true, decide_eq_true_eq] at covered
    have below := UInt64.le_trans (fills.bounded part member record inside) covered.1
    simpa using below
  have whole := congrArg (List.flatMap Part.records) (fills.covered_parts going)
  rw [List.flatMap_append] at whole
  rw [whole, List.filter_append, nothing, List.nil_append]

/-- The first parts are taken away. -/
theorem trimmed (fills : Fills files manifest first parts) (going : Going files manifest)
    (segments : ∀ name, left.segments.get? name =
      if name ∈ coveredNames manifest then none else files.segments.get? name) :
    ∃ later, Fills left manifest.trimmed later
      (parts.filter fun part => !isCovered manifest part.info) := by
  obtain ⟨gone, goneIs⟩ : ∃ gone, gone = parts.filter fun part => isCovered manifest part.info :=
    ⟨_, rfl⟩
  obtain ⟨kept, keptIs⟩ : ∃ kept, kept = parts.filter fun part => !isCovered manifest part.info :=
    ⟨_, rfl⟩
  have whole : parts = gone ++ kept := by rw [goneIs, keptIs, ← fills.covered_parts going]
  have names : coveredNames manifest = gone.map Part.name := by
    rw [coveredNames, fills.listed, List.filter_map, List.map_map, goneIs]
    rfl
  have listed : manifest.trimmed.segments = kept.map Part.info := by
    rw [Manifest.trimmed, fills.listed, List.filter_map, keptIs]
    rfl
  rw [← keptIs]
  subst whole
  have distinct := fills.nodup
  rw [List.map_append, List.nodup_append] at distinct
  have named := fills.named
  -- The names that are left are the later ones of the range.
  rw [List.length_append, ← List.range'_append_1, List.map_append, List.map_append] at named
  refine ⟨first + gone.length,
    { listed
      named := List.append_inj_right named (by simp)
      few := Nat.le_trans (by simp) fills.few
      stored := fun part member => ?_
      others := fun name unlisted => ?_
      legible := (List.forall_mem_append.mp fills.legible).2
      bounded := (List.forall_mem_append.mp fills.bounded).2
      rising := (List.pairwise_append.mp fills.rising).2.1 }⟩
  · have other : part.name ∉ coveredNames manifest := fun before =>
      distinct.2.2 _ (names ▸ before) _ (List.mem_map_of_mem member) rfl
    rw [segments, if_neg other, fills.stored part (List.mem_append_right _ member)]
  · rw [segments, names]
    split
    · rfl
    · next still =>
        refine fills.others name ?_
        rw [List.map_append, List.mem_append, not_or]
        exact ⟨still, unlisted⟩

end Fills

end DocStore.Log
