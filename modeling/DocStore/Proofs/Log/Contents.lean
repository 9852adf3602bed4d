import DocStore.Proofs.Log.Manifest
import DocStore.Proofs.Log.Name
import DocStore.Proofs.Log.Record
import DocStore.Proofs.SortedMap
import Mathlib.Data.List.Flatten
/-!
What the segments of a log hold.

`Holds` ties a manifest to the bytes of the segments it lists: their records in
order, numbers that no record is above, and nothing in the segments still to
come.  It speaks of bytes alone, so that a missing segment and an empty one are
the same, and it is kept when the current segment grows or loses a torn tail,
when a new one begins, and when covered segments are emptied.
-/

namespace DocStore

/-- The bytes under the name of a segment; a missing segment has none. -/
def Directory.content (files : Directory) (name : String) : Bytes :=
  (files.segments.get? name).getD []

theorem toNat_max (a b : UInt64) : (max a b).toNat = max a.toNat b.toNat := by
  change (if a ≤ b then b else a).toNat = _
  simp only [UInt64.le_iff_toNat_le]
  split <;> omega

namespace Log

open Writer (segmentName nextSegmentName adopt noteBatch raiseLast isCovered)

/-- The whole records at the start of bytes. -/
def recordsIn (bytes : Bytes) : List Record := (Record.scan bytes).1

theorem recordsIn_of_spells {bytes : Bytes} {records : List Record}
    (spells : Record.Spells bytes records) : recordsIn bytes = records := by
  rw [recordsIn, spells.scan_self]

/-- Cutting a segment where its records end leaves the records. -/
theorem recordsIn_take_scan (bytes : Bytes) :
    recordsIn (bytes.take (Record.scan bytes).2) = recordsIn bytes :=
  recordsIn_of_spells (Record.spells_take_scan bytes)

theorem segmentRecords_eq (files : Directory) (name : String) :
    segmentRecords files name =
      if Directory.isFolder name then [] else recordsIn (files.content name) := by
  unfold segmentRecords Directory.readFile Directory.content recordsIn
  cases Directory.isFolder name <;> cases files.segments.get? name <;> rfl

theorem segmentRecords_segmentName (files : Directory) (number : Nat) :
    segmentRecords files (segmentName number) =
      recordsIn (files.content (segmentName number)) := by
  rw [segmentRecords_eq, Writer.isFolder_segmentName, if_neg Bool.false_ne_true]

theorem raiseLast_concat (seq : UInt64) (older : List SegmentInfo) (segment : SegmentInfo) :
    raiseLast seq (older ++ [segment]) =
      older ++ [{ segment with maxSeq := max segment.maxSeq seq }] := by
  induction older with
  | nil => rfl
  | cons first rest ih =>
      cases rest with
      | nil => rfl
      | cons next rest => simpa [raiseLast] using ih

theorem map_name_raiseLast (seq : UInt64) (segments : List SegmentInfo) :
    (raiseLast seq segments).map SegmentInfo.name = segments.map SegmentInfo.name := by
  rcases List.eq_nil_or_concat segments with rfl | ⟨older, last, rfl⟩
  · rfl
  · rw [List.concat_eq_append, raiseLast_concat]
    simp

/-- The manifest lists segments of different numbers with the current one at the end.  No record of
an earlier segment is above its number, and segments that were not begun are empty. -/
structure Arranged (content : String → Bytes) (manifest : Manifest) (older : List SegmentInfo)
    (last : Nat) (maxSeq : UInt64) : Prop where
  segments : manifest.segments = older ++ [⟨segmentName last, maxSeq⟩]
  current : manifest.currentSegment = segmentName last
  earlier : ∀ segment ∈ older, ∃ number, 0 < number ∧ number < last ∧
    segment.name = segmentName number
  positive : 0 < last
  bounded : last ≤ manifest.lastSeq.toNat + 1
  covered : ∀ segment ∈ older, ∀ record ∈ recordsIn (content segment.name),
    record.seq.toNat ≤ segment.maxSeq.toNat
  unused : ∀ number, last < number → number ≤ 2 ^ 64 → content (segmentName number) = []

def listed (content : String → Bytes) (manifest : Manifest) : List Record :=
  manifest.segments.flatMap fun segment => recordsIn (content segment.name)

def Manifest.rotated (manifest : Manifest) : Manifest :=
  { manifest with
    currentSegment := nextSegmentName manifest.segments.getLast?
    segments := manifest.segments ++
      [⟨nextSegmentName manifest.segments.getLast?, manifest.lastSeq⟩] }

def Manifest.trimmed (manifest : Manifest) : Manifest :=
  { manifest with
    segments := manifest.segments.filter fun segment => !isCovered manifest segment }

def emptied (content : String → Bytes) (names : List String) (name : String) : Bytes :=
  if name ∈ names then [] else content name

/-- What is left of records when some of those up to a bookmark are gone. -/
structure Trims (bookmark : Nat) (records left : List Record) : Prop where
  sublist : left.Sublist records
  newer : ∀ record ∈ records, bookmark < record.seq.toNat → record ∈ left

/-- A log of the given records, all of them numbered up to `newest`. -/
structure Holds (content : String → Bytes) (manifest : Manifest) (newest : Nat)
    (records : List Record) : Prop where
  arranged : ∃ older last maxSeq, Arranged content manifest older last maxSeq
  held : listed content manifest = records
  noted : manifest.lastSeq.toNat ≤ newest
  numbered : ∀ record ∈ records, record.seq.toNat ≤ newest

variable {content : String → Bytes} {manifest : Manifest} {older : List SegmentInfo} {last : Nat}
  {maxSeq : UInt64} {newest : Nat} {records : List Record}

namespace Arranged

theorem last_le (arranged : Arranged content manifest older last maxSeq) : last ≤ 2 ^ 64 :=
  Nat.le_trans arranged.bounded manifest.lastSeq.toNat_lt

theorem named (arranged : Arranged content manifest older last maxSeq) {segment : SegmentInfo}
    (member : segment ∈ manifest.segments) :
    ∃ number, 0 < number ∧ number ≤ last ∧ segment.name = segmentName number := by
  rw [arranged.segments, List.mem_append, List.mem_singleton] at member
  rcases member with before | rfl
  · obtain ⟨number, positive, less, named⟩ := arranged.earlier segment before
    exact ⟨number, positive, Nat.le_of_lt less, named⟩
  · exact ⟨last, arranged.positive, Nat.le_refl _, rfl⟩

theorem listed_eq (arranged : Arranged content manifest older last maxSeq) :
    listed content manifest =
      older.flatMap (fun segment => recordsIn (content segment.name)) ++
        recordsIn (content (segmentName last)) := by
  simp [listed, arranged.segments]

theorem name_ne_current (arranged : Arranged content manifest older last maxSeq)
    {segment : SegmentInfo} (before : segment ∈ older) : segment.name ≠ segmentName last := by
  obtain ⟨number, positive, less, named⟩ := arranged.earlier segment before
  have bound := arranged.last_le
  rw [named]
  intro same
  have := Writer.segmentName_inj positive (by omega) arranged.positive bound same
  omega

theorem mem_older (arranged : Arranged content manifest older last maxSeq) {segment : SegmentInfo}
    (member : segment ∈ manifest.segments) (covered : isCovered manifest segment = true) :
    segment ∈ older := by
  rw [arranged.segments, List.mem_append, List.mem_singleton] at member
  rcases member with before | rfl
  · exact before
  · simp [isCovered, arranged.current] at covered

end Arranged

namespace Holds

theorem first (nothing : ∀ number, content (segmentName number) = []) :
    Holds content (adopt .first (nextSegmentName none)) 0 [] := by
  have manifest : adopt .first (nextSegmentName none) =
      { Manifest.first with
        currentSegment := segmentName 1
        segments := [⟨segmentName 1, 0⟩] } := by
    rw [Writer.nextSegmentName_none]
    rfl
  rw [manifest]
  exact
    { arranged := ⟨[], 1, 0,
        { segments := rfl
          current := rfl
          earlier := nofun
          positive := Nat.one_pos
          bounded := Nat.le_refl _
          covered := nofun
          unused := fun number _ _ => nothing number }⟩
      held := by simp [listed, nothing]; rfl
      noted := Nat.le_refl _
      numbered := nofun }

/-- The current segment gets other bytes that hold further records after those it held. -/
theorem update (holds : Holds content manifest newest records) {bytes : Bytes}
    {added : List Record} {later : Nat}
    (grown : recordsIn bytes = recordsIn (content manifest.currentSegment) ++ added)
    (number : newest ≤ later) (numbered : ∀ record ∈ added, record.seq.toNat ≤ later) :
    Holds (Function.update content manifest.currentSegment bytes) manifest later
      (records ++ added) := by
  obtain ⟨older, last, maxSeq, arranged⟩ := holds.arranged
  have current := arranged.current
  have others : ∀ segment ∈ older,
      Function.update content manifest.currentSegment bytes segment.name =
        content segment.name := fun segment before =>
    Function.update_of_ne (current ▸ arranged.name_ne_current before) _ _
  have arranged' : Arranged (Function.update content manifest.currentSegment bytes) manifest older
      last maxSeq :=
    { arranged with
      covered := fun segment before => by
        rw [others segment before]
        exact arranged.covered segment before
      unused := fun next after bound => by
        have different : segmentName next ≠ manifest.currentSegment := fun same => by
          have := Writer.segmentName_inj (by omega) bound arranged.positive arranged.last_le
            (same.trans current)
          omega
        rw [Function.update_of_ne different, arranged.unused next after bound] }
  refine ⟨⟨older, last, maxSeq, arranged'⟩, ?_, Nat.le_trans holds.noted number, ?_⟩
  · have before := holds.held
    rw [arranged.listed_eq, ← current] at before
    rw [arranged'.listed_eq, ← current, Function.update_self, grown, ← List.append_assoc,
      ← before, List.flatMap_congr fun segment member => by rw [others segment member]]
  · intro record member
    rcases List.mem_append.mp member with old | new
    · exact Nat.le_trans (holds.numbered record old) number
    · exact numbered record new

theorem update_tail (holds : Holds content manifest newest records) {bytes : Bytes}
    (same : recordsIn bytes = recordsIn (content manifest.currentSegment)) :
    Holds (Function.update content manifest.currentSegment bytes) manifest newest records := by
  have grown : recordsIn bytes = recordsIn (content manifest.currentSegment) ++ [] := by
    rw [same, List.append_nil]
  have updated := holds.update grown (Nat.le_refl _) nofun
  rwa [List.append_nil] at updated

private theorem noteBatch_segments (arranged : Arranged content manifest older last maxSeq)
    (seq : UInt64) :
    (Writer.noteBatch manifest seq).segments = older ++ [⟨segmentName last, max maxSeq seq⟩] := by
  rw [Writer.noteBatch, arranged.segments, raiseLast_concat]

private theorem noteBatch_lastSeq (manifest : Manifest) (seq : UInt64) :
    (Writer.noteBatch manifest seq).lastSeq.toNat = max manifest.lastSeq.toNat seq.toNat :=
  toNat_max _ _

theorem noteBatch (holds : Holds content manifest newest records) {seq : UInt64}
    (known : seq.toNat ≤ newest) : Holds content (noteBatch manifest seq) newest records := by
  obtain ⟨older, last, maxSeq, arranged⟩ := holds.arranged
  have segments := noteBatch_segments arranged seq
  have lastSeq := noteBatch_lastSeq manifest seq
  refine ⟨⟨older, last, max maxSeq seq, { arranged with segments, bounded := ?_ }⟩, ?_, ?_,
    holds.numbered⟩
  · have := arranged.bounded
    omega
  · rw [← holds.held, arranged.listed_eq, listed, segments]
    simp
  · have := holds.noted
    omega

/-- A new segment begins after a batch that was noted. -/
private theorem arranged_rotated (arranged : Arranged content manifest older last maxSeq)
    {seq : UInt64} (later : manifest.lastSeq.toNat < seq.toNat)
    (above : ∀ record ∈ recordsIn (content (segmentName last)),
      record.seq.toNat ≤ seq.toNat) :
    Arranged content (Writer.noteBatch manifest seq).rotated
      (older ++ [⟨segmentName last, max maxSeq seq⟩]) (last + 1)
      (Writer.noteBatch manifest seq).lastSeq := by
  have segments := noteBatch_segments arranged seq
  have lastSeq := noteBatch_lastSeq manifest seq
  have next : nextSegmentName (Writer.noteBatch manifest seq).segments.getLast? =
      segmentName (last + 1) := by
    rw [segments, List.getLast?_concat]
    exact Writer.nextSegmentName_segmentName rfl
  have bounded := arranged.bounded
  exact
    { segments := by rw [Manifest.rotated, next, segments]
      current := next
      earlier := by
        intro segment member
        rcases List.mem_append.mp member with before | now
        · obtain ⟨number, positive, less, named⟩ := arranged.earlier segment before
          exact ⟨number, positive, by omega, named⟩
        · rw [List.mem_singleton.mp now]
          exact ⟨last, arranged.positive, by omega, rfl⟩
      positive := by omega
      bounded := by
        change last + 1 ≤ (Writer.noteBatch manifest seq).lastSeq.toNat + 1
        omega
      covered := by
        intro segment member record inside
        rcases List.mem_append.mp member with before | now
        · exact arranged.covered segment before record inside
        · rw [List.mem_singleton.mp now] at inside ⊢
          have numbered := above record inside
          have raised := toNat_max maxSeq seq
          simp only
          omega
      unused := fun number after bound => arranged.unused number (by omega) bound }

theorem rotated (holds : Holds content manifest newest records) {seq : UInt64}
    (greatest : seq.toNat = newest) (later : manifest.lastSeq.toNat < seq.toNat) :
    Holds content (Writer.noteBatch manifest seq).rotated newest records ∧
      content (Writer.noteBatch manifest seq).rotated.currentSegment = [] := by
  obtain ⟨older, last, maxSeq, arranged⟩ := holds.arranged
  have below := seq.toNat_lt
  have bounded := arranged.bounded
  have begun : content (segmentName (last + 1)) = [] :=
    arranged.unused (last + 1) (by omega) (by omega)
  have inCurrent : ∀ record ∈ recordsIn (content (segmentName last)), record ∈ records := by
    intro record member
    rw [← holds.held, arranged.listed_eq]
    exact List.mem_append_right _ member
  have arranged' := arranged_rotated arranged later fun record member =>
    Nat.le_trans (holds.numbered record (inCurrent record member)) (Nat.le_of_eq greatest.symm)
  refine ⟨⟨⟨_, _, _, arranged'⟩, ?_, ?_, holds.numbered⟩, arranged'.current ▸ begun⟩
  · rw [arranged'.listed_eq, begun, ← holds.held, arranged.listed_eq]
    simp [recordsIn, Record.scan, Record.scanWith]
  · have lastSeq := noteBatch_lastSeq manifest seq
    change (Writer.noteBatch manifest seq).lastSeq.toNat ≤ newest
    have := holds.noted
    omega

/-- A record newer than the bookmark is in no covered segment. -/
private theorem not_covered (holds : Holds content manifest newest records)
    {segment : SegmentInfo} (member : segment ∈ manifest.segments) {record : Record}
    (inside : record ∈ recordsIn (content segment.name))
    (newer : (manifest.snapshotBookmark.getD 0).toNat < record.seq.toNat) :
    isCovered manifest segment = false := by
  cases covered : isCovered manifest segment with
  | false => rfl
  | true =>
      obtain ⟨older, last, maxSeq, arranged⟩ := holds.arranged
      have bound := arranged.covered segment (arranged.mem_older member covered) record inside
      simp only [isCovered, Bool.and_eq_true, decide_eq_true_eq, UInt64.le_iff_toNat_le] at covered
      omega

/-- Any segments may be emptied; the records of the others stay. -/
theorem blanked (holds : Holds content manifest newest records) (names : List String) :
    (listed (Log.emptied content names) manifest).Sublist records ∧
      Holds (Log.emptied content names) manifest newest
        (listed (Log.emptied content names) manifest) := by
  have fewer (name : String) :
      (recordsIn (Log.emptied content names name)).Sublist (recordsIn (content name)) := by
    unfold Log.emptied
    split
    · exact List.nil_sublist _
    · exact List.Sublist.refl _
  have sublist : (listed (Log.emptied content names) manifest).Sublist records := by
    rw [← holds.held]
    exact List.Sublist.flatMap_right _ fun segment _ => fewer segment.name
  refine ⟨sublist, ?_, rfl, holds.noted, fun record member =>
    holds.numbered record (sublist.subset member)⟩
  obtain ⟨older, last, maxSeq, arranged⟩ := holds.arranged
  refine ⟨older, last, maxSeq, { arranged with covered := ?_, unused := ?_ }⟩
  · intro segment before record inside
    exact arranged.covered segment before record ((fewer segment.name).subset inside)
  · intro number after bound
    unfold Log.emptied
    split
    · rfl
    · exact arranged.unused number after bound

theorem emptied (holds : Holds content manifest newest records) {names : List String}
    (covered : ∀ name ∈ names, ∃ segment ∈ manifest.segments,
      segment.name = name ∧ isCovered manifest segment = true) :
    ∃ left, Trims (manifest.snapshotBookmark.getD 0).toNat records left ∧
      Holds (emptied content names) manifest newest left := by
  obtain ⟨sublist, blanked⟩ := holds.blanked names
  refine ⟨_, ⟨sublist, ?_⟩, blanked⟩
  intro record member newer
  rw [← holds.held] at member
  obtain ⟨segment, among, inside⟩ := List.mem_flatMap.mp member
  refine List.mem_flatMap.mpr ⟨segment, among, ?_⟩
  have kept : segment.name ∉ names := by
    intro gone
    obtain ⟨other, amongOthers, same, isCovered⟩ := covered segment.name gone
    rw [holds.not_covered amongOthers (same ▸ inside) newer] at isCovered
    cases isCovered
  rwa [Log.emptied, if_neg kept]

theorem trimmed (holds : Holds content manifest newest records) :
    ∃ left, Trims (manifest.snapshotBookmark.getD 0).toNat records left ∧
      Holds content manifest.trimmed newest left := by
  have sublist : (listed content manifest.trimmed).Sublist records := by
    rw [← holds.held]
    exact List.filter_sublist.flatMap _
  refine ⟨_, ⟨sublist, ?_⟩, ?_, rfl, holds.noted, fun record member =>
    holds.numbered record (sublist.subset member)⟩
  · intro record member newer
    rw [← holds.held] at member
    obtain ⟨segment, among, inside⟩ := List.mem_flatMap.mp member
    refine List.mem_flatMap.mpr ⟨segment, List.mem_filter.mpr ⟨among, ?_⟩, inside⟩
    simp [holds.not_covered among inside newer]
  · obtain ⟨older, last, maxSeq, arranged⟩ := holds.arranged
    have current : isCovered manifest ⟨segmentName last, maxSeq⟩ = false := by
      simp [isCovered, arranged.current]
    refine ⟨older.filter fun segment => !isCovered manifest segment, last, maxSeq,
      { arranged with segments := ?_, earlier := ?_, covered := ?_ }⟩
    · simp [Manifest.trimmed, arranged.segments, List.filter_append, current]
    · exact fun segment member => arranged.earlier segment (List.mem_filter.mp member).1
    · exact fun segment member => arranged.covered segment (List.mem_filter.mp member).1

end Holds

theorem Trims.refl (bookmark : Nat) (records : List Record) : Trims bookmark records records :=
  ⟨List.Sublist.refl _, fun _ member _ => member⟩

theorem Trims.trans {bookmark : Nat} {records left less : List Record}
    (first : Trims bookmark records left) (second : Trims bookmark left less) :
    Trims bookmark records less :=
  ⟨second.sublist.trans first.sublist, fun record member newer =>
    second.newer record (first.newer record member newer) newer⟩

end Log

end DocStore
