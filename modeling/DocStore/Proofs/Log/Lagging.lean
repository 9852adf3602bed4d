import DocStore.Proofs.Log.Writer
/-!
Manifests that lag behind.

A log goes on when its manifest cannot be written, and segments are begun that
the written manifest does not list.  `Lags` ties the manifest that was written
last to that of the open log: the written one still tells of all records but
those in segments that were begun since, and of these none is as old as a record
that it tells of.
-/

namespace DocStore.Log

open Writer (segmentName nextSegmentName noteBatch isCovered)

variable {content : String → Bytes} {written manifest : Manifest} {later names : List String}
  {name : String} {newest bound : Nat} {records : List Record} {seq : UInt64}

namespace Manifest

theorem lists_iff :
    manifest.lists name = true ↔ ∃ segment ∈ manifest.segments, segment.name = name := by
  simp [lists]

theorem lists_noteBatch (manifest : Manifest) (seq : UInt64) (name : String) :
    (noteBatch manifest seq).lists name = manifest.lists name := by
  have names (manifest : Manifest) :
      manifest.lists name = (manifest.segments.map SegmentInfo.name).any (· == name) := by
    rw [List.any_map]
    rfl
  rw [names, names, noteBatch, map_name_raiseLast]

theorem lists_rotated (manifest : Manifest) (name : String) :
    manifest.rotated.lists name =
      (manifest.lists name || manifest.rotated.currentSegment == name) := by
  simp [lists, rotated]

end Manifest

theorem emptied_eq_self (nothing : ∀ name ∈ names, content name = []) :
    emptied content names = content := by
  funext name
  unfold emptied
  split
  · next member => rw [nothing name member]
  · rfl

@[simp] theorem emptied_nil (content : String → Bytes) : emptied content [] = content :=
  emptied_eq_self (by simp)

theorem emptied_snoc (nothing : content name = []) :
    emptied content (names ++ [name]) = emptied content names := by
  funext other
  unfold emptied
  by_cases same : other = name
  · simp [same, nothing]
  · simp [same]

theorem emptied_update (member : name ∈ names) (bytes : Bytes) :
    emptied (Function.update content name bytes) names = emptied content names := by
  funext other
  unfold emptied
  split
  · rfl
  · next absent =>
      have different : other ≠ name := fun same => absent (same.symm ▸ member)
      exact Function.update_of_ne different _ _

theorem emptied_comm (content : String → Bytes) (names others : List String) :
    emptied (emptied content names) others = emptied (emptied content others) names := by
  funext name
  unfold emptied
  split <;> split <;> rfl

theorem emptied_nil_or_same (content : String → Bytes) (names : List String) (name : String) :
    emptied content names name = [] ∨ emptied content names name = content name := by
  unfold emptied
  split
  · exact .inl rfl
  · exact .inr rfl

/-- The written manifest lags behind that of the open log, with the segments `later` begun since.
It tells of the given records, none of them above `bound`. -/
structure Lags (content : String → Bytes) (written manifest : Manifest) (later : List String)
    (newest bound : Nat) (records : List Record) : Prop where
  told : Holds (emptied content later) written bound records
  within : bound ≤ newest
  listed : ∀ name, manifest.lists name = true → written.lists name = true ∨ name ∈ later
  unlisted : ∀ name ∈ later, written.lists name = false
  gone : ∀ name, written.lists name = true ∨ name ∈ later → manifest.lists name = false →
    content name = []
  newer : ∀ name ∈ later, ∀ record ∈ recordsIn (content name), bound < record.seq.toNat
  whole : ∀ name ∈ later, Record.Spells (content name) (recordsIn (content name))
  current : later = [] ∧ manifest.currentSegment = written.currentSegment ∧ bound = newest ∨
    manifest.currentSegment ∈ later
  behind : ∃ first last, written.currentSegment = segmentName first ∧
    manifest.currentSegment = segmentName last ∧ 0 < first ∧ first ≤ last ∧ last ≤ 2 ^ 64

theorem Holds.lists_current (holds : Holds content manifest newest records) :
    manifest.lists manifest.currentSegment = true := by
  obtain ⟨older, last, maxSeq, arranged⟩ := holds.arranged
  exact Manifest.lists_iff.mpr
    ⟨⟨segmentName last, maxSeq⟩, by simp [arranged.segments], arranged.current.symm⟩

theorem Holds.mono (holds : Holds content manifest newest records) {more : Nat}
    (above : newest ≤ more) : Holds content manifest more records :=
  ⟨holds.arranged, holds.held, Nat.le_trans holds.noted above,
    fun record member => Nat.le_trans (holds.numbered record member) above⟩

/-- Segments that the manifest lists are told by numbers up to that of the current one. -/
theorem Holds.number_of_lists (holds : Holds content manifest newest records)
    (listed : manifest.lists name = true) :
    ∃ number last, name = segmentName number ∧ manifest.currentSegment = segmentName last ∧
      0 < number ∧ number ≤ last ∧ last ≤ 2 ^ 64 := by
  obtain ⟨older, last, maxSeq, arranged⟩ := holds.arranged
  obtain ⟨segment, member, rfl⟩ := Manifest.lists_iff.mp listed
  obtain ⟨number, positive, within, named⟩ := arranged.named member
  exact ⟨number, last, named, arranged.current, positive, within, arranged.last_le⟩

/-- A segment that begins is a new one. -/
theorem Holds.not_lists_rotated (rotated : Holds content manifest.rotated newest records) :
    manifest.lists manifest.rotated.currentSegment = false := by
  obtain ⟨older, last, maxSeq, arranged⟩ := rotated.arranged
  obtain ⟨rfl, -⟩ := List.append_inj' (arranged.segments.symm : _ = manifest.segments ++ _) rfl
  refine Bool.eq_false_iff.mpr fun listed => ?_
  obtain ⟨segment, member, same⟩ := Manifest.lists_iff.mp listed
  exact arranged.name_ne_current member (same.trans arranged.current)

namespace Lags

/-- A manifest that was just written does not lag behind. -/
theorem refl (holds : Holds content manifest newest records) :
    Lags content manifest manifest [] newest newest records := by
  obtain ⟨older, last, maxSeq, arranged⟩ := holds.arranged
  refine ⟨by simpa using holds, Nat.le_refl _, fun _ listed => .inl listed, by simp, ?_, by simp,
    by simp, .inl ⟨rfl, rfl, rfl⟩, last, last, arranged.current, arranged.current,
    arranged.positive, Nat.le_refl _, arranged.last_le⟩
  intro name listed unlisted
  simp [unlisted] at listed

/-- Another manifest that lists the same segments and goes on with the same one. -/
theorem congr (lags : Lags content written manifest later newest bound records) {now : Manifest}
    (lists : ∀ name, now.lists name = manifest.lists name)
    (current : now.currentSegment = manifest.currentSegment) :
    Lags content written now later newest bound records := by
  refine ⟨lags.told, lags.within, fun name listed => lags.listed name (lists name ▸ listed),
    lags.unlisted, fun name known unlisted => lags.gone name known (lists name ▸ unlisted),
    lags.newer, lags.whole, current ▸ lags.current, current ▸ lags.behind⟩

section Appending

variable {bytes : Bytes} {record : Record}
  (grown : recordsIn bytes = recordsIn (content manifest.currentSegment) ++ [record])
  (next : newest < record.seq.toNat)

private theorem gone_update (lags : Lags content written manifest later newest bound records)
    (listed : manifest.lists manifest.currentSegment = true) (bytes : Bytes) (name : String)
    (known : written.lists name = true ∨ name ∈ later) (unlisted : manifest.lists name = false) :
    Function.update content manifest.currentSegment bytes name = [] := by
  have other : name ≠ manifest.currentSegment := by
    rintro rfl
    simp [listed] at unlisted
  rw [Function.update_of_ne other, lags.gone name known unlisted]

include grown next

/-- The written manifest lists the current segment, and tells of what is appended to it. -/
private theorem append_listed (lags : Lags content written manifest [] newest bound records)
    (listed : manifest.lists manifest.currentSegment = true)
    (current : manifest.currentSegment = written.currentSegment) :
    Lags (Function.update content manifest.currentSegment bytes) written manifest []
      record.seq.toNat record.seq.toNat (records ++ [record]) := by
  have within := lags.within
  have told : Holds content written bound records := by simpa using lags.told
  rw [current] at grown
  have updated := told.update grown (by omega : bound ≤ record.seq.toNat) (by simp)
  rw [← current] at updated
  exact ⟨by simpa using updated, Nat.le_refl _, lags.listed, by simp, lags.gone_update listed bytes,
    by simp, by simp, .inl ⟨rfl, current, rfl⟩, lags.behind⟩

/-- The written manifest does not list the current segment, and tells of no more than before. -/
private theorem append_unlisted (lags : Lags content written manifest later newest bound records)
    (listed : manifest.lists manifest.currentSegment = true)
    (spells : Record.Spells bytes (recordsIn bytes))
    (member : manifest.currentSegment ∈ later) :
    Lags (Function.update content manifest.currentSegment bytes) written manifest later
      record.seq.toNat bound records := by
  have within := lags.within
  refine ⟨?_, by omega, lags.listed, lags.unlisted, lags.gone_update listed bytes, ?_, ?_,
    .inr member, lags.behind⟩
  · rw [emptied_update member]
    exact lags.told
  · intro name among other inside
    by_cases here : name = manifest.currentSegment
    · rw [here, Function.update_self, grown] at inside
      rcases List.mem_append.mp inside with before | now
      · exact lags.newer _ member other before
      · rw [List.mem_singleton.mp now]
        omega
    · rw [Function.update_of_ne here] at inside
      exact lags.newer name among other inside
  · intro name among
    by_cases here : name = manifest.currentSegment
    · rwa [here, Function.update_self]
    · rw [Function.update_of_ne here]
      exact lags.whole name among

/-- A newer record is appended to the current segment. -/
theorem append (lags : Lags content written manifest later newest bound records)
    (listed : manifest.lists manifest.currentSegment = true)
    (spells : Record.Spells bytes (recordsIn bytes)) :
    ∃ bound' records', bound ≤ bound' ∧ (records' = records ∨ records' = records ++ [record]) ∧
      Lags (Function.update content manifest.currentSegment bytes) written manifest later
        record.seq.toNat bound' records' := by
  rcases lags.current with ⟨rfl, current, -⟩ | member
  · have within := lags.within
    exact ⟨record.seq.toNat, _, by omega, .inr rfl, lags.append_listed grown next listed current⟩
  · exact ⟨bound, records, Nat.le_refl _, .inl rfl,
      lags.append_unlisted grown next listed spells member⟩

end Appending

section Rotating

variable {held : List Record}

/-- Segments are numbered in their order, and a new one comes after that of the open log. -/
theorem behind_rotated (lags : Lags content written manifest later newest bound records)
    (listed : manifest.lists manifest.currentSegment = true)
    (rotated : Holds content manifest.rotated newest held) :
    ∃ first fresh, written.currentSegment = segmentName first ∧
      manifest.rotated.currentSegment = segmentName fresh ∧ 0 < first ∧ first < fresh ∧
        fresh ≤ 2 ^ 64 := by
  obtain ⟨first, last, writtenCurrent, current, positive, ordered, small⟩ := lags.behind
  obtain ⟨number, fresh, named, freshCurrent, numberPositive, before, freshSmall⟩ :=
    rotated.number_of_lists (by rw [Manifest.lists_rotated, listed, Bool.true_or])
  obtain rfl : last = number := Writer.segmentName_inj (by omega) small numberPositive
    (Nat.le_trans before freshSmall) (current.symm.trans named)
  have later : last < fresh := by
    refine Nat.lt_of_le_of_ne before ?_
    rintro rfl
    have new := rotated.not_lists_rotated
    rw [freshCurrent, ← current, listed] at new
    cases new
  exact ⟨first, fresh, writtenCurrent, freshCurrent, positive, by omega, freshSmall⟩

/-- The written manifest lists no segment as new as one that begins. -/
theorem not_lists_rotated (lags : Lags content written manifest later newest bound records)
    (listed : manifest.lists manifest.currentSegment = true)
    (rotated : Holds content manifest.rotated newest held) :
    written.lists manifest.rotated.currentSegment = false := by
  obtain ⟨first, fresh, current, freshCurrent, positive, ordered, small⟩ :=
    lags.behind_rotated listed rotated
  refine Bool.eq_false_iff.mpr fun known => ?_
  obtain ⟨number, last, named, lastCurrent, positive', within, small'⟩ :=
    lags.told.number_of_lists known
  obtain rfl : last = first := Writer.segmentName_inj (by omega) small' positive (by omega)
    (lastCurrent.symm.trans current)
  obtain rfl : number = fresh := Writer.segmentName_inj positive' (by omega) (by omega) small
    (named.symm.trans freshCurrent)
  omega

/-- A new segment begins, which the written manifest does not list. -/
theorem rotated (lags : Lags content written manifest later newest bound records)
    (listed : manifest.lists manifest.currentSegment = true)
    (rotated : Holds content manifest.rotated newest held)
    (begun : content manifest.rotated.currentSegment = []) :
    Lags content written manifest.rotated (later ++ [manifest.rotated.currentSegment]) newest bound
      records := by
  have unlisted := lags.not_lists_rotated listed rotated
  obtain ⟨first, fresh, current, freshCurrent, positive, ordered, small⟩ :=
    lags.behind_rotated listed rotated
  refine ⟨?_, lags.within, fun name listed => ?_, ?_, fun name known gone => ?_, ?_, ?_,
    .inr (by simp), first, fresh, current, freshCurrent, positive, Nat.le_of_lt ordered, small⟩
  · rw [emptied_snoc begun]
    exact lags.told
  · rw [Manifest.lists_rotated, Bool.or_eq_true, beq_iff_eq] at listed
    rcases listed with old | rfl
    · exact (lags.listed name old).imp_right fun member => List.mem_append_left _ member
    · exact .inr (by simp)
  · simpa [or_imp, forall_and] using ⟨lags.unlisted, unlisted⟩
  · rw [Manifest.lists_rotated, Bool.or_eq_false_iff, beq_eq_false_iff_ne] at gone
    refine lags.gone name (known.imp_right fun member => ?_) gone.1
    simpa [Ne.symm gone.2] using member
  · intro name member record inside
    rcases List.mem_append.mp member with old | now
    · exact lags.newer name old record inside
    · rw [List.mem_singleton.mp now, begun] at inside
      cases inside
  · intro name member
    rcases List.mem_append.mp member with old | now
    · exact lags.whole name old
    · rw [List.mem_singleton.mp now, begun]
      exact .nil

end Rotating

/-- Segments are emptied. -/
theorem emptied (lags : Lags content written manifest later newest bound records)
    (names : List String) :
    ∃ left, left.Sublist records ∧
      Lags (Log.emptied content names) written manifest later newest bound left := by
  obtain ⟨sublist, told⟩ := lags.told.blanked names
  refine ⟨_, sublist, ?_, lags.within, lags.listed, lags.unlisted, ?_, ?_, ?_, lags.current,
    lags.behind⟩
  · rw [emptied_comm]
    exact told
  · intro name known unlisted
    rcases emptied_nil_or_same content names name with nothing | same
    · exact nothing
    · rw [same, lags.gone name known unlisted]
  · intro name member record inside
    rcases emptied_nil_or_same content names name with nothing | same
    · rw [nothing] at inside
      cases inside
    · exact lags.newer name member record (same ▸ inside)
  · intro name member
    rcases emptied_nil_or_same content names name with nothing | same
    · rw [nothing]
      exact .nil
    · rw [same]
      exact lags.whole name member

/-- Segments that are empty are no longer listed. -/
theorem trimmed (lags : Lags content written manifest later newest bound records)
    (nothing : ∀ segment ∈ manifest.segments, isCovered manifest segment = true →
      content segment.name = []) :
    Lags content written manifest.trimmed later newest bound records := by
  have among {name : String} (listed : manifest.trimmed.lists name = true) :
      manifest.lists name = true := by
    obtain ⟨segment, member, rfl⟩ := Manifest.lists_iff.mp listed
    exact Manifest.lists_iff.mpr ⟨segment, (List.mem_filter.mp member).1, rfl⟩
  refine ⟨lags.told, lags.within, fun name listed => lags.listed name (among listed),
    lags.unlisted, fun name known unlisted => ?_, lags.newer, lags.whole, lags.current,
    lags.behind⟩
  cases listed : manifest.lists name with
  | false => exact lags.gone name known listed
  | true =>
      obtain ⟨segment, member, rfl⟩ := Manifest.lists_iff.mp listed
      refine nothing segment member ?_
      by_contra kept
      have still : manifest.trimmed.lists segment.name = true :=
        Manifest.lists_iff.mpr ⟨segment, List.mem_filter.mpr ⟨member, by simpa using kept⟩, rfl⟩
      simp [still] at unlisted

/-- What the written manifest tells of, the manifest of the open log does too. -/
theorem told_subset (lags : Lags content written manifest later newest bound records) :
    records ⊆ Log.listed content manifest := by
  intro record member
  rw [← lags.told.held] at member
  obtain ⟨segment, among, inside⟩ := List.mem_flatMap.mp member
  rcases emptied_nil_or_same content later segment.name with nothing | kept
  · rw [nothing] at inside
    cases inside
  rw [kept] at inside
  cases lists : manifest.lists segment.name with
  | false =>
      have known : written.lists segment.name = true := Manifest.lists_iff.mpr ⟨segment, among, rfl⟩
      rw [lags.gone _ (.inl known) lists] at inside
      cases inside
  | true =>
      obtain ⟨other, among, same⟩ := Manifest.lists_iff.mp lists
      exact List.mem_flatMap.mpr ⟨other, among, same ▸ inside⟩

/-- Records that the written manifest does not tell of are in segments that it does not list. -/
theorem told_or_later (lags : Lags content written manifest later newest bound records)
    {record : Record} (held : record ∈ Log.listed content manifest) :
    record ∈ records ∨ ∃ segment ∈ manifest.segments, segment.name ∈ later ∧
      record ∈ recordsIn (content segment.name) := by
  obtain ⟨segment, among, inside⟩ := List.mem_flatMap.mp held
  by_cases new : segment.name ∈ later
  · exact .inr ⟨segment, among, new, inside⟩
  · have known := lags.listed _ (Manifest.lists_iff.mpr ⟨segment, among, rfl⟩)
    obtain ⟨other, amongWritten, same⟩ := Manifest.lists_iff.mp (known.resolve_right new)
    refine .inl ?_
    rw [← lags.told.held]
    refine List.mem_flatMap.mpr ⟨other, amongWritten, ?_⟩
    rwa [same, Log.emptied, if_neg new]

/-- If the segments that the written manifest does not list have no records, they have no bytes
either. -/
theorem emptied_eq (lags : Lags content written manifest later newest bound records)
    (nothing : ∀ segment ∈ manifest.segments, written.lists segment.name = false →
      recordsIn (content segment.name) = []) :
    Log.emptied content later = content := by
  refine emptied_eq_self fun name among => ?_
  cases lists : manifest.lists name with
  | false => exact lags.gone name (.inr among) lists
  | true =>
      obtain ⟨segment, member, rfl⟩ := Manifest.lists_iff.mp lists
      exact (lags.whole _ among).eq_nil (nothing segment member (lags.unlisted _ among))

end Lags

end DocStore.Log
