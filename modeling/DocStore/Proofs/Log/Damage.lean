import DocStore.Proofs.Log.Writer

namespace DocStore.Log

open Writer (segmentName)

theorem recordsIn_of_ends {bytes tail : Bytes} {records : List Record}
    (spells : Record.Spells bytes records) (ends : Record.decode? tail = none) :
    recordsIn (bytes ++ tail) = records := by
  rw [recordsIn, spells.scan ends]

theorem recordsIn_append {bytes : Bytes} {records : List Record}
    (spells : Record.Spells bytes records) (more : Bytes) :
    recordsIn (bytes ++ more) = records ++ recordsIn more := by
  rw [recordsIn, spells.scan_append, recordsIn]

private theorem recordsIn_take_spelled {bytes tail : Bytes} {records : List Record}
    (spells : Record.Spells bytes records) (ends : Record.decode? tail = none) (count : Nat) :
    recordsIn ((bytes ++ tail).take count) <+: records := by
  -- The cut goes through the first record, and then none is whole, or behind it.
  induction spells generalizing count with
  | nil =>
      have none : recordsIn ([] ++ tail.take count) = [] :=
        recordsIn_of_ends .nil (Record.decode?_take_eq_none ends count)
      rw [List.nil_append] at none ⊢
      exact none ▸ List.prefix_refl _
  | @cons frame rest record records decodes _ ih =>
      rw [List.append_assoc]
      by_cases cut : count < frame.length
      · have none : recordsIn ([] ++ frame.take count) = [] :=
          recordsIn_of_ends .nil (Record.decode?_take_frame decodes cut)
        rw [List.take_append_of_le_length (Nat.le_of_lt cut)]
        exact none ▸ List.nil_prefix
      · obtain ⟨more, rfl⟩ := Nat.exists_eq_add_of_le (Nat.le_of_not_lt cut)
        have first : Record.Spells frame [record] := by simpa using Record.Spells.cons decodes .nil
        rw [List.take_length_add_append, recordsIn_append first]
        exact List.cons_prefix_cons.mpr ⟨rfl, ih more⟩

theorem recordsIn_take (bytes : Bytes) (count : Nat) :
    recordsIn (bytes.take count) <+: recordsIn bytes := by
  obtain ⟨-, spells, ends⟩ := Record.spells_scan bytes
  have kept := recordsIn_take_spelled spells ends count
  rwa [List.take_append_drop] at kept

/-- A segment is cut short, or it is removed, or from the place of some record on it has other
bytes, at which scanning stops. -/
inductive Damages (files : Directory) (name : String) : Directory → Prop where
  | truncated (length : Nat) : Damages files name ((Effect.cutSegment name length).settle files)
  | removed : Damages files name ((Effect.removeSegment name).settle files)
  | spoiled {before rest other : Bytes} {records : List Record}
      (found : files.segments.get? name = some (before ++ rest))
      (read : Record.Spells before records) (stops : Record.decode? other = none) :
      Damages files name { files with segments := files.segments.insert name (before ++ other) }

/-- Nothing but the one segment is damaged, and that keeps the first of its records. -/
structure Shortened (files : Directory) (name : String) (left : Directory) : Prop where
  written : left.manifest = files.manifest
  snapshots : left.snapshots = files.snapshots
  others : ∀ other ≠ name, left.content other = files.content other
  kept : recordsIn (left.content name) <+: recordsIn (files.content name)

variable {files left : Directory} {name : String}

theorem Damages.shortened (damages : Damages files name left) : Shortened files name left := by
  cases damages with
  | truncated length =>
      cases found : files.segments.get? name with
      | none =>
          simp only [Effect.settle, Effect.apply, found, Except.toOption, Option.getD_some]
          exact ⟨rfl, rfl, fun _ _ => rfl, List.prefix_refl _⟩
      | some bytes =>
          obtain ⟨cut, apply, content, written, snapshots, -⟩ := apply_cutSegment found length
          simp only [Effect.settle, apply, Except.toOption, Option.getD_some]
          refine ⟨written, snapshots, fun other different => ?_, ?_⟩
          · rw [content, Function.update_of_ne different]
          · have whole : files.content name = bytes := by simp [Directory.content, found]
            rw [content, Function.update_self, whole]
            exact recordsIn_take bytes length
  | removed =>
      obtain ⟨content, written, snapshots, -⟩ := settle_removeSegment files name
      refine ⟨written, snapshots, fun other different => ?_, ?_⟩
      · rw [content, Function.update_of_ne different]
      · rw [content, Function.update_self]
        exact List.nil_prefix
  | @spoiled before rest other records found read stops =>
      have whole : files.content name = before ++ rest := by simp [Directory.content, found]
      refine ⟨rfl, rfl, fun other' different => ?_, ?_⟩
      · simp only [content_insert, Function.update_of_ne different]
      · simp only [content_insert, Function.update_self, whole, recordsIn_of_ends read stops,
          recordsIn_append read]
        exact List.prefix_append _ _

namespace Shortened

theorem readManifest (shortened : Shortened files name left) :
    Log.readManifest left = Log.readManifest files := by
  simp only [Log.readManifest, shortened.written]

variable {manifest : Manifest} {newest : Nat} {records : List Record}
  {older newer : List SegmentInfo} {damaged : SegmentInfo}

theorem fewer (shortened : Shortened files name left) (other : String) :
    recordsIn (left.content other) <+: recordsIn (files.content other) := by
  by_cases same : other = name
  · exact same ▸ shortened.kept
  · exact shortened.others other same ▸ List.prefix_refl _

theorem holds (shortened : Shortened files damaged.name left) (member : damaged ∈ manifest.segments)
    (holds : Holds files.content manifest newest records) :
    Holds left.content manifest newest (listed left.content manifest) ∧
      (listed left.content manifest).Sublist records := by
  have sublist : (listed left.content manifest).Sublist records := by
    rw [← holds.held]
    exact List.Sublist.flatMap_right _ fun segment _ => (shortened.fewer segment.name).sublist
  obtain ⟨older, last, maxSeq, arranged⟩ := holds.arranged
  refine ⟨⟨⟨older, last, maxSeq, { arranged with covered := ?_, unused := ?_ }⟩, rfl, holds.noted,
    fun record inside => holds.numbered record (sublist.subset inside)⟩, sublist⟩
  · intro segment before record inside
    exact arranged.covered segment before record ((shortened.fewer segment.name).subset inside)
  · intro number after bound
    rw [shortened.others, arranged.unused number after bound]
    intro same
    rw [arranged.segments, List.mem_append, List.mem_singleton] at member
    rcases member with before | rfl
    · obtain ⟨older, positive, less, named⟩ := arranged.earlier damaged before
      have := Writer.segmentName_inj (by omega) bound positive
        (Nat.le_trans (Nat.le_of_lt less) arranged.last_le) (same.trans named)
      omega
    · have := Writer.segmentName_inj (by omega) bound arranged.positive arranged.last_le same
      omega

/-- A segment that is listed twice has no records, as no record is in the log twice. -/
private theorem no_records_of_listed_twice {content : String → Bytes}
    (segments : manifest.segments = older ++ damaged :: newer)
    (distinct : (listed content manifest).Nodup) {segment : SegmentInfo}
    (member : segment ∈ older ++ newer) (same : segment.name = damaged.name) :
    recordsIn (content damaged.name) = [] := by
  rw [listed, segments, List.flatMap_append, List.flatMap_cons, List.nodup_append,
    List.nodup_append] at distinct
  refine List.eq_nil_iff_forall_not_mem.mpr fun record inside => ?_
  rcases List.mem_append.mp member with before | after
  · exact distinct.2.2 record (List.mem_flatMap.mpr ⟨segment, before, same ▸ inside⟩) record
      (List.mem_append_left _ inside) rfl
  · exact distinct.2.1.2.2 record inside record
      (List.mem_flatMap.mpr ⟨segment, after, same ▸ inside⟩) rfl

/-- The records fall into those before the damage, which the log keeps, those that it loses, and
those of later segments, which it keeps as well. -/
theorem parts (shortened : Shortened files damaged.name left)
    (segments : manifest.segments = older ++ damaged :: newer)
    (distinct : (listed files.content manifest).Nodup) :
    ∃ kept lost later, listed files.content manifest = kept ++ lost ++ later ∧
      listed left.content manifest = kept ++ later ∧
      later = newer.flatMap fun segment => recordsIn (left.content segment.name) := by
  obtain ⟨lost, split⟩ := shortened.kept
  have whole : listed files.content manifest =
      older.flatMap (fun segment => recordsIn (files.content segment.name)) ++
        (recordsIn (left.content damaged.name) ++ lost ++
          newer.flatMap fun segment => recordsIn (files.content segment.name)) := by
    rw [listed, segments, List.flatMap_append, List.flatMap_cons, split]
  have others : ∀ segment ∈ older ++ newer,
      recordsIn (files.content segment.name) = recordsIn (left.content segment.name) := by
    intro segment member
    by_cases same : segment.name = damaged.name
    · have none := no_records_of_listed_twice segments distinct member same
      rw [same, none]
      exact (List.prefix_nil.mp (none ▸ shortened.kept)).symm
    · rw [shortened.others segment.name same]
  refine ⟨older.flatMap (fun segment => recordsIn (left.content segment.name)) ++
    recordsIn (left.content damaged.name), lost, _, ?_, ?_, rfl⟩
  · rw [whole, List.flatMap_congr fun segment member =>
      others segment (List.mem_append_left _ member), List.flatMap_congr fun segment member =>
      others segment (List.mem_append_right _ member)]
    simp
  · rw [listed, segments, List.flatMap_append, List.flatMap_cons]
    simp

end Shortened

end DocStore.Log
