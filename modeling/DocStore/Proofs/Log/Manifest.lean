import DocStore.Log.Manifest
import DocStore.Proofs.Json.Spacing

namespace DocStore.Log

open Json (Fits)

theorem SegmentInfo.ofJson?_toJson (segment : SegmentInfo) :
    ofJson? segment.toJson = some segment := by
  cases segment
  rfl

theorem SegmentInfo.fits (depth : Nat) (segment : SegmentInfo) :
    Fits (depth + 1) segment.toJson := by
  refine .object fun member listed => ?_
  simp only [List.mem_cons, List.not_mem_nil, or_false] at listed
  rcases listed with rfl | rfl
  · exact .string _ _
  · exact .number _ _

theorem SegmentInfo.legible (segment : SegmentInfo) : segment.toJson.Legible := by
  simp [toJson]

namespace Manifest

def members (manifest : Manifest) : List (String × Json) :=
  [("version", .number (.natural manifest.version.toUInt64)),
    ("current_snapshot", (manifest.currentSnapshot.map Json.string).getD .null),
    ("snapshot_bookmark",
      (manifest.snapshotBookmark.map fun seq => Json.number (.natural seq)).getD .null),
    ("last_seq", .number (.natural manifest.lastSeq)),
    ("current_segment", .string manifest.currentSegment),
    ("segments", .array (manifest.segments.map SegmentInfo.toJson))]

private theorem members_fit (manifest : Manifest) (depth : Nat) :
    ∀ member ∈ manifest.members, Fits (depth + 2) member.2 := by
  intro member listed
  simp only [members, List.mem_cons, List.not_mem_nil, or_false] at listed
  rcases listed with rfl | rfl | rfl | rfl | rfl | rfl
  · exact .number _ _
  · cases manifest.currentSnapshot with
    | none => exact .null _
    | some name => exact .string _ _
  · cases manifest.snapshotBookmark with
    | none => exact .null _
    | some seq => exact .number _ _
  · exact .number _ _
  · exact .string _ _
  · refine .array fun item listed => ?_
    obtain ⟨segment, -, rfl⟩ := List.mem_map.mp listed
    exact segment.fits depth

private theorem members_legible (manifest : Manifest) :
    ∀ member ∈ manifest.members, member.2.Legible := by
  intro member listed
  simp only [members, List.mem_cons, List.not_mem_nil, or_false] at listed
  rcases listed with rfl | rfl | rfl | rfl | rfl | rfl
  · simp
  · cases manifest.currentSnapshot <;> simp
  · cases manifest.snapshotBookmark <;> simp
  · simp
  · simp
  · simp [SegmentInfo.legible]

/-- An optional value is read from what it is written as, or from `null`. -/
private theorem asOption?_getD_null {α : Type} (read : Json → Option α) (write : α → Json)
    (reads : ∀ value, read (write value) = some value) (written : ∀ value, write value ≠ .null)
    (value : Option α) :
    Json.asOption? read (some ((value.map write).getD .null)) = some value := by
  cases value with
  | none => rfl
  | some value => simp [Json.asOption?, reads, written]

private theorem version_read (version : UInt32) :
    Json.asUInt32? (.number (.natural version.toUInt64)) = some version := by
  have below := version.toNat_lt
  simp [Json.asUInt32?, below]

private theorem segments_read (segments : List SegmentInfo) :
    segments.mapM (SegmentInfo.ofJson? ∘ SegmentInfo.toJson) = some segments := by
  induction segments with
  | nil => rfl
  | cons segment rest ih => simp [SegmentInfo.ofJson?_toJson, ih]

theorem ofFields?_members (manifest : Manifest) : ofFields? manifest.members = some manifest := by
  have snapshot := asOption?_getD_null Json.asString? .string (fun _ => rfl) nofun
    manifest.currentSnapshot
  have bookmark := asOption?_getD_null Json.asUInt64? (fun seq => .number (.natural seq))
    (fun _ => rfl) nofun manifest.snapshotBookmark
  simp [ofFields?, members, Json.FieldValues.typed?, Json.FieldValues.get?, List.lookup_cons,
    Json.asUInt64?, Json.asString?, Json.asList?, version_read, snapshot, bookmark,
    segments_read]

/-- A manifest is read back from its text. -/
theorem ofText?_text (manifest : Manifest) : ofText? manifest.text = some manifest := by
  have read : Json.parseRecord
      ["version", "current_snapshot", "snapshot_bookmark", "last_seq", "current_segment",
        "segments"] manifest.text.toList = .ok manifest.members :=
    Json.parseRecord_indentedText
      { known := by simp
        distinct := by simp
        fits := manifest.members_fit 124
        legible := manifest.members_legible }
  simp [ofText?, read, Except.toOption, ofFields?_members]

end Manifest

end DocStore.Log
