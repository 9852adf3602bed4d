import DocStore.Json.Record
import DocStore.Json.Writer

namespace DocStore.Log

/-- A segment file, with a number that no commit in it is above. -/
structure SegmentInfo where
  name : String
  maxSeq : UInt64
deriving DecidableEq, Repr

structure Manifest where
  version : UInt32
  currentSnapshot : Option String
  snapshotBookmark : Option UInt64
  lastSeq : UInt64
  currentSegment : String
  segments : List SegmentInfo
deriving DecidableEq, Repr

namespace SegmentInfo

def toJson (segment : SegmentInfo) : Json :=
  .object [("name", .string segment.name), ("max_seq", .number (.natural segment.maxSeq))]

def ofJson? (value : Json) : Option SegmentInfo := do
  let found ← Json.fieldsOf? ["name", "max_seq"] value
  let name ← found.typed? "name" Json.asString?
  let maxSeq ← found.typed? "max_seq" Json.asUInt64?
  some ⟨name, maxSeq⟩

end SegmentInfo

namespace Manifest

/-- What a log without manifest is read as. -/
def blank : Manifest := ⟨0, none, none, 0, "", []⟩

/-- The manifest that a new log begins with. -/
def first : Manifest := { blank with version := 1 }

def toJson (manifest : Manifest) : Json :=
  .object [
    ("version", .number (.natural manifest.version.toUInt64)),
    ("current_snapshot", (manifest.currentSnapshot.map Json.string).getD .null),
    ("snapshot_bookmark",
      (manifest.snapshotBookmark.map fun seq => Json.number (.natural seq)).getD .null),
    ("last_seq", .number (.natural manifest.lastSeq)),
    ("current_segment", .string manifest.currentSegment),
    ("segments", .array (manifest.segments.map SegmentInfo.toJson))]

def text (manifest : Manifest) : String := manifest.toJson.indentedText

def ofFields? (found : Json.FieldValues) : Option Manifest := do
  let version ← found.typed? "version" Json.asUInt32?
  let currentSnapshot ← Json.asOption? Json.asString? (found.get? "current_snapshot")
  let snapshotBookmark ← Json.asOption? Json.asUInt64? (found.get? "snapshot_bookmark")
  let lastSeq ← found.typed? "last_seq" Json.asUInt64?
  let currentSegment ← found.typed? "current_segment" Json.asString?
  let segments ← found.typed? "segments" (Json.asList? SegmentInfo.ofJson?)
  some ⟨version, currentSnapshot, snapshotBookmark, lastSeq, currentSegment, segments⟩

def ofText? (text : String) : Option Manifest := do
  let fields :=
    ["version", "current_snapshot", "snapshot_bookmark", "last_seq", "current_segment", "segments"]
  let found ← (Json.parseRecord fields text.toList).toOption
  ofFields? found

def lists (manifest : Manifest) (name : String) : Bool :=
  manifest.segments.any fun segment => segment.name == name

end Manifest

end DocStore.Log
