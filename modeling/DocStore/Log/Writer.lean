import DocStore.Files
import DocStore.Log.Manifest
import DocStore.Log.Record
import DocStore.Text.Natural
/-!
Writing the log.

Records are appended to the current segment in batches; a segment that has
grown large enough is followed by a new one.  The manifest is written after
every batch, but a batch counts as written once its bytes are in the segment:
that the manifest cannot be written is no failure of the batch.
-/

namespace DocStore.Log

/-- How large segments and batches may grow before the next one begins. -/
structure Options where
  segmentBytes : UInt64
  batchMaxBytes : UInt64
  batchMaxMillis : UInt64
deriving DecidableEq, Repr

namespace Options

def standard : Options := ⟨256 * 1024 * 1024, 256 * 1024, 3⟩

end Options

structure Activity where
  records : Nat
  bytes : Nat
  batches : Nat
deriving DecidableEq, Repr

/-- An open log: its manifest and the length of the current segment. -/
structure Writer where
  options : Options
  manifest : Manifest
  segmentLength : Nat
  activity : Activity

/-- The manifest of a directory, if there is one. -/
def readManifest (files : Directory) : Except IoError (Option Manifest) :=
  match files.manifest with
  | none => .ok none
  | some text =>
      match Manifest.ofText? text with
      | some manifest => .ok (some manifest)
      | none => .error .invalidData

/-- The whole records of a segment; a missing segment or one that cannot be read has none. -/
def segmentRecords (files : Directory) (name : String) : List Record :=
  match Directory.readFile files.segments name with
  | .ok bytes => (Record.scan bytes).1
  | .error _ => []

/-- All whole records of the segments that the manifest lists, in its order. -/
def replay (files : Directory) : Except IoError (List Record) := do
  let manifest ← readManifest files
  .ok ((manifest.getD .blank).segments.flatMap fun segment => segmentRecords files segment.name)

namespace Writer

/-- Digits with zeros in front, at least eight. -/
def padded (number : Nat) : String :=
  let digits := Nat.toDigits 10 number
  String.ofList (List.replicate (8 - digits.length) '0' ++ digits)

def dropExtensions : Nat → List Char → List Char
  | 0, reversed => reversed
  | fuel + 1, reversed =>
      match reversed with
      | 'l' :: 'a' :: 'w' :: '.' :: rest => dropExtensions fuel rest
      | _ => reversed

def nextSegmentName (last : Option SegmentInfo) : String :=
  let number := last.bind fun segment =>
    let reversed := segment.name.toList.reverse
    Text.natural? (2 ^ 64) (dropExtensions reversed.length reversed).reverse
  match number with
  | some number => padded ((number + 1) % 2 ^ 64) ++ ".wal"
  | none => "00000001.wal"

/-- Writes the manifest beside its place and moves it there. -/
def persist (manifest : Manifest) : Plan (Except IoError Unit) := do
  match ← Plan.effect (.stageManifest manifest.text) with
  | .error error => return .error error
  | .ok () => Plan.effect .publishManifest

/-- The manifest with a segment as its current one; a segment that is not listed goes to the end. -/
def adopt (manifest : Manifest) (name : String) : Manifest :=
  let segments :=
    if manifest.lists name then manifest.segments
    else manifest.segments ++ [⟨name, manifest.lastSeq⟩]
  { manifest with currentSegment := name, segments }

/-- Opens the log of a directory.  A torn tail of the current segment is cut off. -/
def openIn (files : Directory) (options : Options) : Plan (Except IoError Writer) := do
  match readManifest files with
  | .error error => return .error error
  | .ok found =>
      let manifest := found.getD .first
      let name :=
        if manifest.currentSegment.isEmpty then nextSegmentName manifest.segments.getLast?
        else manifest.currentSegment
      match ← Plan.effect (.createSegment name) with
      | .error error => return .error error
      | .ok () =>
          let content := (files.segments.get? name).getD []
          let valid := (Record.scan content).2
          let cut ←
            if valid < content.length then Plan.effect (.cutSegment name valid)
            else pure (.ok ())
          match cut with
          | .error error => return .error error
          | .ok () =>
              let manifest := adopt manifest name
              match ← persist manifest with
              | .error error => return .error error
              | .ok () => return .ok ⟨options, manifest, valid, ⟨0, 0, 0⟩⟩

/-- Begins a new segment.  When its file cannot be created the current one goes on. -/
def rotate (writer : Writer) : Plan Writer := do
  let name := nextSegmentName writer.manifest.segments.getLast?
  match ← Plan.effect (.createSegment name) with
  | .error _ => return writer
  | .ok () =>
      let manifest :=
        { writer.manifest with
          currentSegment := name
          segments := writer.manifest.segments ++ [⟨name, writer.manifest.lastSeq⟩] }
      let _ ← persist manifest
      return { writer with manifest, segmentLength := 0 }

/-- Raises the number of the last segment. -/
def raiseLast (seq : UInt64) : List SegmentInfo → List SegmentInfo
  | [] => []
  | [segment] => [{ segment with maxSeq := max segment.maxSeq seq }]
  | segment :: rest => segment :: raiseLast seq rest

/-- The manifest after a batch whose greatest number is `seq`. -/
def noteBatch (manifest : Manifest) (seq : UInt64) : Manifest :=
  { manifest with
    lastSeq := max manifest.lastSeq seq
    segments := raiseLast seq manifest.segments }

def writeBatch (writer : Writer) (batch : List (UInt64 × Bytes)) :
    Plan (Except IoError Unit × Writer) := do
  let bytes := batch.flatMap Prod.snd
  match ← Plan.effect (.appendSegment writer.manifest.currentSegment bytes) with
  | .error error => return (.error error, writer)
  | .ok () =>
      let greatest := (batch.map Prod.fst).foldl max 0
      let manifest := noteBatch writer.manifest greatest
      let written :=
        { writer with
          manifest
          segmentLength := writer.segmentLength + bytes.length
          activity := { writer.activity with batches := writer.activity.batches + 1 } }
      let _ ← persist manifest
      if writer.options.segmentBytes.toNat ≤ written.segmentLength then
        return (.ok (), ← written.rotate)
      else return (.ok (), written)

/-- Takes records into a batch while it has fewer than `limit` bytes; the rest is left. -/
def fillBatch (limit length : Nat) : List (UInt64 × Bytes) →
    List (UInt64 × Bytes) × List (UInt64 × Bytes)
  | [] => ([], [])
  | record :: rest =>
      if length < limit then
        let (batch, left) := fillBatch limit (length + record.2.length) rest
        (record :: batch, left)
      else ([], record :: rest)

/-- Groups records into batches.  A batch takes one record in any case. -/
def batches (limit : Nat) : Nat → List (UInt64 × Bytes) → List (List (UInt64 × Bytes))
  | 0, _ | _, [] => []
  | fuel + 1, record :: rest =>
      let (batch, left) := fillBatch limit record.2.length rest
      (record :: batch) :: batches limit fuel left

/-- Writes batches one after another; every record of a batch ends as its batch does. -/
def writeBatches (writer : Writer) :
    List (List (UInt64 × Bytes)) → Plan (List (Except IoError Unit) × Writer)
  | [] => return ([], writer)
  | batch :: rest => do
      let (outcome, writer) ← writer.writeBatch batch
      let (outcomes, writer) ← writer.writeBatches rest
      return (List.replicate batch.length outcome ++ outcomes, writer)

def append (writer : Writer) (records : List Record) :
    Plan (List (Except IoError Unit) × Writer) :=
  let encoded := records.map fun record => (record.seq, record.encode)
  let activity :=
    { writer.activity with
      records := writer.activity.records + encoded.length
      bytes := encoded.foldl (fun bytes record => bytes + record.2.length) writer.activity.bytes }
  { writer with activity }.writeBatches
    (batches writer.options.batchMaxBytes.toNat encoded.length encoded)

def appendOne (writer : Writer) (record : Record) : Plan (Except IoError Unit × Writer) := do
  let (outcomes, writer) ← writer.append [record]
  return (outcomes.headD (.ok ()), writer)

/-- Makes a snapshot the current one, with the number of the commit it covers. -/
def setSnapshot (writer : Writer) (name : String) (seq : UInt64) :
    Plan (Except IoError Unit × Writer) := do
  let manifest :=
    { writer.manifest with currentSnapshot := some name, snapshotBookmark := some seq }
  let outcome ← persist manifest
  return (outcome, { writer with manifest })

/-- Removes segment files; one that cannot be removed is let be. -/
def removeAll : List SegmentInfo → Plan Unit
  | [] => return ()
  | segment :: rest => do
      let _ ← Plan.effect (.removeSegment segment.name)
      removeAll rest

/-- Whether the snapshot covers all of a segment, which is not the current one. -/
def isCovered (manifest : Manifest) (segment : SegmentInfo) : Bool :=
  segment.maxSeq ≤ manifest.snapshotBookmark.getD 0 && segment.name != manifest.currentSegment

/-- Removes the segments that the current snapshot covers and tells their names.  The snapshot must
be named. -/
def trim (writer : Writer) (snapshot : String) : Plan (Except IoError (List String) × Writer) := do
  let manifest := writer.manifest
  if manifest.currentSnapshot ≠ some snapshot then
    return (.error .snapshotMismatch, writer)
  else
    let covered := manifest.segments.filter (isCovered manifest)
    removeAll covered
    let kept :=
      { manifest with
        segments := manifest.segments.filter fun segment => !isCovered manifest segment }
    match ← persist kept with
    | .ok () => return (.ok (covered.map SegmentInfo.name), { writer with manifest := kept })
    | .error error => return (.error error, { writer with manifest := kept })

end Writer

end DocStore.Log
