import DocStore.Offline.Script
import DocStore.Proofs.Accounting
import DocStore.Proofs.Recovery
/-!
What the check of recovered tables tells.

A check succeeds exactly when every index that is there agrees with its documents
(`Tables.Agrees`).  It asks the indexes, so that documents without an index are
never looked at: the data model (`Tables.Sound`) holds when the check succeeds
and no document is without its index (`verify_succeeds_iff`).
-/

namespace DocStore

namespace Tables

variable {tables : Tables} {index : Index} {id : String}

/-- An index counts exactly the paths of its documents, and these have the projections of their
sources. -/
structure Agrees (tables : Tables) (id : String) (index : Index) : Prop where
  counted : ∀ path, index.fields.get? path = FieldCounts.entry (tables.countWith id path)
  projected : ∀ document ∈ tables.indexDocuments id,
    document.fields.equal (.flatten document.source) = true

/-- The data model: every document belongs to an index that is there and has the projection of its
source, and every index counts exactly the paths of its documents. -/
structure Sound (tables : Tables) : Prop where
  home : ∀ key document, tables.documents.get? key = some document →
    ∃ index, tables.indexes.get? document.indexId = some index
  projected : ∀ key document, tables.documents.get? key = some document →
    document.fields.equal (.flatten document.source) = true
  counted : ∀ id index, tables.indexes.get? id = some index → ∀ path,
    index.fields.get? path = FieldCounts.entry (tables.countWith id path)

theorem Keyed.indexId_eq (keyed : tables.Keyed) {key : DocumentKey} {document : Document}
    (stored : tables.documents.get? key = some document) : document.indexId = key.indexId :=
  congrArg DocumentKey.indexId (keyed.document key document stored)

theorem Keyed.check_eq_ok_iff (keyed : tables.Keyed)
    (found : tables.indexes.get? id = some index) :
    index.check (tables.indexDocuments index.id) = .ok () ↔ tables.Agrees id index := by
  obtain rfl : index.id = id := keyed.index id index found
  have own : ∀ document ∈ tables.indexDocuments index.id, document.indexId = index.id := by
    intro document member
    obtain ⟨key, stored, here⟩ := mem_indexDocuments.mp member
    exact (keyed.indexId_eq stored).trans here
  rw [Index.check_eq_ok_iff]
  constructor
  · rintro ⟨each, counted⟩
    refine ⟨fun path => ?_, fun document member => (each document member).2⟩
    rw [← counted, FieldCounts.get?_ofDocuments]
    rfl
  · rintro ⟨counted, projected⟩
    refine ⟨fun document member => ⟨own document member, projected document member⟩, ?_⟩
    refine SortedMap.ext_get? fun path => ?_
    rw [FieldCounts.get?_ofDocuments, counted]
    rfl

theorem drifts_eq_nil_iff :
    tables.drifts = [] ↔
      ∀ index ∈ tables.indexes.values, index.check (tables.indexDocuments index.id) = .ok () := by
  simp only [drifts, List.filterMap_eq_nil_iff]
  refine forall₂_congr fun index _ => ?_
  cases index.check (tables.indexDocuments index.id) <;> simp

theorem Keyed.drifts_eq_nil_iff (keyed : tables.Keyed) :
    tables.drifts = [] ↔
      ∀ id index, tables.indexes.get? id = some index → tables.Agrees id index := by
  simp only [Tables.drifts_eq_nil_iff, SortedMap.mem_values_iff]
  constructor
  · intro all id index found
    exact (keyed.check_eq_ok_iff found).mp (all index ⟨id, found⟩)
  · rintro all index ⟨id, found⟩
    exact (keyed.check_eq_ok_iff found).mpr (all id index found)

/-- Beyond what the indexes tell, the data model asks that no document is without its index. -/
theorem Keyed.sound_iff (keyed : tables.Keyed) :
    tables.Sound ↔
      (∀ id index, tables.indexes.get? id = some index → tables.Agrees id index) ∧
        ∀ key document, tables.documents.get? key = some document →
          ∃ index, tables.indexes.get? document.indexId = some index := by
  constructor
  · intro sound
    refine ⟨fun id index found => ⟨sound.counted id index found, fun document member => ?_⟩,
      sound.home⟩
    obtain ⟨key, stored, -⟩ := mem_indexDocuments.mp member
    exact sound.projected key document stored
  · rintro ⟨agrees, home⟩
    refine ⟨home, fun key document stored => ?_, fun id index found =>
      (agrees id index found).counted⟩
    obtain ⟨index, found⟩ := home key document stored
    refine (agrees _ index found).projected document (mem_indexDocuments.mpr ⟨key, stored, ?_⟩)
    exact (keyed.indexId_eq stored).symm

end Tables

namespace Offline

open Log Log.Writer

namespace Script

variable {disk : String → String → Except IoError Unit}

/-- How a script ends when saving a text under a path ends as told. -/
def exitCode (disk : String → String → Except IoError Unit) : Script → UInt8
  | .finish code => code
  | .print _ next => next.exitCode disk
  | .warn _ next => next.exitCode disk
  | .save path text next => (next (disk path text)).exitCode disk

/-- What a script saves, and where. -/
def saved (disk : String → String → Except IoError Unit) : Script → List (String × String)
  | .finish _ => []
  | .print _ next => next.saved disk
  | .warn _ next => next.saved disk
  | .save path text next =>
      let later := (next (disk path text)).saved disk
      if (disk path text).isOk then (path, text) :: later else later

@[simp]
theorem exitCode_tellDrifts (drifts : List (String × Drift)) (next : Script) :
    (tellDrifts drifts next).exitCode disk = next.exitCode disk := by
  induction drifts with
  | nil => rfl
  | cons drift rest ih => exact ih

@[simp]
theorem saved_tellDrifts (drifts : List (String × Drift)) (next : Script) :
    (tellDrifts drifts next).saved disk = next.saved disk := by
  induction drifts with
  | nil => rfl
  | cons drift rest ih => exact ih

/-- A script that saves a text ends well only if that and the rest do. -/
theorem of_exitCode_saving {path text : String} {next : Script}
    (ends : (saving path text next).exitCode disk = 0) :
    next.exitCode disk = 0 ∧
      (saving path text next).saved disk = (path, text) :: next.saved disk := by
  cases outcome : disk path text with
  | ok => simpa [saving, exitCode, saved, outcome, Except.isOk, Except.toBool] using ends
  | error error => simp [saving, exitCode, outcome, fail] at ends

theorem exitCode_verify (tables : Tables) :
    (verify tables).exitCode disk =
      if (Report.ofTables tables).isConsistent then 0 else 1 := by
  rw [verify, exitCode_tellDrifts]
  split <;> rfl

/-- The report of tables is saved whenever a restore ends well, with the documents or without. -/
theorem saved_restore {tables : Tables} {out : String} {dump : Option String}
    (ends : (restore tables out dump).exitCode disk = 0) :
    (out, (Report.ofTables tables).text) ∈ (restore tables out dump).saved disk := by
  cases dump with
  | none =>
    rw [restore, exitCode_tellDrifts] at ends
    simp [restore, (of_exitCode_saving ends).2]
  | some path =>
    obtain ⟨told, saved⟩ := of_exitCode_saving ends
    rw [exitCode_tellDrifts] at told
    rw [restore, saved, saved_tellDrifts, (of_exitCode_saving told).2]
    simp

end Script

theorem Report.isConsistent_iff {tables : Tables} :
    (ofTables tables).isConsistent = true ↔ tables.drifts = [] := by
  simp [isConsistent, ofTables]

variable {files : Directory} {tables : Tables}

theorem exitCode_verify_eq_zero_iff {folder : String} {disk : String → String → Except IoError Unit}
    (recovered : recover files = .ok tables) :
    ((Command.verify folder).script (recover files)).exitCode disk = 0 ↔
      (Report.ofTables tables).isConsistent = true := by
  simp only [recovered, Command.script, Script.exitCode_verify]
  cases (Report.ofTables tables).isConsistent <;> simp

/-- A check of recovered tables succeeds, and a report tells that they are consistent, exactly when
every index that is there agrees with its documents; what the data model asks beyond that is an
index for every document. -/
theorem verify_succeeds_iff (recovered : recover files = .ok tables) (folder : String)
    (disk : String → String → Except IoError Unit) :
    (((Command.verify folder).script (recover files)).exitCode disk = 0 ↔
      (Report.ofTables tables).isConsistent = true) ∧
    (∀ out dump, ((Command.restore folder out dump).script (recover files)).exitCode disk = 0 →
      (out, (Report.ofTables tables).text) ∈
        ((Command.restore folder out dump).script (recover files)).saved disk) ∧
    ((Report.ofTables tables).isConsistent = true ↔
      ∀ id index, tables.indexes.get? id = some index → tables.Agrees id index) ∧
    (tables.Sound ↔
      (Report.ofTables tables).isConsistent = true ∧
        ∀ key document, tables.documents.get? key = some document →
          ∃ index, tables.indexes.get? document.indexId = some index) := by
  have keyed := keyed_of_recover recovered
  have agree : (Report.ofTables tables).isConsistent = true ↔
      ∀ id index, tables.indexes.get? id = some index → tables.Agrees id index :=
    Report.isConsistent_iff.trans keyed.drifts_eq_nil_iff
  refine ⟨exitCode_verify_eq_zero_iff recovered, ?_, agree, by rw [keyed.sound_iff, agree]⟩
  rw [recovered]
  exact fun out dump => Script.saved_restore

/-- The manifest of a log that has one segment and no snapshot. -/
def onlySegment : Manifest :=
  { Manifest.first with
    currentSegment := segmentName 1
    segments := [⟨segmentName 1, 0⟩] }

/-- The files of that log. -/
def logOf (records : List Record) : Directory :=
  { Directory.empty with
    manifest := some onlySegment.text
    segments := (∅ : SortedMap _ _).insert (segmentName 1) (records.flatMap Record.encode) }

theorem recover_logOf {records : List Record} (legible : ∀ record ∈ records, record.Legible) :
    recover (logOf records) = .ok (records.foldl Tables.catchUp .empty) := by
  have written : (logOf records).manifest = some onlySegment.text := rfl
  have content : (logOf records).content (segmentName 1) = records.flatMap Record.encode := by
    rw [Directory.content, logOf, SortedMap.get?_insert_self, Option.getD_some]
  have held : segmentRecords (logOf records) (segmentName 1) = records := by
    rw [segmentRecords_segmentName, content, recordsIn_of_spells (.flatMap_encode legible)]
  refine (recover_eq_ok_iff (readManifest_of_written written)).mpr ⟨.empty, rfl, ?_⟩
  exact congrArg (List.foldl _ _) ((List.append_nil _).trans held)

def keptDocument : Document := .ofSource "books" "1" (.object [("x", .number (.natural 1))])

/-- The commits of an index and of its document in one record. -/
def keptRecord : Record :=
  ⟨2, 0, [.putIndex ⟨"books", (∅ : FieldCounts).insert "x" 1⟩, .putDocument keptDocument]⟩

/-- What an update logs that leaves the counts of the index as they are. -/
def updateRecord : Record := ⟨2, 0, [.putDocument keptDocument]⟩

def keptTables : Tables := Tables.empty.catchUp keptRecord

def orphanTables : Tables := Tables.empty.catchUp updateRecord

/-- A document under its index: the check succeeds, and the data model holds. -/
theorem keptTables_verified :
    recover (logOf [keptRecord]) = .ok keptTables ∧
      ((Command.verify "data").script (recover (logOf [keptRecord]))).exitCode
        (fun _ _ => .ok ()) = 0 ∧
      keptTables.Sound := by
  have recovered : recover (logOf [keptRecord]) = .ok keptTables :=
    recover_logOf (by decide +kernel)
  have consistent : (Report.ofTables keptTables).isConsistent = true := by decide +kernel
  have housed : ∀ document ∈ keptTables.documents.values,
      (keptTables.indexes.get? document.indexId).isSome := by decide +kernel
  obtain ⟨ends, -, -, sound⟩ := verify_succeeds_iff recovered "data" fun _ _ => .ok ()
  refine ⟨recovered, ends.mpr consistent, sound.mpr ⟨consistent, fun key document stored => ?_⟩⟩
  exact Option.isSome_iff_exists.mp (housed document (SortedMap.mem_values_iff.mpr ⟨key, stored⟩))

/-- A log that lost the commit before an update: the check succeeds, though the document has no
index. -/
theorem orphanTables_verified :
    recover (logOf [updateRecord]) = .ok orphanTables ∧
      ((Command.verify "data").script (recover (logOf [updateRecord]))).exitCode
        (fun _ _ => .ok ()) = 0 ∧
      ¬ orphanTables.Sound := by
  have recovered : recover (logOf [updateRecord]) = .ok orphanTables :=
    recover_logOf (by decide +kernel)
  have stored : orphanTables.documents.get? ⟨"books", "1"⟩ = some keptDocument := by
    decide +kernel
  refine ⟨recovered, (exitCode_verify_eq_zero_iff recovered).mpr (by decide +kernel), ?_⟩
  intro sound
  obtain ⟨index, found⟩ := sound.home _ keptDocument stored
  exact absurd (Option.isSome_iff_exists.mpr ⟨index, found⟩) (by decide +kernel)

end Offline

end DocStore
