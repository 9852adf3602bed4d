import DocStore.Proofs.Log.Contents
import DocStore.Proofs.Plan

namespace DocStore.Log

open Writer (segmentName nextSegmentName adopt noteBatch isCovered)

/-- The log of a directory holds records as its manifest says; a directory without manifest stands
for the manifest that is written first. -/
structure Stands (files : Directory) (manifest : Manifest) (newest : Nat) (records : List Record) :
    Prop where
  written : files.manifest = some manifest.text ∨
    files.manifest = none ∧ manifest = adopt .first (nextSegmentName none) ∧ records = []
  holds : Holds files.content manifest newest records

/-- The log is open: its manifest is written, and its current segment ends with a whole record. -/
structure Ready (files : Directory) (log : Writer) (newest : Nat) (records : List Record) :
    Prop where
  written : files.manifest = some log.manifest.text
  holds : Holds files.content log.manifest newest records
  current : ∃ bytes, files.segments.get? log.manifest.currentSegment = some bytes ∧
    Record.Spells bytes (recordsIn bytes)

/-- The manifest of an open log is written, and its segments hold records; the current one may end
with a torn record. -/
structure Written (files : Directory) (log : Writer) (newest : Nat) (records : List Record) :
    Prop where
  written : files.manifest = some log.manifest.text
  holds : Holds files.content log.manifest newest records

/-- Neither the snapshots nor what the manifest says about them have changed. -/
structure SameSnapshots (files : Directory) (manifest : Manifest) (left : Directory)
    (now : Manifest) : Prop where
  snapshots : left.snapshots = files.snapshots
  current : now.currentSnapshot = manifest.currentSnapshot
  bookmark : now.snapshotBookmark = manifest.snapshotBookmark

/-- The log goes on with the same segment, which has not changed. -/
structure SameCurrent (files : Directory) (log : Writer) (left : Directory) (next : Writer) :
    Prop where
  name : next.manifest.currentSegment = log.manifest.currentSegment
  segment : left.segments.get? log.manifest.currentSegment =
    files.segments.get? log.manifest.currentSegment

variable {α : Type} {files left : Directory} {manifest : Manifest} {log : Writer} {newest : Nat}
  {records : List Record} {during : Directory → Prop} {post : Directory → α → Prop}

theorem Ready.toWritten (ready : Ready files log newest records) :
    Written files log newest records :=
  ⟨ready.written, ready.holds⟩

theorem Written.stands (written : Written files log newest records) :
    Stands files log.manifest newest records :=
  ⟨.inl written.written, written.holds⟩

theorem Ready.stands (ready : Ready files log newest records) :
    Stands files log.manifest newest records :=
  ready.toWritten.stands

theorem Ready.of_sameCurrent (ready : Ready files log newest records) {next : Writer}
    {later : Nat} {others : List Record} (same : SameCurrent files log left next)
    (written : Written left next later others) : Ready left next later others := by
  obtain ⟨bytes, found, spells⟩ := ready.current
  refine ⟨written.written, written.holds, bytes, ?_, spells⟩
  rw [same.name, same.segment, found]

theorem readManifest_of_written (written : files.manifest = some manifest.text) :
    readManifest files = .ok (some manifest) := by
  simp [readManifest, written, Manifest.ofText?_text]

theorem Stands.readManifest (stands : Stands files manifest newest records) :
    Log.readManifest files = .ok (some manifest) ∨
      Log.readManifest files = .ok none ∧ manifest = adopt .first (nextSegmentName none) ∧
        records = [] := by
  rcases stands.written with written | ⟨missing, first⟩
  · exact .inl (readManifest_of_written written)
  · exact .inr ⟨by simp [Log.readManifest, missing], first⟩

theorem Stands.replay (stands : Stands files manifest newest records) :
    replay files = .ok records := by
  rcases stands.readManifest with read | ⟨read, -, nothing⟩
  · obtain ⟨older, last, maxSeq, arranged⟩ := stands.holds.arranged
    have same : ∀ segment ∈ manifest.segments,
        segmentRecords files segment.name = recordsIn (files.content segment.name) := by
      intro segment member
      obtain ⟨number, -, -, named⟩ := arranged.named member
      rw [named, segmentRecords_segmentName]
    simp only [Log.replay, read, bind, Except.bind, Option.getD_some, List.flatMap_congr same]
    exact congrArg Except.ok stands.holds.held
  · rw [nothing]
    simp [Log.replay, read, bind, Except.bind, Manifest.blank]

/-- A name under which a segment can be created. -/
structure IsFileName (name : String) : Prop where
  file : Directory.isFolder name = false
  flat : name.toList.contains '/' = false

theorem isFileName_segmentName (number : Nat) : IsFileName (segmentName number) :=
  ⟨Writer.isFolder_segmentName number, Writer.contains_segmentName number⟩

theorem IsFileName.of_apply {name : String} {after : Directory}
    (created : (Effect.createSegment name).apply files = .ok after) : IsFileName name := by
  simp only [Effect.apply] at created
  split at created
  · cases created
  · next file =>
      split at created
      · cases created
      · next flat => exact ⟨Bool.eq_false_iff.mpr file, Bool.eq_false_iff.mpr flat⟩

theorem IsFileName.apply_createSegment {name : String} (isName : IsFileName name)
    (files : Directory) :
    ∃ after, (Effect.createSegment name).apply files = .ok after ∧
      after.content = files.content ∧ after.manifest = files.manifest ∧
      after.snapshots = files.snapshots ∧
      after.segments.get? name = some (files.content name) := by
  simp only [Effect.apply, isName.file, isName.flat, Bool.false_eq_true, if_false]
  cases found : files.segments.get? name with
  | some bytes =>
      have contains : files.segments.contains name = true := by
        simp [SortedMap.contains, found]
      rw [if_pos contains]
      exact ⟨files, rfl, rfl, rfl, rfl, by simp [Directory.content, found]⟩
  | none =>
      have missing : files.segments.contains name = false := by
        simp [SortedMap.contains, found]
      rw [if_neg (by simp [missing])]
      refine ⟨_, rfl, funext fun other => ?_, rfl, rfl, ?_⟩
      · simp only [Directory.content, SortedMap.get?_insert_eq]
        split
        · next same => rw [same, found]; rfl
        · rfl
      · simp [SortedMap.get?_insert_self, Directory.content, found]

theorem apply_createSegment (files : Directory) (number : Nat) :
    ∃ after, (Effect.createSegment (segmentName number)).apply files = .ok after ∧
      after.content = files.content ∧ after.manifest = files.manifest ∧
      after.snapshots = files.snapshots ∧
      after.segments.get? (segmentName number) = some (files.content (segmentName number)) :=
  (isFileName_segmentName number).apply_createSegment files

theorem content_insert (files : Directory) (name : String) (bytes : Bytes) :
    Directory.content { files with segments := files.segments.insert name bytes } =
      Function.update files.content name bytes := by
  funext other
  simp only [Directory.content, SortedMap.get?_insert_eq, Function.update_apply]
  split <;> rfl

theorem apply_appendSegment {name : String} {content : Bytes}
    (found : files.segments.get? name = some content) (bytes : Bytes) :
    ∃ after, (Effect.appendSegment name bytes).apply files = .ok after ∧
      after.content = Function.update files.content name (content ++ bytes) ∧
      after.manifest = files.manifest ∧ after.snapshots = files.snapshots ∧
      after.segments.get? name = some (content ++ bytes) := by
  simp only [Effect.apply, found]
  exact ⟨_, rfl, content_insert _ _ _, rfl, rfl, SortedMap.get?_insert_self _ _ _⟩

theorem apply_cutSegment {name : String} {content : Bytes}
    (found : files.segments.get? name = some content) (length : Nat) :
    ∃ after, (Effect.cutSegment name length).apply files = .ok after ∧
      after.content = Function.update files.content name (content.take length) ∧
      after.manifest = files.manifest ∧ after.snapshots = files.snapshots ∧
      after.segments.get? name = some (content.take length) := by
  simp only [Effect.apply, found]
  exact ⟨_, rfl, content_insert _ _ _, rfl, rfl, SortedMap.get?_insert_self _ _ _⟩

theorem settle_removeSegment_eq (files : Directory) (name : String) :
    (Effect.removeSegment name).settle files =
      { files with segments := files.segments.erase name } := by
  simp only [Effect.settle, Effect.apply]
  split
  · rfl
  · next missing =>
      rw [SortedMap.erase_of_get?_eq_none (Option.not_isSome_iff_eq_none.mp missing)]
      rfl

/-- A segment that is removed, or was missing already, is empty. -/
theorem settle_removeSegment (files : Directory) (name : String) :
    ((Effect.removeSegment name).settle files).content =
        Function.update files.content name [] ∧
      ((Effect.removeSegment name).settle files).manifest = files.manifest ∧
      ((Effect.removeSegment name).settle files).snapshots = files.snapshots ∧
      ∀ other ≠ name, ((Effect.removeSegment name).settle files).segments.get? other =
        files.segments.get? other := by
  rw [settle_removeSegment_eq]
  refine ⟨funext fun other => ?_, rfl, rfl, fun other different => ?_⟩
  · simp only [Directory.content, SortedMap.get?_erase_eq, Function.update_apply]
    split <;> rfl
  · exact SortedMap.get?_erase_of_ne different _

def persisted (files : Directory) (manifest : Manifest) : Directory :=
  { files with manifest := some manifest.text, staged := none }

theorem keeps_persist {next : Except IoError Unit → Plan α} (now : during files)
    (staged : during { files with staged := some manifest.text })
    (later : (next (.ok ())).Keeps during post (persisted files manifest)) :
    (Writer.persist manifest >>= next).Keeps during post files := by
  refine Plan.Keeps.bind ?_
  refine Plan.keeps_effect rfl now nofun ?_
  exact Plan.keeps_effect rfl staged nofun (Plan.keeps_pure later.start later)

/-- The segment that a log with this manifest goes on with. -/
def Manifest.resumed (manifest : Manifest) : String :=
  if manifest.currentSegment.isEmpty then nextSegmentName manifest.segments.getLast?
  else manifest.currentSegment

theorem Manifest.ite_eq_resumed (manifest : Manifest) :
    (if manifest.currentSegment.isEmpty then nextSegmentName manifest.segments.getLast?
      else manifest.currentSegment) = manifest.resumed := rfl

/-- The manifest that a log is opened with; `none` is a missing one. -/
def openedManifest (found : Option Manifest) : Manifest :=
  adopt (found.getD .first) (found.getD .first).resumed

/-- A directory on the way of opening its log: the current segment may have lost a torn tail, and
the manifest may be written. -/
structure Opening (files : Directory) (manifest : Manifest) (left : Directory) : Prop where
  content : ∃ bytes, left.content = Function.update files.content manifest.currentSegment bytes ∧
    recordsIn bytes = recordsIn (files.content manifest.currentSegment)
  written : left.manifest = files.manifest ∨ left.manifest = some manifest.text
  snapshots : left.snapshots = files.snapshots

/-- The manifest of an open log is written, and its current segment ends with a whole record. -/
structure Opened (files : Directory) (manifest : Manifest) : Prop where
  written : files.manifest = some manifest.text
  current : ∃ bytes, files.segments.get? manifest.currentSegment = some bytes ∧
    Record.Spells bytes (recordsIn bytes)

private theorem Opening.refl (files : Directory) (manifest : Manifest) :
    Opening files manifest files :=
  ⟨⟨_, (Function.update_eq_self _ _).symm, rfl⟩, .inl rfl, rfl⟩

/-- Once the current segment ends with a whole record, the manifest is written and the log is
open. -/
private theorem keeps_persist_opened (options : Options) (valid : Nat) {start : Directory}
    (opening : Opening start manifest files) {bytes : Bytes}
    (segment : files.segments.get? manifest.currentSegment = some bytes)
    (spells : Record.Spells bytes (recordsIn bytes))
    {post : Directory → Except IoError Writer → Prop}
    (before : ∀ left, Opening start manifest left → during left)
    (opened : ∀ left log, log.manifest = manifest → Opening start manifest left →
      Opened left manifest → post left (.ok log)) :
    (Writer.persist manifest >>= fun outcome =>
      match outcome with
      | .error error => pure (.error error)
      | .ok () => pure (.ok ⟨options, manifest, valid, ⟨0, 0, 0⟩⟩)).Keeps during post files := by
  obtain ⟨content, written, snapshots⟩ := opening
  have persisted : Opening start manifest (persisted files manifest) :=
    ⟨content, .inr rfl, snapshots⟩
  refine keeps_persist (before _ ⟨content, written, snapshots⟩)
    (before _ ⟨content, written, snapshots⟩) ?_
  refine Plan.keeps_pure (before _ persisted) ?_
  exact opened _ _ rfl persisted ⟨rfl, bytes, segment, spells⟩

/-- Opening goes on with the current segment of the manifest, whatever the directory holds. -/
theorem keeps_openIn_any (options : Options) {found : Option Manifest}
    (read : readManifest files = .ok found) (named : IsFileName (found.getD .first).resumed)
    {post : Directory → Except IoError Writer → Prop}
    (before : ∀ left, Opening files (openedManifest found) left → during left)
    (opened : ∀ left log, log.manifest = openedManifest found →
      Opening files (openedManifest found) left → Opened left (openedManifest found) →
        post left (.ok log)) :
    (Writer.openIn files options).Keeps during post files := by
  obtain ⟨created, create, sameContent, sameManifest, sameSnapshots, exists'⟩ :=
    named.apply_createSegment files
  have current : (openedManifest found).currentSegment = (found.getD .first).resumed := rfl
  have openingCreated : Opening files (openedManifest found) created :=
    ⟨⟨_, sameContent.trans (Function.update_eq_self _ _).symm, rfl⟩, .inl sameManifest,
      sameSnapshots⟩
  have content : (files.segments.get? (found.getD .first).resumed).getD [] =
      files.content (found.getD .first).resumed := rfl
  unfold Writer.openIn
  simp only [read, Manifest.ite_eq_resumed, content]
  refine Plan.keeps_effect create (before files (.refl _ _)) nofun ?_
  simp only
  split
  case isTrue torn =>
    obtain ⟨cut, apply, cutContent, cutManifest, cutSnapshots, cutExists⟩ :=
      apply_cutSegment exists' (Record.scan (files.content (found.getD .first).resumed)).2
    have same := recordsIn_take_scan (files.content (found.getD .first).resumed)
    have openingCut : Opening files (openedManifest found) cut :=
      ⟨⟨_, cutContent.trans (by rw [sameContent, current]), same⟩,
        .inl (cutManifest.trans sameManifest), cutSnapshots.trans sameSnapshots⟩
    refine Plan.keeps_effect apply (before created openingCreated) nofun ?_
    exact keeps_persist_opened options _ openingCut (current ▸ cutExists)
      (same ▸ Record.spells_take_scan _) before opened
  case isFalse whole =>
    refine Plan.Keeps.bind (Plan.keeps_pure (before created openingCreated) ?_)
    exact keeps_persist_opened options _ openingCreated (current ▸ exists')
      (Record.spells_of_scan whole) before opened

/-- The log that is opened begins with the manifest that it stands for. -/
theorem Stands.openedManifest_eq (stands : Stands files manifest newest records) :
    ∃ found, Log.readManifest files = .ok found ∧ openedManifest found = manifest ∧
      IsFileName (found.getD .first).resumed := by
  obtain ⟨older, last, maxSeq, arranged⟩ := stands.holds.arranged
  rcases stands.readManifest with read | ⟨read, rfl, -⟩
  · have lists : manifest.lists manifest.currentSegment = true := by
      simp [Manifest.lists, arranged.segments, arranged.current]
    have resumed : manifest.resumed = manifest.currentSegment := by
      simp [Manifest.resumed, arranged.current, Writer.isEmpty_segmentName]
    refine ⟨some manifest, read, ?_, ?_⟩
    · simp [openedManifest, resumed, adopt, lists]
    · rw [Option.getD_some, resumed, arranged.current]
      exact isFileName_segmentName last
  · refine ⟨none, read, rfl, ?_⟩
    exact (arranged.current ▸ isFileName_segmentName last : IsFileName (adopt .first
      (nextSegmentName none)).currentSegment)

theorem Stands.congr (stands : Stands files manifest newest records)
    (content : left.content = files.content) (written : left.manifest = files.manifest) :
    Stands left manifest newest records :=
  ⟨written ▸ stands.written, content ▸ stands.holds⟩

theorem Stands.opening (stands : Stands files manifest newest records)
    (opening : Opening files manifest left) : Stands left manifest newest records := by
  obtain ⟨bytes, content, same⟩ := opening.content
  refine ⟨?_, content ▸ stands.holds.update_tail same⟩
  rcases opening.written with unchanged | written
  · exact unchanged ▸ stands.written
  · exact .inl written

theorem keeps_openIn (options : Options) (stands : Stands files manifest newest records)
    {post : Directory → Except IoError Writer → Prop}
    (before : ∀ left, left.snapshots = files.snapshots → Stands left manifest newest records →
      during left)
    (opened : ∀ left log, left.snapshots = files.snapshots → log.manifest = manifest →
      Ready left log newest records → post left (.ok log)) :
    (Writer.openIn files options).Keeps during post files := by
  obtain ⟨found, read, rfl, named⟩ := stands.openedManifest_eq
  refine keeps_openIn_any options read named ?_ ?_
  · exact fun left opening => before left opening.snapshots (stands.opening opening)
  · intro left log same opening open'
    have stands := stands.opening opening
    exact opened left log opening.snapshots same
      ⟨same ▸ open'.written, same ▸ stands.holds, same ▸ open'.current⟩

section Appending

variable {record : Record} {after : Directory}

theorem keeps_rotate_of {post : Directory → Writer → Prop}
    (create : (Effect.createSegment log.manifest.rotated.currentSegment).apply files = .ok after)
    (now : during files) (created : during after)
    (staged : during { after with staged := some log.manifest.rotated.text })
    (listed : during (persisted after log.manifest.rotated))
    (result : post (persisted after log.manifest.rotated)
      { log with manifest := log.manifest.rotated, segmentLength := 0 }) :
    log.rotate.Keeps during post files := by
  unfold Writer.rotate
  refine Plan.keeps_effect create now nofun ?_
  exact keeps_persist created staged (Plan.keeps_pure listed result)

theorem max_zero_left (seq : UInt64) : max 0 seq = seq := by
  rw [← UInt64.toNat_inj, toNat_max]
  simp

/-- A batch is written and noted, and then a segment that is full is followed by a new one. -/
theorem keeps_writeBatch_of {batch : List (UInt64 × Bytes)} {bytes : Bytes} {greatest : UInt64}
    {post : Directory → Except IoError Unit × Writer → Prop}
    (spelled : batch.flatMap Prod.snd = bytes)
    (number : (batch.map Prod.fst).foldl max 0 = greatest)
    (append : (Effect.appendSegment log.manifest.currentSegment bytes).apply files = .ok after)
    (now : during files)
    (torn : ∀ left, Plan.Tears files (.appendSegment log.manifest.currentSegment bytes) left →
      during left)
    (appended : during after)
    (staged : during { after with staged := some (noteBatch log.manifest greatest).text })
    (noted : during (persisted after (noteBatch log.manifest greatest)))
    (result : ∀ length activity, post (persisted after (noteBatch log.manifest greatest))
      (.ok (), ⟨log.options, noteBatch log.manifest greatest, length, activity⟩))
    (full : ∀ length activity,
      (Writer.rotate ⟨log.options, noteBatch log.manifest greatest, length, activity⟩).Keeps
        during (fun left next => post left (.ok (), next))
        (persisted after (noteBatch log.manifest greatest))) :
    (log.writeBatch batch).Keeps during post files := by
  unfold Writer.writeBatch
  simp only [spelled, number]
  refine Plan.keeps_effect append now torn (keeps_persist appended staged ?_)
  split
  · exact (full _ _).map
  · exact Plan.keeps_pure noted (result _ _)

/-- The log counts a record before it is written. -/
def Writer.counting (log : Writer) (record : Record) : Writer :=
  { log with
    activity :=
      { log.activity with
        records := log.activity.records + 1
        bytes := log.activity.bytes + record.encode.length } }

theorem appendOne_eq (log : Writer) (record : Record) :
    log.appendOne record =
      (((log.counting record).writeBatch [(record.seq, record.encode)] >>= fun written =>
        pure ([written.1], written.2)) >>= fun written =>
          pure (written.1.headD (.ok ()), written.2)) :=
  rfl

/-- One record is appended as a batch. -/
theorem keeps_appendOne_of {post : Directory → Except IoError Unit × Writer → Prop}
    (batch : ∀ activity,
      ({ log with activity }.writeBatch [(record.seq, record.encode)]).Keeps during post files) :
    (log.appendOne record).Keeps during post files := by
  rw [appendOne_eq]
  exact .map (.map (batch (log.counting record).activity))

/-- A record that cannot be appended is not noted. -/
theorem run_appendOne_failing (log : Writer) (record : Record) (failure : Plan.Failure)
    (files : Directory) :
    ∃ activity, (log.appendOne record).run (Plan.failing failure) files =
      (Plan.leftBy files failure (.appendSegment log.manifest.currentSegment record.encode),
        .error failure.error, { log with activity }) := by
  refine ⟨(log.counting record).activity, ?_⟩
  rw [appendOne_eq]
  simp only [Writer.writeBatch, List.flatMap_cons, List.flatMap_nil, List.append_nil]
  rfl

end Appending

theorem keeps_rotate (ready : Ready files log newest records)
    (rotated : Holds files.content log.manifest.rotated newest records)
    (begun : files.content log.manifest.rotated.currentSegment = [])
    {post : Directory → Writer → Prop}
    (before : ∀ left now, SameSnapshots files log.manifest left now →
      Stands left now newest records → during left)
    (result : ∀ left next, SameSnapshots files log.manifest left next.manifest →
      Ready left next newest records → post left next) :
    log.rotate.Keeps during post files := by
  obtain ⟨older, last, maxSeq, arranged⟩ := rotated.arranged
  obtain ⟨created, create, sameContent, sameManifest, sameSnapshots, exists'⟩ :=
    apply_createSegment files last
  rw [← arranged.current] at create exists'
  have same (left : Directory) (snapshots : left.snapshots = files.snapshots) :
      SameSnapshots files log.manifest left log.manifest := ⟨snapshots, rfl, rfl⟩
  have stands := ready.stands.congr sameContent sameManifest
  have holds : Holds created.content log.manifest.rotated newest records := sameContent ▸ rotated
  have segment : created.segments.get? log.manifest.rotated.currentSegment = some [] := by
    rw [exists', begun]
  apply keeps_rotate_of create
  case now => exact before files _ (same _ rfl) ready.stands
  case created => exact before created _ (same _ sameSnapshots) stands
  case staged => exact before _ _ (same _ sameSnapshots) (stands.congr rfl rfl)
  case listed => exact before _ log.manifest.rotated ⟨sameSnapshots, rfl, rfl⟩ ⟨.inl rfl, holds⟩
  case result => exact result _ _ ⟨sameSnapshots, rfl, rfl⟩ ⟨rfl, holds, [], segment, .nil⟩

/-- A whole record is appended to the current segment. -/
private theorem Ready.append (ready : Ready files log newest records) {record : Record}
    (legible : record.Legible) (next : newest < record.seq.toNat) :
    ∃ appended, (Effect.appendSegment log.manifest.currentSegment record.encode).apply files =
        .ok appended ∧ appended.snapshots = files.snapshots ∧
      Ready appended log record.seq.toNat (records ++ [record]) := by
  obtain ⟨bytes, found, spells⟩ := ready.current
  have content : files.content log.manifest.currentSegment = bytes := by
    simp [Directory.content, found]
  obtain ⟨appended, append, appendedContent, manifest, snapshots, segment⟩ :=
    apply_appendSegment found record.encode
  have appendedSpells := spells.snoc legible
  have appendedRecords := recordsIn_of_spells appendedSpells
  have newRecord : ∀ other ∈ [record], other.seq.toNat ≤ record.seq.toNat := by simp
  have holds : Holds appended.content log.manifest record.seq.toNat (records ++ [record]) := by
    rw [appendedContent]
    exact ready.holds.update (by rw [content, appendedRecords]) (by omega) newRecord
  refine ⟨appended, append, snapshots, manifest ▸ ready.written, holds, _, segment, ?_⟩
  rw [appendedRecords]
  exact appendedSpells

/-- What a segment has of a record when so many of its bytes were appended: it is whole or none. -/
def Record.landed (record : Record) (count : Nat) : List Record :=
  if record.encode.length ≤ count then [record] else []

/-- So many bytes of a record are appended to the current segment. -/
theorem Ready.append_take (ready : Ready files log newest records) {record : Record}
    (legible : record.Legible) (count : Nat) {later : Nat} (above : newest ≤ later)
    (numbered : ∀ other ∈ record.landed count, other.seq.toNat ≤ later) :
    ∃ left, (Effect.appendSegment log.manifest.currentSegment (record.encode.take count)).apply
        files = .ok left ∧ left.snapshots = files.snapshots ∧
      Written left log later (records ++ record.landed count) := by
  obtain ⟨bytes, found, spells⟩ := ready.current
  have content : files.content log.manifest.currentSegment = bytes := by
    simp [Directory.content, found]
  obtain ⟨left, append, leftContent, manifest, snapshots, -⟩ :=
    apply_appendSegment found (record.encode.take count)
  have grown : recordsIn (bytes ++ record.encode.take count) =
      recordsIn bytes ++ record.landed count := by
    unfold Record.landed
    split
    · next whole =>
        rw [List.take_of_length_le whole]
        exact recordsIn_of_spells (spells.snoc legible)
    · next short =>
        rw [recordsIn, spells.scan_torn legible (Nat.lt_of_not_le short), List.append_nil]
  refine ⟨left, append, snapshots, manifest ▸ ready.written, ?_⟩
  rw [leftContent]
  exact ready.holds.update (content.symm ▸ grown) above numbered

/-- When the append of a record is torn, the log holds the old records, or the new one too if no
byte of it is missing. -/
private theorem Ready.append_torn (ready : Ready files log newest records) {record : Record}
    (legible : record.Legible) (next : newest < record.seq.toNat)
    (tears : Plan.Tears files
      (.appendSegment log.manifest.currentSegment record.encode) left) :
    left.snapshots = files.snapshots ∧
      (Stands left log.manifest newest records ∨
        Stands left log.manifest record.seq.toNat (records ++ [record])) := by
  obtain ⟨count, torn⟩ := tears
  by_cases whole : record.encode.length ≤ count
  · have landed : record.landed count = [record] := if_pos whole
    obtain ⟨cut, append, snapshots, open'⟩ :=
      ready.append_take legible count (Nat.le_of_lt next) (by simp [landed])
    obtain rfl : cut = left := Except.ok.inj (append.symm.trans torn)
    exact ⟨snapshots, .inr (landed ▸ open'.stands)⟩
  · have landed : record.landed count = [] := if_neg whole
    obtain ⟨cut, append, snapshots, open'⟩ :=
      ready.append_take legible count (Nat.le_refl _) (by simp [landed])
    obtain rfl : cut = left := Except.ok.inj (append.symm.trans torn)
    rw [landed, List.append_nil] at open'
    exact ⟨snapshots, .inl open'.stands⟩

/-- A batch of one record is written.  On the way the log holds the old records, or those and the
new one. -/
theorem keeps_writeBatch (ready : Ready files log newest records) {record : Record}
    (legible : record.Legible) (next : newest < record.seq.toNat)
    {post : Directory → Except IoError Unit × Writer → Prop}
    (before : ∀ left now, SameSnapshots files log.manifest left now →
      Stands left now newest records → during left)
    (after : ∀ left now, SameSnapshots files log.manifest left now →
      Stands left now record.seq.toNat (records ++ [record]) → during left)
    (result : ∀ left next, SameSnapshots files log.manifest left next.manifest →
      Ready left next record.seq.toNat (records ++ [record]) → post left (.ok (), next)) :
    (log.writeBatch [(record.seq, record.encode)]).Keeps during post files := by
  obtain ⟨appended, append, snapshots, appendedReady⟩ := ready.append legible next
  have noted := appendedReady.holds.noteBatch (Nat.le_refl record.seq.toNat)
  have start := before files _ ⟨rfl, rfl, rfl⟩ ready.stands
  have torn : ∀ left, Plan.Tears files
      (.appendSegment log.manifest.currentSegment record.encode) left → during left := by
    intro left tears
    obtain ⟨same, old | new⟩ := ready.append_torn legible next tears
    · exact before left _ ⟨same, rfl, rfl⟩ old
    · exact after left _ ⟨same, rfl, rfl⟩ new
  have written (log' : Writer) (manifest : log'.manifest = noteBatch log.manifest record.seq) :
      Ready (persisted appended (noteBatch log.manifest record.seq)) log' record.seq.toNat
        (records ++ [record]) :=
    ⟨by rw [manifest]; rfl, by rw [manifest]; exact noted,
      by rw [manifest]; exact appendedReady.current⟩
  apply keeps_writeBatch_of (by simp) (max_zero_left _) append
  case now => exact start
  case torn => exact torn
  case appended => exact after appended _ ⟨snapshots, rfl, rfl⟩ appendedReady.stands
  case staged => exact after _ _ ⟨snapshots, rfl, rfl⟩ (appendedReady.stands.congr rfl rfl)
  case noted =>
    exact after _ (noteBatch log.manifest record.seq) ⟨snapshots, rfl, rfl⟩ ⟨.inl rfl, noted⟩
  case result =>
    intro length activity
    exact result _ _ ⟨snapshots, rfl, rfl⟩ (written _ rfl)
  case full =>
    intro length activity
    obtain ⟨rotated, begun⟩ := appendedReady.holds.rotated rfl
      (Nat.lt_of_le_of_lt ready.holds.noted next)
    have changed {left : Directory} {now : Manifest}
        (same : SameSnapshots (persisted appended (noteBatch log.manifest record.seq))
          (noteBatch log.manifest record.seq) left now) :
        SameSnapshots files log.manifest left now :=
      ⟨same.snapshots.trans snapshots, same.current, same.bookmark⟩
    have noted' := written ⟨log.options, noteBatch log.manifest record.seq, length, activity⟩ rfl
    apply keeps_rotate noted' rotated begun
    case before => exact fun left now same => after left now (changed same)
    case result => exact fun left rotated same => result left rotated (changed same)

theorem keeps_appendOne (ready : Ready files log newest records) {record : Record}
    (legible : record.Legible) (next : newest < record.seq.toNat)
    {post : Directory → Except IoError Unit × Writer → Prop}
    (before : ∀ left now, SameSnapshots files log.manifest left now →
      Stands left now newest records → during left)
    (after : ∀ left now, SameSnapshots files log.manifest left now →
      Stands left now record.seq.toNat (records ++ [record]) → during left)
    (result : ∀ left next, SameSnapshots files log.manifest left next.manifest →
      Ready left next record.seq.toNat (records ++ [record]) → post left (.ok (), next)) :
    (log.appendOne record).Keeps during post files := by
  refine keeps_appendOne_of fun activity => ?_
  have ready' : Ready files { log with activity } newest records :=
    ⟨ready.written, ready.holds, ready.current⟩
  exact keeps_writeBatch ready' legible next before after result

def Manifest.marked (manifest : Manifest) (name : String) (seq : UInt64) : Manifest :=
  { manifest with currentSnapshot := some name, snapshotBookmark := some seq }

theorem Holds.marked {content : String → Bytes} (holds : Holds content manifest newest records)
    (name : String) (seq : UInt64) : Holds content (manifest.marked name seq) newest records := by
  obtain ⟨⟨older, last, maxSeq, arranged⟩, held, noted, numbered⟩ := holds
  exact ⟨⟨older, last, maxSeq, { arranged with }⟩, held, noted, numbered⟩

theorem keeps_setSnapshot (open' : Written files log newest records) (name : String)
    (seq : UInt64) {post : Directory → Except IoError Unit × Writer → Prop}
    (before : ∀ left, left.snapshots = files.snapshots →
      Stands left log.manifest newest records → during left)
    (after : ∀ left, left.snapshots = files.snapshots →
      Stands left (log.manifest.marked name seq) newest records → during left)
    (result : ∀ left next, left.snapshots = files.snapshots →
      next.manifest = log.manifest.marked name seq → SameCurrent files log left next →
        Written left next newest records → post left (.ok (), next)) :
    (log.setSnapshot name seq).Keeps during post files := by
  have holds := open'.holds.marked name seq
  change (Writer.persist (log.manifest.marked name seq) >>= fun outcome =>
    pure (outcome, { log with manifest := log.manifest.marked name seq })).Keeps during post files
  refine keeps_persist (before files rfl open'.stands)
    (before _ rfl (open'.stands.congr rfl rfl)) ?_
  refine Plan.keeps_pure (after _ rfl ⟨.inl rfl, holds⟩) ?_
  exact result _ _ rfl rfl ⟨rfl, rfl⟩ ⟨rfl, holds⟩

/-- The directory after segments of some names were removed from another. -/
structure Emptied (files : Directory) (names : List String) (left : Directory) : Prop where
  content : left.content = emptied files.content names
  written : left.manifest = files.manifest
  snapshots : left.snapshots = files.snapshots
  others : ∀ name ∉ names, left.segments.get? name = files.segments.get? name

theorem Emptied.refl (files : Directory) : Emptied files [] files :=
  ⟨funext fun _ => by simp [emptied], rfl, rfl, fun _ _ => rfl⟩

theorem Emptied.remove {names : List String} (emptied : Emptied files names left)
    (name : String) :
    Emptied files (names ++ [name]) ((Effect.removeSegment name).settle left) := by
  obtain ⟨content, written, snapshots, others⟩ := settle_removeSegment left name
  refine ⟨?_, written.trans emptied.written, snapshots.trans emptied.snapshots, ?_⟩
  · rw [content, emptied.content]
    funext other
    by_cases same : other = name <;> simp [Log.emptied, same]
  · intro other kept
    rw [List.mem_append, List.mem_singleton, not_or] at kept
    rw [others other kept.2, emptied.others other kept.1]

theorem keeps_removeAll {start : Directory} {segments : List SegmentInfo} {names : List String}
    (emptied : Emptied start names files) {post : Directory → Unit → Prop}
    (before : ∀ left gone, gone ⊆ names ++ segments.map SegmentInfo.name →
      Emptied start gone left → during left)
    (result : ∀ left, Emptied start (names ++ segments.map SegmentInfo.name) left →
      post left ()) :
    (Writer.removeAll segments).Keeps during post files := by
  induction segments generalizing files names with
  | nil =>
      rw [List.map_nil, List.append_nil] at before result
      exact Plan.keeps_pure (before files names (List.Subset.refl _) emptied) (result files emptied)
  | cons segment rest ih =>
      have names' : names ++ (segment :: rest).map SegmentInfo.name =
          (names ++ [segment.name]) ++ rest.map SegmentInfo.name := by simp
      rw [names'] at before result
      have now := before files names
        (fun _ member => List.mem_append_left _ (List.mem_append_left _ member)) emptied
      exact Plan.keeps_effect_ignored now nofun fun _ =>
        ih (emptied.remove segment.name) before result

private theorem Written.emptied (open' : Written files log newest records) {names : List String}
    (covered : ∀ name ∈ names, ∃ segment ∈ log.manifest.segments,
      segment.name = name ∧ isCovered log.manifest segment = true)
    (emptied : Emptied files names left) :
    ∃ less, Trims (log.manifest.snapshotBookmark.getD 0).toNat records less ∧
      Written left log newest less ∧ SameCurrent files log left log := by
  obtain ⟨less, trims, holds⟩ := open'.holds.emptied covered
  rw [← emptied.content] at holds
  have kept : log.manifest.currentSegment ∉ names := by
    intro member
    obtain ⟨segment, -, name, covered⟩ := covered _ member
    simp [isCovered, name] at covered
  exact ⟨less, trims, ⟨emptied.written ▸ open'.written, holds⟩, rfl, emptied.others _ kept⟩

/-- The names of the segments that the current snapshot covers. -/
def coveredNames (manifest : Manifest) : List String :=
  (manifest.segments.filter (isCovered manifest)).map SegmentInfo.name

theorem mem_coveredNames {name : String} :
    name ∈ coveredNames manifest ↔ ∃ segment ∈ manifest.segments,
      segment.name = name ∧ isCovered manifest segment = true := by
  simp only [coveredNames, List.mem_map, List.mem_filter]
  exact ⟨fun ⟨segment, ⟨among, covered⟩, same⟩ => ⟨segment, among, same, covered⟩,
    fun ⟨segment, among, same, covered⟩ => ⟨segment, ⟨among, covered⟩, same⟩⟩

/-- The segments that the current snapshot covers are removed. -/
theorem keeps_trim (open' : Written files log newest records) {snapshot : String}
    (current : log.manifest.currentSnapshot = some snapshot)
    {post : Directory → Except IoError (List String) × Writer → Prop}
    (before : ∀ left now less, SameSnapshots files log.manifest left now →
      Trims (log.manifest.snapshotBookmark.getD 0).toNat records less →
        Stands left now newest less → during left)
    (result : ∀ left names next less, SameSnapshots files log.manifest left next.manifest →
      Trims (log.manifest.snapshotBookmark.getD 0).toNat records less →
        SameCurrent files log left next → Written left next newest less →
          post left (.ok names, next)) :
    (log.trim snapshot).Keeps during post files := by
  have covered (name : String) (member : name ∈ coveredNames log.manifest) :=
    mem_coveredNames.mp member
  unfold Writer.trim
  dsimp only
  rw [if_neg (not_not_intro current)]
  refine Plan.Keeps.bind (keeps_removeAll (Emptied.refl files) ?_ ?_)
  · intro left gone within emptied
    rw [List.nil_append] at within
    obtain ⟨less, trims, open', -⟩ := open'.emptied
      (fun name member => covered name (within member)) emptied
    exact before left _ less ⟨emptied.snapshots, rfl, rfl⟩ trims open'.stands
  · intro left emptied
    rw [List.nil_append] at emptied
    obtain ⟨fewer, first, open', same⟩ := open'.emptied covered emptied
    obtain ⟨less, second, trimmed⟩ := open'.holds.trimmed
    have snapshots := emptied.snapshots
    change (Writer.persist log.manifest.trimmed >>= _).Keeps during post left
    refine keeps_persist (before left _ fewer ⟨snapshots, rfl, rfl⟩ first open'.stands)
      (before _ _ fewer ⟨snapshots, rfl, rfl⟩ first (open'.stands.congr rfl rfl)) ?_
    refine Plan.keeps_pure ?_ ?_
    · exact before _ log.manifest.trimmed less ⟨snapshots, rfl, rfl⟩ (first.trans second)
        ⟨.inl rfl, trimmed⟩
    · exact result _ _ _ less ⟨snapshots, rfl, rfl⟩ (first.trans second) ⟨rfl, same.segment⟩
        ⟨rfl, trimmed⟩

end DocStore.Log
