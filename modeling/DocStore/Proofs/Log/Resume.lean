import DocStore.Proofs.Log.Writer
/-!
Logs in directories of any content.

The manifest may be missing or list anything, and files may be left that it does
not list.  Opening goes on with one segment, listed or not, and every segment keeps
its records (`Opening.extended`).  From then on records are appended behind all
others as long as the current segment is listed last and the segments that come
next hold nothing new (`Clear`).
-/

namespace DocStore.Log

open Writer (segmentName nextSegmentName numberOf noteBatch)

variable {files left : Directory} {manifest : Manifest} {log : Writer} {seq later count : Nat}
  {record : Record} {batch : List Record} {options : Options} {found : Option Manifest}

def replayed (files : Directory) (manifest : Manifest) : List Record :=
  manifest.segments.flatMap fun segment => segmentRecords files segment.name

theorem replay_of_read (read : readManifest files = .ok found) :
    replay files = .ok (replayed files (found.getD .blank)) := by
  simp only [replay, read, bind, Except.bind, replayed]

theorem segmentRecords_congr {name : String}
    (same : recordsIn (left.content name) = recordsIn (files.content name)) :
    segmentRecords left name = segmentRecords files name := by
  rw [segmentRecords_eq, segmentRecords_eq, same]

theorem IsFileName.segmentRecords_eq {name : String} (named : IsFileName name)
    (files : Directory) : segmentRecords files name = recordsIn (files.content name) := by
  rw [Log.segmentRecords_eq, named.file, if_neg Bool.false_ne_true]

theorem replayed_noteBatch (files : Directory) (manifest : Manifest) (seq : UInt64) :
    replayed files (noteBatch manifest seq) = replayed files manifest := by
  have names (manifest : Manifest) : replayed files manifest =
      (manifest.segments.map SegmentInfo.name).flatMap (segmentRecords files) := by
    rw [List.flatMap_map]
    rfl
  rw [names, names, noteBatch, map_name_raiseLast]

/-- Further records are replayed behind those of before. -/
structure Extends (files : Directory) (manifest : Manifest) (added : List Record)
    (left : Directory) (now : Manifest) : Prop where
  same : SameSnapshots files manifest left now
  replayed : replayed left now = replayed files manifest ++ added

theorem Extends.trans {last : Directory} {now final : Manifest} {first second : List Record}
    (before : Extends files manifest first left now)
    (after : Extends left now second last final) :
    Extends files manifest (first ++ second) last final :=
  ⟨⟨after.same.snapshots.trans before.same.snapshots, after.same.current.trans before.same.current,
      after.same.bookmark.trans before.same.bookmark⟩,
    by rw [after.replayed, before.replayed, List.append_assoc]⟩

theorem IsFileName.resumed_eq (named : IsFileName manifest.currentSegment) :
    manifest.resumed = manifest.currentSegment := by
  refine if_neg fun empty => ?_
  rw [String.isEmpty_iff] at empty
  exact Bool.noConfusion ((empty ▸ named.file : Directory.isFolder "" = false))

/-- The records of the segment that the log goes on with, unless the manifest lists it. -/
def adopted (files : Directory) (manifest : Manifest) : List Record :=
  if manifest.lists manifest.resumed then [] else segmentRecords files manifest.resumed

private theorem Opening.replayed_eq (opening : Opening files (openedManifest found) left) :
    replayed left (openedManifest found) =
      replayed files (found.getD .blank) ++ adopted files (found.getD .first) := by
  have same (name : String) : segmentRecords left name = segmentRecords files name := by
    obtain ⟨bytes, content, records⟩ := opening.content
    refine segmentRecords_congr ?_
    rw [content, Function.update_apply]
    split
    · next here => rw [here, records]
    · rfl
  have listed : (found.getD .blank).segments = (found.getD .first).segments := by
    cases found <;> rfl
  simp only [replayed, adopted, same, listed, openedManifest, Writer.adopt]
  split
  · rw [List.append_nil]
  · rw [List.flatMap_append, List.flatMap_singleton]

/-- What is replayed after opening is what was replayed before, and then the records of the segment
that was adopted. -/
theorem Opening.extended (opening : Opening files (openedManifest found) left) :
    Extends files (found.getD .blank) (adopted files (found.getD .first)) left
      (openedManifest found) := by
  refine ⟨⟨opening.snapshots, ?_, ?_⟩, opening.replayed_eq⟩
  · cases found <;> rfl
  · cases found <;> rfl

theorem named_of_openIn (read : readManifest files = .ok found)
    (run : (Writer.openIn files options).run Plan.noFault files = (left, .ok log)) :
    IsFileName (found.getD .first).resumed := by
  cases applied : (Effect.createSegment (found.getD .first).resumed).apply files with
  | ok after => exact .of_apply applied
  | error error =>
      unfold Writer.openIn at run
      simp only [read, Manifest.ite_eq_resumed, Plan.effect, bind, Plan.bind, Plan.run,
        Plan.noFault, applied, pure] at run
      cases run

theorem openIn_ok (read : readManifest files = .ok found)
    (run : (Writer.openIn files options).run Plan.noFault files = (left, .ok log)) :
    log.manifest = openedManifest found ∧ Opening files (openedManifest found) left ∧
      Opened left (openedManifest found) := by
  have named := named_of_openIn read run
  have keeps : (Writer.openIn files options).Keeps (fun _ => True) (fun left outcome =>
      ∀ log, outcome = .ok log → log.manifest = openedManifest found ∧
        Opening files (openedManifest found) left ∧ Opened left (openedManifest found)) files := by
    refine keeps_openIn_any options read named (fun _ _ => trivial) ?_
    rintro left log manifest opening opened _ ⟨⟩
    exact ⟨manifest, opening, opened⟩
  have result := keeps.run
  rw [run] at result
  exact result log rfl

def Manifest.upcoming (manifest : Manifest) (ahead : Nat) : String :=
  segmentName (numberOf manifest.currentSegment + ahead)

def Unused (files : Directory) (manifest : Manifest) (count : Nat) : Prop :=
  ∀ ahead, 0 < ahead → ahead ≤ count → files.content (manifest.upcoming ahead) = []

/-- The current segment is listed last, and the next ones are not listed; what their files hold is
whole and not newer than `seq`. -/
structure Clear (files : Directory) (manifest : Manifest) (seq count : Nat) : Prop where
  last : ∃ older maxSeq, manifest.segments = older ++ [⟨manifest.currentSegment, maxSeq⟩] ∧
    ∀ segment ∈ older, segment.name ≠ manifest.currentSegment
  unlisted : ∀ ahead, 0 < ahead → ahead ≤ count → ∀ segment ∈ manifest.segments,
    segment.name ≠ manifest.upcoming ahead
  whole : ∀ ahead, 0 < ahead → ahead ≤ count →
    Record.Spells (files.content (manifest.upcoming ahead))
      (recordsIn (files.content (manifest.upcoming ahead)))
  older : ∀ ahead, 0 < ahead → ahead ≤ count →
    ∀ record ∈ recordsIn (files.content (manifest.upcoming ahead)), record.seq.toNat ≤ seq

namespace Clear

theorem mono (clear : Clear files manifest seq count) {fewer : Nat} (fewer_le : fewer ≤ count) :
    Clear files manifest seq fewer :=
  ⟨clear.last,
    fun ahead positive within => clear.unlisted ahead positive (Nat.le_trans within fewer_le),
    fun ahead positive within => clear.whole ahead positive (Nat.le_trans within fewer_le),
    fun ahead positive within => clear.older ahead positive (Nat.le_trans within fewer_le)⟩

theorem congr (clear : Clear files manifest seq count) (content : left.content = files.content) :
    Clear left manifest seq count :=
  ⟨clear.last, clear.unlisted, content ▸ clear.whole, content ▸ clear.older⟩

theorem listed_current (clear : Clear files manifest seq count) :
    ∃ segment ∈ manifest.segments, segment.name = manifest.currentSegment := by
  obtain ⟨older, maxSeq, segments, -⟩ := clear.last
  exact ⟨⟨manifest.currentSegment, maxSeq⟩, by simp [segments], rfl⟩

theorem upcoming_ne_current (clear : Clear files manifest seq count) {ahead : Nat}
    (positive : 0 < ahead) (within : ahead ≤ count) :
    manifest.upcoming ahead ≠ manifest.currentSegment := by
  obtain ⟨segment, listed, name⟩ := clear.listed_current
  exact fun same => clear.unlisted ahead positive within segment listed (name.trans same.symm)

theorem next_eq (clear : Clear files manifest seq count) :
    nextSegmentName manifest.segments.getLast? = manifest.upcoming 1 := by
  obtain ⟨older, maxSeq, segments, -⟩ := clear.last
  rw [segments, List.getLast?_concat, Writer.nextSegmentName_some]
  rfl

theorem replayed_eq (clear : Clear files manifest seq count)
    (named : IsFileName manifest.currentSegment) :
    ∃ older, ∀ (left : Directory),
      (∀ name ≠ manifest.currentSegment, left.content name = files.content name) →
      replayed left manifest = older ++ recordsIn (left.content manifest.currentSegment) := by
  obtain ⟨older, maxSeq, segments, others⟩ := clear.last
  refine ⟨older.flatMap fun segment => segmentRecords files segment.name, fun left same => ?_⟩
  rw [replayed, segments, List.flatMap_append, List.flatMap_singleton, named.segmentRecords_eq]
  congr 1
  exact List.flatMap_congr fun segment member =>
    segmentRecords_congr (by rw [same segment.name (others segment member)])

theorem noted (clear : Clear files manifest seq count) (above : seq ≤ later) {bytes : Bytes}
    (content : left.content = Function.update files.content manifest.currentSegment bytes)
    (greatest : UInt64) : Clear left (noteBatch manifest greatest) later count := by
  have same (ahead : Nat) (positive : 0 < ahead) (within : ahead ≤ count) :
      left.content ((noteBatch manifest greatest).upcoming ahead) =
        files.content (manifest.upcoming ahead) :=
    content ▸ Function.update_of_ne (clear.upcoming_ne_current positive within) _ _
  obtain ⟨older, maxSeq, segments, others⟩ := clear.last
  have segments' : (noteBatch manifest greatest).segments =
      older ++ [⟨manifest.currentSegment, max maxSeq greatest⟩] := by
    rw [noteBatch, segments, raiseLast_concat]
  refine ⟨⟨older, _, segments', others⟩, fun ahead positive within segment member => ?_,
    fun ahead positive within => ?_, fun ahead positive within record member => ?_⟩
  · rw [segments', List.mem_append, List.mem_singleton] at member
    rcases member with before | rfl
    · exact clear.unlisted ahead positive within segment (by simp [segments, before])
    · exact (clear.upcoming_ne_current positive within).symm
  · rw [same ahead positive within]
    exact clear.whole ahead positive within
  · rw [same ahead positive within] at member
    exact Nat.le_trans (clear.older ahead positive within record member) above

theorem upcoming_rotated (clear : Clear files manifest seq count) (ahead : Nat) :
    manifest.rotated.upcoming ahead = manifest.upcoming (1 + ahead) := by
  change segmentName (numberOf (nextSegmentName manifest.segments.getLast?) + ahead) = _
  rw [clear.next_eq, Manifest.upcoming, Writer.numberOf_segmentName, Writer.segmentName_mod_add,
    Nat.add_assoc]
  rfl

theorem rotated (clear : Clear files manifest seq (count + 1)) (few : count < 2 ^ 64) :
    Clear files manifest.rotated seq count := by
  have current : manifest.rotated.currentSegment = manifest.upcoming 1 := clear.next_eq
  have segments : manifest.rotated.segments =
      manifest.segments ++ [⟨manifest.rotated.currentSegment, manifest.lastSeq⟩] := rfl
  refine ⟨⟨_, _, segments, fun segment member => ?_⟩,
    fun ahead positive within segment member => ?_, fun ahead positive within => ?_,
    fun ahead positive within => ?_⟩
  · rw [current]
    exact clear.unlisted 1 Nat.one_pos (by omega) segment member
  · rw [clear.upcoming_rotated]
    rw [segments, List.mem_append, List.mem_singleton] at member
    rcases member with before | rfl
    · exact clear.unlisted (1 + ahead) (by omega) (by omega) segment before
    · rw [current]
      intro same
      have := Writer.mod_eq_of_segmentName_eq same
      omega
  · rw [clear.upcoming_rotated]
    exact clear.whole (1 + ahead) (by omega) (by omega)
  · rw [clear.upcoming_rotated]
    exact clear.older (1 + ahead) (by omega) (by omega)

theorem replayed_rotated (clear : Clear files manifest seq count) :
    replayed files manifest.rotated =
      replayed files manifest ++ recordsIn (files.content (manifest.upcoming 1)) := by
  have named : IsFileName (manifest.upcoming 1) := isFileName_segmentName _
  rw [replayed, replayed, Manifest.rotated, List.flatMap_append, List.flatMap_singleton,
    clear.next_eq, named.segmentRecords_eq]

end Clear

/-- A log is open, and `count` further records can be appended to it. -/
structure Continues (files : Directory) (manifest : Manifest) (seq count : Nat) : Prop where
  opened : Opened files manifest
  named : IsFileName manifest.currentSegment
  clear : Clear files manifest seq count
  few : count < 2 ^ 64

/-- After a batch it is replayed behind all others, and then what a segment already held that was
begun.  Nothing was there if the segments to come are unused, and then they stay so. -/
structure Grown (files : Directory) (manifest : Manifest) (batch : List Record) (left : Directory)
    (now : Manifest) (seq count : Nat) (idle : List Record) : Prop where
  continues : Continues left now seq count
  older : ∀ record ∈ idle, record.seq.toNat ≤ seq
  extended : Extends files manifest (batch ++ idle) left now
  unused : Unused files manifest (count + 1) → idle = [] ∧ Unused left now count

namespace Continues

theorem mono (continues : Continues files manifest seq count) {fewer : Nat}
    (less : fewer ≤ count) : Continues files manifest seq fewer :=
  ⟨continues.opened, continues.named, continues.clear.mono less,
    Nat.lt_of_le_of_lt less continues.few⟩

private theorem keeps_rotate (continues : Continues files log.manifest seq (count + 1))
    {post : Directory → Writer → Prop}
    (result : ∀ left next idle, Grown files log.manifest [] left next.manifest seq count idle →
      post left next) :
    log.rotate.Keeps (fun _ => True) post files := by
  -- The file of the segment may be there already, and what it holds is replayed from now on.
  obtain ⟨-, -, clear, few⟩ := continues
  have named : IsFileName (log.manifest.upcoming 1) := isFileName_segmentName _
  obtain ⟨created, create, content, -, snapshots, exists'⟩ := named.apply_createSegment files
  have current : log.manifest.rotated.currentSegment = log.manifest.upcoming 1 := clear.next_eq
  rw [← current] at create exists' named
  have replayed' : replayed (persisted created log.manifest.rotated) log.manifest.rotated =
      replayed files log.manifest ++ recordsIn (files.content (log.manifest.upcoming 1)) := by
    rw [← clear.replayed_rotated]
    exact List.flatMap_congr fun segment _ => segmentRecords_congr (congrArg _ (congrFun content _))
  refine keeps_rotate_of create trivial trivial trivial trivial ?_
  refine result _ _ (recordsIn (files.content (log.manifest.upcoming 1))) ⟨?_, ?_, ?_, ?_⟩
  · exact ⟨⟨rfl, _, exists', current ▸ clear.whole 1 Nat.one_pos (by omega)⟩, named,
      (clear.rotated (by omega)).congr content, by omega⟩
  · exact clear.older 1 Nat.one_pos (by omega)
  · exact ⟨⟨snapshots, rfl, rfl⟩, replayed'⟩
  · intro unused
    refine ⟨by rw [unused 1 Nat.one_pos (by omega)]; rfl, fun ahead positive within => ?_⟩
    rw [clear.upcoming_rotated]
    exact (congrFun content _).trans (unused (1 + ahead) (by omega) (by omega))

private theorem noted (continues : Continues files manifest seq count)
    (legible : ∀ record ∈ batch, record.Legible) (above : seq ≤ later) (greatest : UInt64) :
    ∃ appended,
      (Effect.appendSegment manifest.currentSegment (batch.flatMap Record.encode)).apply files =
        .ok appended ∧
      Continues (persisted appended (noteBatch manifest greatest)) (noteBatch manifest greatest)
        later count ∧
      Extends files manifest batch (persisted appended (noteBatch manifest greatest))
        (noteBatch manifest greatest) ∧
      (Unused files manifest count →
        Unused (persisted appended (noteBatch manifest greatest)) (noteBatch manifest greatest)
          count) := by
  obtain ⟨⟨-, bytes, found, spells⟩, named, clear, few⟩ := continues
  obtain ⟨appended, append, content, -, snapshots, segment⟩ :=
    apply_appendSegment found (batch.flatMap Record.encode)
  have spells' := spells.append (.flatMap_encode legible)
  have held : files.content manifest.currentSegment = bytes := by simp [Directory.content, found]
  have clear' : Clear (persisted appended (noteBatch manifest greatest))
      (noteBatch manifest greatest) later count := (clear.noted above content greatest).congr rfl
  refine ⟨appended, append, ⟨⟨rfl, _, segment, ?_⟩, named, clear', few⟩,
    ⟨⟨snapshots, rfl, rfl⟩, ?_⟩, fun unused ahead positive within => ?_⟩
  · rw [recordsIn_of_spells spells']
    exact spells'
  · obtain ⟨older, replays⟩ := clear.replayed_eq named
    have others : ∀ name ≠ manifest.currentSegment,
        (persisted appended (noteBatch manifest greatest)).content name = files.content name :=
      fun name other => (congrFun content name).trans (Function.update_of_ne other _ _)
    have grown : (persisted appended (noteBatch manifest greatest)).content
        manifest.currentSegment = bytes ++ batch.flatMap Record.encode :=
      (congrFun content _).trans (Function.update_self _ _ _)
    rw [replayed_noteBatch, replays _ others, replays files fun _ _ => rfl, grown, held,
      recordsIn_of_spells spells', List.append_assoc]
  · have other := clear.upcoming_ne_current positive within
    exact (congrFun content _).trans
      ((Function.update_of_ne other _ _).trans (unused ahead positive within))

/-- A batch is written, and one batch less can be written then. -/
theorem keeps_writeBatch (continues : Continues files log.manifest seq (count + 1))
    (legible : ∀ record ∈ batch, record.Legible) (above : seq ≤ later)
    {post : Directory → Except IoError Unit × Writer → Prop}
    (result : ∀ left next idle, Grown files log.manifest batch left next.manifest later count idle →
      post left (.ok (), next)) :
    (log.writeBatch (batch.map fun record => (record.seq, record.encode))).Keeps (fun _ => True)
      post files := by
  obtain ⟨appended, append, continues', extended, unused⟩ := continues.noted legible above
    ((batch.map Record.seq).foldl max 0)
  refine keeps_writeBatch_of (by rw [List.flatMap_map]) (by rw [List.map_map]) append trivial
    (fun _ _ => trivial) trivial trivial trivial ?_ ?_
  · intro length activity
    refine result _ _ [] ⟨continues'.mono (Nat.le_succ _), nofun, ?_, fun before => ⟨rfl, ?_⟩⟩
    · rwa [List.append_nil]
    · exact fun ahead positive within => unused before ahead positive (Nat.le_succ_of_le within)
  · intro length activity
    refine keeps_rotate continues' fun left next idle grown => ?_
    refine result left next idle ⟨grown.continues, grown.older, ?_, ?_⟩
    · exact extended.trans grown.extended
    · exact fun before => grown.unused (unused before)

/-- A record is appended, and one record less can be appended then. -/
theorem keeps_appendOne (continues : Continues files log.manifest seq (count + 1))
    (legible : record.Legible) (above : seq ≤ record.seq.toNat)
    {post : Directory → Except IoError Unit × Writer → Prop}
    (result : ∀ left next idle, Continues left next.manifest record.seq.toNat count →
      (∀ other ∈ idle, other.seq.toNat ≤ record.seq.toNat) →
        Extends files log.manifest (record :: idle) left next.manifest →
          post left (.ok (), next)) :
    (log.appendOne record).Keeps (fun _ => True) post files := by
  refine keeps_appendOne_of fun activity => ?_
  change (Writer.writeBatch { log with activity }
    ([record].map fun record => (record.seq, record.encode))).Keeps _ post files
  apply keeps_writeBatch
  case continues => exact continues
  case legible => simpa using legible
  case above => exact above
  case result =>
    exact fun left next idle grown =>
      result left next idle grown.continues grown.older grown.extended

end Continues

end DocStore.Log
