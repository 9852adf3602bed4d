import DocStore.Proofs.Log.Parts
import DocStore.Proofs.Log.Resume

namespace DocStore.Log

open Writer (segmentName nextSegmentName noteBatch)

variable {files left : Directory} {manifest now : Manifest} {log : Writer}
  {records batch : List Record}

/-- The greatest number of records, or 0 if there are none. -/
def greatest (records : List Record) : UInt64 := (records.map Record.seq).foldl max 0

private theorem max_zero_right (seq : UInt64) : max seq 0 = seq := by
  rw [← UInt64.toNat_inj, toNat_max]
  exact Nat.max_eq_left (Nat.zero_le _)

private theorem foldl_max (seqs : List UInt64) (start : UInt64) :
    seqs.foldl max start = max start (seqs.foldl max 0) := by
  induction seqs generalizing start with
  | nil => exact (max_zero_right start).symm
  | cons seq rest ih =>
      rw [List.foldl_cons, List.foldl_cons, ih (max start seq), ih (max 0 seq),
        ← UInt64.toNat_inj]
      simp only [toNat_max, UInt64.toNat_zero]
      omega

theorem greatest_append (first second : List Record) :
    greatest (first ++ second) = max (greatest first) (greatest second) := by
  rw [greatest, List.map_append, List.foldl_append, foldl_max]
  rfl

theorem le_greatest {record : Record} (member : record ∈ records) :
    record.seq ≤ greatest records := by
  induction records with
  | nil => cases member
  | cons first rest ih =>
      have whole : greatest (first :: rest) = max (max 0 first.seq) (greatest rest) :=
        foldl_max (rest.map Record.seq) (max 0 first.seq)
      rw [whole]
      rcases List.mem_cons.mp member with rfl | later
      · exact le_max_of_le (.inl (le_max_of_le (.inr (UInt64.le_refl _))))
      · exact le_max_of_le (.inr (ih later))

/-- A segment that is created is there with what it had before. -/
theorem eq_of_createSegment {name : String}
    (created : (Effect.createSegment name).apply files = .ok left) :
    left = { files with segments := files.segments.insert name (files.content name) } := by
  simp only [Effect.apply] at created
  split at created
  · cases created
  split at created
  · cases created
  split at created
  · next present =>
      cases created
      obtain ⟨bytes, found⟩ := Option.isSome_iff_exists.mp present
      rw [Directory.content, found, Option.getD_some, SortedMap.insert_of_get? found]
  · next missing =>
      cases created
      rw [Directory.content, Option.not_isSome_iff_eq_none.mp missing, Option.getD_none]

theorem get?_createSegment {name : String}
    (created : (Effect.createSegment name).apply files = .ok left) (other : String) :
    left.segments.get? other =
      if other = name then some (files.content name) else files.segments.get? other := by
  rw [eq_of_createSegment created, SortedMap.get?_insert_eq]

/-- A record as it is written: its number and its bytes. -/
def Record.numbered (record : Record) : UInt64 × Bytes := (record.seq, record.encode)

/-- A log has gone on by writing records: they follow the others in its parts, as long as there are
names for these. -/
structure Advances (files : Directory) (manifest : Manifest) (records : List Record)
    (left : Directory) (now : Manifest) : Prop where
  going : Going left now
  noted : now.lastSeq = max manifest.lastSeq (greatest records)
  grown : manifest.segments.length ≤ now.segments.length
  fills : ∀ first parts, Fills files manifest first parts → now.segments.length ≤ 2 ^ 64 →
    ∃ after, Fills left now first after ∧
      after.flatMap Part.records = parts.flatMap Part.records ++ records

namespace Advances

theorem refl (going : Going files manifest) : Advances files manifest [] files manifest :=
  ⟨going, (max_zero_right _).symm, Nat.le_refl _,
    fun _ parts fills _ => ⟨parts, fills, (List.append_nil _).symm⟩⟩

theorem trans {next : Directory} {final : Manifest} {others : List Record}
    (before : Advances files manifest records left now)
    (after : Advances left now others next final) :
    Advances files manifest (records ++ others) next final := by
  refine ⟨after.going, ?_, Nat.le_trans before.grown after.grown,
    fun first parts fills few => ?_⟩
  · rw [after.noted, before.noted, greatest_append, ← UInt64.toNat_inj]
    simp only [toNat_max]
    omega
  · obtain ⟨middle, fills', same⟩ := before.fills first parts fills (Nat.le_trans after.grown few)
    obtain ⟨last, fills'', same'⟩ := after.fills first middle fills' few
    exact ⟨last, fills'', by rw [same', same, List.append_assoc]⟩

end Advances

/-- A batch is written, and the manifest after it. -/
theorem Going.advances_noted (going : Going files manifest)
    (legible : ∀ record ∈ batch, record.Legible)
    (appended : (Effect.appendSegment manifest.currentSegment (batch.flatMap Record.encode)).apply
      files = .ok left) :
    Advances files manifest batch (persisted left (noteBatch manifest (greatest batch)))
      (noteBatch manifest (greatest batch)) := by
  obtain ⟨content, found⟩ := going.stored
  have segments (name : String) : left.segments.get? name =
      if name = manifest.currentSegment then
        some (files.content manifest.currentSegment ++ batch.flatMap Record.encode)
      else files.segments.get? name := by
    simp only [Effect.apply, found] at appended
    cases appended
    rw [SortedMap.get?_insert_eq, Directory.content, found, Option.getD_some]
  have names := congrArg List.length (map_name_raiseLast (greatest batch) manifest.segments)
  rw [List.length_map, List.length_map] at names
  refine ⟨going.noted legible _ rfl segments, rfl, Nat.le_of_eq names.symm, ?_⟩
  exact fun first parts fills _ => fills.noted going legible (fun _ => le_greatest) segments

/-- A new segment begins. -/
theorem Going.advances_rotated (going : Going files manifest)
    (created : (Effect.createSegment manifest.rotated.currentSegment).apply files = .ok left) :
    Advances files manifest [] (persisted left manifest.rotated) manifest.rotated := by
  have segments := get?_createSegment created
  have longer : manifest.rotated.segments.length = manifest.segments.length + 1 := by
    simp [Manifest.rotated]
  refine ⟨going.rotated rfl segments, (Advances.refl going).noted, by omega,
    fun first parts fills few => ?_⟩
  have room : parts.length < 2 ^ 64 := by
    rw [longer, fills.listed, List.length_map] at few
    exact few
  exact ⟨_, fills.rotated going room segments, by simp⟩

theorem Going.keeps_rotate (going : Going files log.manifest) :
    log.rotate.Keeps (fun _ => True) (fun left next => next.manifest = log.manifest.rotated ∧
      Advances files log.manifest [] left next.manifest) files := by
  obtain ⟨number, named⟩ := going.next_named
  obtain ⟨created, create, -⟩ := apply_createSegment files number
  rw [← named] at create
  exact keeps_rotate_of create trivial trivial trivial trivial
    ⟨rfl, going.advances_rotated create⟩

theorem Going.keeps_writeBatch (going : Going files log.manifest)
    (legible : ∀ record ∈ batch, record.Legible) :
    (log.writeBatch (batch.map Record.numbered)).Keeps (fun _ => True) (fun left result =>
      result.1 = .ok () ∧ Advances files log.manifest batch left result.2.manifest) files := by
  obtain ⟨content, found⟩ := going.stored
  obtain ⟨appended, append, -⟩ := apply_appendSegment found (batch.flatMap Record.encode)
  have noted := going.advances_noted legible append
  have number : ((batch.map Record.numbered).map Prod.fst).foldl max 0 = greatest batch := by
    rw [List.map_map]
    rfl
  have bytes : (batch.map Record.numbered).flatMap Prod.snd = batch.flatMap Record.encode :=
    List.flatMap_map _ _ batch
  refine keeps_writeBatch_of bytes number append trivial (fun _ _ => trivial) trivial trivial
    trivial (fun length activity => ⟨rfl, noted⟩) fun length activity => ?_
  have keeps : (Writer.rotate ⟨log.options, noteBatch log.manifest (greatest batch), length,
      activity⟩).Keeps (fun _ => True) _ _ := Going.keeps_rotate noted.going
  refine keeps.mono (fun _ _ => trivial) fun left next ⟨_, rotated⟩ => ⟨rfl, ?_⟩
  have advances := noted.trans rotated
  rwa [List.append_nil] at advances

theorem fillBatch_append (limit length : Nat) (items : List (UInt64 × Bytes)) :
    (Writer.fillBatch limit length items).1 ++ (Writer.fillBatch limit length items).2 = items := by
  induction items generalizing length with
  | nil => rfl
  | cons item rest ih =>
      simp only [Writer.fillBatch]
      split
      · rw [List.cons_append, ih]
      · rfl

/-- However large batches may grow, they have all records in order. -/
theorem flatten_batches (limit : Nat) {fuel : Nat} {items : List (UInt64 × Bytes)}
    (enough : items.length ≤ fuel) : (Writer.batches limit fuel items).flatten = items := by
  induction fuel generalizing items with
  | zero =>
      rw [List.length_eq_zero_iff.mp (Nat.le_zero.mp enough)]
      rfl
  | succ fuel ih =>
      cases items with
      | nil => rfl
      | cons item rest =>
          have parts := fillBatch_append limit item.2.length rest
          have sizes := congrArg List.length parts
          rw [List.length_append] at sizes
          rw [List.length_cons] at enough
          rw [Writer.batches, List.flatten_cons, List.cons_append, ih (by omega), parts]

/-- Batches are written one after another, wherever new segments begin. -/
theorem Going.keeps_writeBatches {batches : List (List (UInt64 × Bytes))}
    (going : Going files log.manifest) (legible : ∀ record ∈ records, record.Legible)
    (grouped : batches.flatten = records.map Record.numbered) :
    (log.writeBatches batches).Keeps (fun _ => True) (fun left result =>
      result.1 = List.replicate records.length (.ok ()) ∧
        Advances files log.manifest records left result.2.manifest) files := by
  induction batches generalizing files log records with
  | nil =>
      obtain rfl := List.map_eq_nil_iff.mp grouped.symm
      exact Plan.keeps_pure trivial ⟨rfl, .refl going⟩
  | cons batch rest ih =>
      obtain ⟨first, others, rfl, rfl, grouped'⟩ := List.map_eq_append_iff.mp grouped.symm
      have legible' := List.forall_mem_append.mp legible
      refine Plan.Keeps.bind ((going.keeps_writeBatch legible'.1).mono (fun _ _ => trivial) ?_)
      rintro left ⟨outcome, next⟩ ⟨rfl, written⟩
      refine Plan.Keeps.map ((ih written.going legible'.2 grouped'.symm).mono
        (fun _ _ => trivial) ?_)
      rintro last ⟨outcomes, final⟩ ⟨rfl, later⟩
      refine ⟨?_, written.trans later⟩
      rw [List.length_map, List.length_append, List.replicate_append_replicate]

/-- Records that are appended are counted, and then written in batches. -/
theorem append_eq (log : Writer) (records : List Record) :
    ∃ activity, log.append records =
      ({ log with activity } : Writer).writeBatches (Writer.batches log.options.batchMaxBytes.toNat
        (records.map Record.numbered).length (records.map Record.numbered)) :=
  ⟨_, rfl⟩

theorem Going.keeps_append (going : Going files log.manifest)
    (legible : ∀ record ∈ records, record.Legible) :
    (log.append records).Keeps (fun _ => True) (fun left result =>
      result.1 = List.replicate records.length (.ok ()) ∧
        Advances files log.manifest records left result.2.manifest) files := by
  obtain ⟨activity, counted⟩ := append_eq log records
  have going' : Going files ({ log with activity } : Writer).manifest := going
  rw [counted]
  exact going'.keeps_writeBatches legible (flatten_batches _ (Nat.le_refl _))

/-- A log that is closed and opened again goes on as it was. -/
theorem Going.run_openIn (going : Going files manifest) (options : Options) :
    ∃ length, (Writer.openIn files options).run Plan.noFault files =
      (persisted files manifest, .ok ⟨options, manifest, length, ⟨0, 0, 0⟩⟩) := by
  obtain ⟨older, listed⟩ := going.last
  obtain ⟨number, named⟩ := going.named
  obtain ⟨bytes, stored⟩ := going.stored
  obtain ⟨records, spelled⟩ := going.whole manifest.currentSegment
  have isName : IsFileName manifest.currentSegment := named ▸ isFileName_segmentName number
  have create : (Effect.createSegment manifest.currentSegment).apply files = .ok files := by
    simp only [Effect.apply, isName.file, isName.flat, SortedMap.contains, stored,
      Option.isSome_some, Bool.false_eq_true, if_false, if_true]
  have lists : manifest.lists manifest.currentSegment = true := by simp [Manifest.lists, listed]
  have adopted : Writer.adopt manifest manifest.currentSegment = manifest := by
    simp [Writer.adopt, lists]
  have content : (files.segments.get? manifest.currentSegment).getD [] =
      files.content manifest.currentSegment := rfl
  refine ⟨(files.content manifest.currentSegment).length, ?_⟩
  -- No record is torn, so nothing is cut off and the same manifest is written again.
  simp only [Writer.openIn, going.readManifest, Option.getD_some, Manifest.ite_eq_resumed,
    isName.resumed_eq, content, spelled.scan_self, adopted]
  simp only [Plan.effect, bind, Plan.bind, Plan.run, Plan.noFault, create, Nat.lt_irrefl, if_false,
    pure]
  rfl

theorem Going.advances_reopened (going : Going files manifest) :
    Advances files manifest [] (persisted files manifest) manifest :=
  ⟨⟨rfl, going.last, going.named, going.stored, going.whole, going.marked⟩,
    (Advances.refl going).noted, Nat.le_refl _,
    fun _ parts fills _ => ⟨parts, fills.congr rfl rfl, (List.append_nil _).symm⟩⟩

/-- What writers do to a log: they append records, which are grouped into batches by their sizes, or
write batches of any sizes, or close the log and open it again. -/
inductive Work where
  | append (records : List Record)
  | write (batches : List (List Record))
  | reopen (options : Options)

def Work.added : Work → List Record
  | .append records => records
  | .write batches => batches.flatten
  | .reopen _ => []

/-- All records of a script. -/
def appended (script : List Work) : List Record := script.flatMap Work.added

/-- An open log in its directory. -/
structure OpenLog where
  files : Directory
  log : Writer

namespace OpenLog

def openIn (files : Directory) (options : Options) : Except IoError OpenLog :=
  match (Writer.openIn files options).run Plan.noFault files with
  | (files, .ok log) => .ok ⟨files, log⟩
  | (_, .error error) => .error error

/-- One work, with what the writer of every record is told. -/
def perform (state : OpenLog) : Work → Except IoError (List (Except IoError Unit) × OpenLog)
  | .append records =>
      let (files, outcomes, log) := (state.log.append records).run Plan.noFault state.files
      .ok (outcomes, ⟨files, log⟩)
  | .write batches =>
      let batches := batches.map (List.map Record.numbered)
      let (files, outcomes, log) := (state.log.writeBatches batches).run Plan.noFault state.files
      .ok (outcomes, ⟨files, log⟩)
  | .reopen options => (openIn state.files options).map fun state => ([], state)

def performAll (state : OpenLog) :
    List Work → Except IoError (List (Except IoError Unit) × OpenLog)
  | [] => .ok ([], state)
  | work :: rest => do
      let (outcomes, state) ← state.perform work
      let (later, state) ← state.performAll rest
      .ok (outcomes ++ later, state)

/-- The log of an empty directory. -/
def first (options : Options) : OpenLog where
  files := persisted
    { Directory.empty with segments := (∅ : SortedMap String Bytes).insert (segmentName 1) [] }
    (openedManifest none)
  log := ⟨options, openedManifest none, 0, ⟨0, 0, 0⟩⟩

theorem openIn_empty (options : Options) : openIn .empty options = .ok (first options) := rfl

theorem get?_first (options : Options) (name : String) :
    (first options).files.segments.get? name = if name = segmentName 1 then some [] else none :=
  SortedMap.get?_insert_eq ..

theorem going_first (options : Options) :
    Going (first options).files (first options).log.manifest := by
  refine ⟨rfl, ⟨[], rfl⟩, ⟨1, rfl⟩, ⟨[], (get?_first options _).trans (if_pos rfl)⟩,
    fun name => ⟨[], ?_⟩, nofun⟩
  rw [Directory.content, get?_first]
  split
  · exact .nil
  · exact .nil

theorem fills_first (options : Options) :
    Fills (first options).files (first options).log.manifest 1 [⟨⟨segmentName 1, 0⟩, []⟩] where
  listed := rfl
  named := rfl
  few := by decide
  stored := List.forall_mem_singleton.mpr ((get?_first options _).trans (if_pos rfl))
  others := fun name unlisted =>
    (get?_first options name).trans (if_neg fun same => unlisted (List.mem_singleton.mpr same))
  legible := List.forall_mem_singleton.mpr nofun
  bounded := List.forall_mem_singleton.mpr nofun
  rising := List.pairwise_singleton _ _

end OpenLog

theorem Going.perform {state : OpenLog} (going : Going state.files state.log.manifest)
    {work : Work} (legible : ∀ record ∈ work.added, record.Legible) :
    ∃ next, state.perform work = .ok (List.replicate work.added.length (.ok ()), next) ∧
      Advances state.files state.log.manifest work.added next.files next.log.manifest := by
  cases work with
  | append records =>
      have legible' : ∀ record ∈ records, record.Legible := legible
      obtain ⟨left, ⟨outcomes, log⟩, run, rfl, advances⟩ := (going.keeps_append legible').exists_run
      exact ⟨⟨left, log⟩, by simp only [OpenLog.perform, run, Work.added], advances⟩
  | write batches =>
      obtain ⟨left, ⟨outcomes, log⟩, run, rfl, advances⟩ :=
        (going.keeps_writeBatches legible List.map_flatten.symm).exists_run
      exact ⟨⟨left, log⟩, by simp only [OpenLog.perform, run, Work.added], advances⟩
  | reopen options =>
      obtain ⟨length, run⟩ := going.run_openIn options
      refine ⟨⟨persisted state.files state.log.manifest,
        ⟨options, state.log.manifest, length, ⟨0, 0, 0⟩⟩⟩, ?_, going.advances_reopened⟩
      simp only [OpenLog.perform, OpenLog.openIn, run]
      rfl

theorem Going.performAll {state : OpenLog} (going : Going state.files state.log.manifest)
    {script : List Work} (legible : ∀ record ∈ appended script, record.Legible) :
    ∃ final, state.performAll script =
        .ok (List.replicate (appended script).length (.ok ()), final) ∧
      Advances state.files state.log.manifest (appended script) final.files
        final.log.manifest := by
  induction script generalizing state with
  | nil => exact ⟨state, rfl, .refl going⟩
  | cons work rest ih =>
      have legible' := List.forall_mem_append.mp legible
      obtain ⟨next, performed, advances⟩ := going.perform legible'.1
      obtain ⟨final, performed', advances'⟩ := ih advances.going legible'.2
      refine ⟨final, ?_, advances.trans advances'⟩
      simp only [OpenLog.performAll, performed, performed', bind, Except.bind, appended,
        List.flatMap_cons, List.length_append, List.replicate_append_replicate]

/-- However records are grouped, wherever segments begin and whenever the log is opened again, every
append is acknowledged, and as long as there are names for all segments these have exactly the
records in their order.  No list of segments in memory is so long that the names recur. -/
theorem written_log_replays (options : Options) {script : List Work}
    (legible : ∀ record ∈ appended script, record.Legible) :
    ∃ state : OpenLog,
      (do (← OpenLog.openIn .empty options).performAll script) =
        .ok (List.replicate (appended script).length (.ok ()), state) ∧
      readManifest state.files = .ok (some state.log.manifest) ∧
      state.log.manifest.lastSeq = greatest (appended script) ∧
      (state.log.manifest.segments.map SegmentInfo.name).getLast? =
        some state.log.manifest.currentSegment ∧
      (state.log.manifest.segments.length ≤ 2 ^ 64 →
        (state.log.manifest.segments.map SegmentInfo.name).Nodup ∧
        (state.log.manifest.segments.flatMap fun segment => state.files.content segment.name) =
          (appended script).flatMap Record.encode ∧
        replay state.files = .ok (appended script)) := by
  obtain ⟨state, performed, advances⟩ := (OpenLog.going_first options).performAll legible
  refine ⟨state, ?_, advances.going.readManifest, ?_, advances.going.getLast?_name, fun few => ?_⟩
  · rw [OpenLog.openIn_empty]
    exact performed
  · rw [advances.noted]
    exact max_zero_left _
  · obtain ⟨parts, fills, same⟩ := advances.fills 1 _ (OpenLog.fills_first options) few
    rw [List.flatMap_singleton, List.nil_append] at same
    refine ⟨?_, ?_, ?_⟩
    · rw [fills.names_eq]
      exact fills.nodup
    · rw [fills.contents, same]
    · rw [fills.replay advances.going, same]

/-- Three commits out of order, in two calls. -/
def scattered : List Work :=
  [.append [⟨3, 0, [.deleteIndex "films"]⟩, ⟨1, 0, [.deleteIndex "books"]⟩], .write [[⟨2, -1, []⟩]]]

/-- A new segment begins after each of the three. -/
theorem scattered_replays :
    (∀ record ∈ appended scattered, record.Legible) ∧
      ∃ state : OpenLog,
        (do (← OpenLog.openIn .empty ⟨1, 1, 0⟩).performAll scattered) =
          .ok ([.ok (), .ok (), .ok ()], state) ∧
        state.log.manifest.segments.length = 4 ∧ state.log.manifest.lastSeq = 3 ∧
        replay state.files = .ok (appended scattered) := by
  have legible : ∀ record ∈ appended scattered, record.Legible := by decide +kernel
  obtain ⟨state, performed, -, greatest, -, replays⟩ := written_log_replays ⟨1, 1, 0⟩ legible
  have segments : ((OpenLog.openIn .empty ⟨1, 1, 0⟩ >>= (·.performAll scattered)).toOption.map
      fun result => result.2.log.manifest.segments.length) = some 4 := by decide +kernel
  replace segments := performed ▸ segments
  have four : state.log.manifest.segments.length = 4 := Option.some_inj.mp segments
  exact ⟨legible, state, performed, four, greatest, (replays (by omega)).2.2⟩

end DocStore.Log
