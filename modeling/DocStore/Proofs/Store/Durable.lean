import DocStore.Store.Basic
import DocStore.Proofs.Recovery
/-!
Stores and the directories behind them.

`Rests` says what a directory keeps of a history: a snapshot of its first `count`
commits, and the records that the log still has.  `Serves` says the same of an
open store.  Every operation of a store is described by the directories it passes
through, which rest, and by the store it ends with, which serves.  Nothing is lost
as long as the log has all records that the snapshot does not cover
(`Log.Trims count`).
-/

namespace DocStore

open Log (Record Manifest Numbered Ready Stands Written SameCurrent SameSnapshots Trims)

variable {files left : Directory} {manifest : Manifest} {history records : List Record}
  {count : Nat}

theorem Log.Trims.mono (trims : Trims count history records) {more : Nat} (above : count ≤ more) :
    Trims more history records :=
  ⟨trims.sublist, fun record member newer => trims.newer record member (by omega)⟩

theorem Log.Trims.append (trims : Trims count history records) (added : List Record) :
    Trims count (history ++ added) (records ++ added) := by
  refine ⟨trims.sublist.append (List.Sublist.refl _), fun other member newer => ?_⟩
  rcases List.mem_append.mp member with old | new
  · exact List.mem_append_left _ (trims.newer other old newer)
  · exact List.mem_append_right _ new

/-- A directory holds a history: its snapshot the first `count` commits, its log some records. -/
structure Rests (files : Directory) (history : List Record) (count : Nat) (records : List Record) :
    Prop where
  numbered : Numbered 1 history
  logged : records.Sublist history
  log : ∃ manifest, Stands files manifest history.length records ∧
    Covers files manifest history count

/-- An open store holds the tables after a history, and its directory holds the history. -/
structure Serves (files : Directory) (store : Store) (history : List Record) (count : Nat)
    (records : List Record) : Prop where
  numbered : Numbered 1 history
  tables : store.tables = .after history
  logged : records.Sublist history
  log : ∃ log, store.backing = some ⟨log, false⟩ ∧ Ready files log history.length records ∧
    Covers files log.manifest history count

/-- An open log behind a store holds a history. -/
structure Backs (files : Directory) (log : Log.Writer) (history : List Record) (count : Nat)
    (records : List Record) : Prop where
  numbered : Numbered 1 history
  logged : records.Sublist history
  open' : Written files log history.length records
  covers : Covers files log.manifest history count

namespace Backs

variable {log : Log.Writer}

theorem rests (backs : Backs files log history count records) :
    Rests files history count records :=
  ⟨backs.numbered, backs.logged, log.manifest, backs.open'.stands, backs.covers⟩

end Backs

namespace Rests

theorem empty : Rests .empty [] 0 [] := by
  refine ⟨.nil 1, .slnil, _, ⟨.inr ⟨rfl, rfl, rfl⟩, .first fun _ => rfl⟩, ?_⟩
  exact ⟨Nat.le_refl _, rfl, Nat.le_refl _⟩

theorem recover (rests : Rests files history count records)
    (nothingLost : Trims count history records) :
    DocStore.recover files = .ok (.after history) := by
  obtain ⟨manifest, stands, covers⟩ := rests.log
  exact recover_history stands covers rests.numbered nothingLost

end Rests

namespace Serves

variable {store : Store}

theorem rests (serves : Serves files store history count records) :
    Rests files history count records := by
  obtain ⟨log, -, ready, covers⟩ := serves.log
  exact ⟨serves.numbered, serves.logged, log.manifest, ready.stands, covers⟩

/-- The log of the store, which can be written further. -/
theorem exists_backs (serves : Serves files store history count records) :
    ∃ log, store.backing = some ⟨log, false⟩ ∧ Ready files log history.length records ∧
      Backs files log history count records := by
  obtain ⟨numbered, tables, logged, log, backing, ready, covers⟩ := serves
  exact ⟨log, backing, ready, numbered, logged, ready.toWritten, covers⟩

/-- Another log behind the store, which goes on with the same segment. -/
theorem of_backs (serves : Serves files store history count records) {log next : Log.Writer}
    (ready : Ready files log history.length records) (same : SameCurrent files log left next)
    {more : Nat} {others : List Record} (backs : Backs left next history more others) :
    Serves left { store with backing := some ⟨next, false⟩ } history more others :=
  ⟨backs.numbered, serves.tables, backs.logged, next, rfl, ready.of_sameCurrent same backs.open',
    backs.covers⟩

theorem commitSeq (serves : Serves files store history count records) :
    store.tables.commitSeq.toNat = history.length := by
  rw [serves.tables, Tables.commitSeq_after serves.numbered]

theorem within (serves : Serves files store history count records) : count ≤ history.length := by
  obtain ⟨log, -, -, covers⟩ := serves.log
  exact covers.within

end Serves

theorem keeps_open (options : Log.Options) (rests : Rests files history count records)
    (nothingLost : Trims count history records) {during : Directory → Prop}
    {post : Directory → Except IoError Store → Prop}
    (before : ∀ left, Rests left history count records → during left)
    (opened : ∀ left store, Serves left store history count records → post left (.ok store)) :
    (Store.openIn files options).Keeps during post files := by
  have recovered := rests.recover nothingLost
  obtain ⟨numbered, logged, manifest, stands, covers⟩ := rests
  have rests (left : Directory) (snapshots : left.snapshots = files.snapshots)
      (stands : Stands left manifest history.length records) : Rests left history count records :=
    ⟨numbered, logged, manifest, stands, covers.congr ⟨snapshots, rfl, rfl⟩⟩
  unfold Store.openIn
  simp only [recovered]
  refine Plan.Keeps.bind (Log.keeps_openIn options stands ?_ ?_)
  · exact fun left snapshots stands => before left (rests left snapshots stands)
  · rintro left log snapshots rfl ready
    refine Plan.keeps_pure (before left (rests left snapshots ready.stands)) (opened left _ ?_)
    exact ⟨numbered, rfl, logged, log, rfl, ready, covers.congr ⟨snapshots, rfl, rfl⟩⟩

def Transaction.record (transaction : Transaction) (now : Int64) : Record :=
  ⟨transaction.nextSeq, now, transaction.mutations⟩

theorem Transaction.seq_record {transaction : Transaction}
    (room : transaction.tables.commitSeq.toNat + 1 < 2 ^ 64) (now : Int64) :
    (transaction.record now).seq.toNat = transaction.tables.commitSeq.toNat + 1 := by
  change (transaction.tables.commitSeq + 1).toNat = _
  rw [UInt64.toNat_add]
  exact Nat.mod_eq_of_lt room

theorem Transaction.apply_eq_after {transaction : Transaction}
    (begun : transaction.tables = .after history) (changes : transaction.mutations ≠ [])
    (now : Int64) : transaction.apply = .after (history ++ [transaction.record now]) := by
  rw [Transaction.apply, if_neg (by simpa using changes), Tables.after_snoc, ← begun]
  rfl

variable {store : Store}

/-- A transaction is committed.  On the way its record is in the log or not. -/
theorem keeps_commit (serves : Serves files store history count records) {transaction : Transaction}
    (begun : transaction.tables = store.tables) (changes : transaction.mutations ≠ [])
    {now : Int64} (legible : (transaction.record now).Legible)
    (room : history.length + 1 < 2 ^ 64) {during : Directory → Prop}
    {post : Directory → Store.Outcome UInt64 → Prop}
    (before : ∀ left, Rests left history count records → during left)
    (after : ∀ left, Rests left (history ++ [transaction.record now]) count
      (records ++ [transaction.record now]) → during left)
    (result : ∀ left next, Serves left next (history ++ [transaction.record now]) count
      (records ++ [transaction.record now]) → next.tables = transaction.apply →
        left.snapshots = files.snapshots → post left (.ok transaction.nextSeq, next)) :
    (store.commit now transaction).Keeps during post files := by
  have commitSeq := serves.commitSeq
  obtain ⟨numbered, tables, logged, log, backing, ready, covers⟩ := serves
  have logged' : (records ++ [transaction.record now]).Sublist
      (history ++ [transaction.record now]) := logged.append (.refl _)
  have number : (transaction.record now).seq.toNat = history.length + 1 := by
    rw [Transaction.seq_record (by rw [begun]; omega), begun, commitSeq]
  have numbered' : Numbered 1 (history ++ [transaction.record now]) := numbered.snoc (by omega)
  have length : (transaction.record now).seq.toNat =
      (history ++ [transaction.record now]).length := by
    rw [List.length_append, number]
    rfl
  have applied := Transaction.apply_eq_after (begun.trans tables) changes now
  unfold Store.commit
  rw [if_neg (by simpa using changes)]
  simp only [backing, Bool.false_eq_true, if_false]
  refine Plan.Keeps.bind (Log.keeps_appendOne ready legible (by omega) ?_ ?_ ?_)
  · intro left now same stands
    exact before left ⟨numbered, logged, now, stands, covers.congr same⟩
  · intro left now same stands
    exact after left ⟨numbered', logged', now, length ▸ stands, (covers.congr same).snoc _⟩
  · intro left log' same ready
    rw [length] at ready
    have covers' := (covers.congr same).snoc (transaction.record now)
    refine Plan.keeps_pure (after left ?_) (result left _ ?_ rfl same.snapshots)
    · exact ⟨numbered', logged', _, ready.stands, covers'⟩
    · exact ⟨numbered', applied, logged', log', rfl, ready, covers'⟩

def Transaction.record? (transaction : Transaction) (now : Int64) : Option Record :=
  if transaction.mutations.isEmpty then none else some (transaction.record now)

theorem Transaction.record?_of_changes {transaction : Transaction}
    (changes : transaction.mutations ≠ []) (now : Int64) :
    transaction.record? now = some (transaction.record now) := by
  rw [record?, if_neg (by simpa using changes)]

theorem Transaction.record?_of_unchanged {transaction : Transaction}
    (unchanged : transaction.mutations = []) (now : Int64) : transaction.record? now = none := by
  rw [record?, if_pos (by simpa using unchanged)]

/-- The number that a commit is told to have: without changes that of the commit before. -/
def Transaction.committedSeq (transaction : Transaction) : UInt64 :=
  if transaction.mutations.isEmpty then transaction.tables.commitSeq else transaction.nextSeq

/-- A transaction over the tables: its record is read as it was written, and there is a number for
it. -/
structure Transaction.Committable (transaction : Transaction) (now : Int64) (tables : Tables) :
    Prop where
  begun : transaction.tables = tables
  legible : ∀ record ∈ transaction.record? now, record.Legible
  room : transaction.mutations ≠ [] → tables.commitSeq.toNat + 1 < 2 ^ 64

theorem Store.commit_unchanged (store : Store) {transaction : Transaction}
    (unchanged : transaction.mutations = []) (now : Int64) :
    store.commit now transaction = pure (.ok store.tables.commitSeq, store) := by
  rw [commit, if_pos (by simpa using unchanged)]

theorem Store.commit_readOnly {log : Log.Writer} (backing : store.backing = some ⟨log, true⟩)
    {transaction : Transaction} (changes : transaction.mutations ≠ []) (now : Int64) :
    store.commit now transaction = pure (.error .readOnly, store) := by
  rw [commit, if_neg (by simpa using changes)]
  simp only [backing, if_true]

/-- Any transaction is committed; without changes nothing happens. -/
theorem keeps_commit_any (serves : Serves files store history count records)
    {transaction : Transaction} (begun : transaction.tables = store.tables) {now : Int64}
    (legible : ∀ record ∈ transaction.record? now, record.Legible)
    (room : history.length + (transaction.record? now).toList.length < 2 ^ 64)
    {during : Directory → Prop} {post : Directory → Store.Outcome UInt64 → Prop}
    (before : ∀ left, Rests left history count records → during left)
    (after : ∀ left, Rests left (history ++ (transaction.record? now).toList) count
      (records ++ (transaction.record? now).toList) → during left)
    (result : ∀ left next, Serves left next (history ++ (transaction.record? now).toList) count
      (records ++ (transaction.record? now).toList) → next.tables = transaction.apply →
        left.snapshots = files.snapshots → post left (.ok transaction.committedSeq, next)) :
    (store.commit now transaction).Keeps during post files := by
  cases unchanged : transaction.mutations.isEmpty with
  | true =>
      have none : transaction.record? now = none := if_pos unchanged
      rw [none, Option.toList_none, List.append_nil, List.append_nil, Transaction.committedSeq,
        if_pos unchanged, begun] at result
      unfold Store.commit
      rw [if_pos unchanged]
      refine Plan.keeps_pure (before files serves.rests) (result files store serves ?_ rfl)
      rw [Transaction.apply, if_pos unchanged, begun]
  | false =>
      have changes : transaction.mutations ≠ [] := by simpa using unchanged
      rw [Transaction.record?_of_changes changes] at legible room after result
      rw [Transaction.committedSeq, if_neg (by simp [unchanged])] at result
      exact keeps_commit serves begun changes (legible _ rfl) room before after result

/-- The last step of a snapshot: a file that was written becomes the current snapshot, which covers
the commits up to `seq`. -/
def Store.markSnapshot (store : Store) (name : String) (seq : UInt64) :
    Plan (Store.Outcome (String × UInt64)) :=
  match store.backing with
  | none => return (.error .noSnapshots, store)
  | some backing => do
      let (outcome, log) ← backing.log.setSnapshot name seq
      let store := { store with backing := some { backing with log } }
      match outcome with
      | .error error => return (.error (.io error), store)
      | .ok () => return (.ok (name, seq), store)

/-- A snapshot exports the tables, writes them to a file, and makes the file current. -/
theorem Store.snapshot_eq {log : Log.Writer} {readOnly : Bool}
    (backing : store.backing = some ⟨log, readOnly⟩) (now : Int64) (name : String) :
    store.snapshot now name =
      Plan.effect (.writeSnapshot name (Snapshot.write store.tables now)) >>= fun outcome =>
        match outcome with
        | .error error => pure (.error (.io error), store)
        | .ok () => store.markSnapshot name store.tables.commitSeq := by
  obtain ⟨tables, stored⟩ := store
  subst backing
  rfl

def Directory.withSnapshot (files : Directory) (name text : String) : Directory :=
  { files with snapshots := files.snapshots.insert name text }

def Directory.HoldsSnapshot (files : Directory) (name : String) (tables : Tables) : Prop :=
  (Directory.readFile files.snapshots name >>= Snapshot.read) = .ok tables

theorem Directory.holdsSnapshot_write {name : String} (file : Directory.isFolder name = false)
    {tables : Tables} (keyed : tables.Keyed) {now : Int64} (legible : Snapshot.Legible tables now)
    (files : Directory) :
    (files.withSnapshot name (Snapshot.write tables now)).HoldsSnapshot name tables := by
  simp only [HoldsSnapshot, withSnapshot, readFile, file, SortedMap.get?_insert_self, bind,
    Except.bind, Bool.false_eq_true, if_false]
  exact Snapshot.read_write keyed legible

theorem Directory.HoldsSnapshot.withSnapshot {name other text : String} {tables : Tables}
    (holds : files.HoldsSnapshot name tables) (different : name ≠ other) :
    (files.withSnapshot other text).HoldsSnapshot name tables := by
  simpa only [HoldsSnapshot, Directory.withSnapshot, readFile,
    SortedMap.get?_insert_of_ne different] using holds

theorem Directory.HoldsSnapshot.congr {name : String} {tables : Tables}
    (holds : files.HoldsSnapshot name tables) (same : left.snapshots = files.snapshots) :
    left.HoldsSnapshot name tables := by
  rwa [HoldsSnapshot, same]

theorem Directory.HoldsSnapshot.ne_of_fresh {name fresh : String} {tables : Tables}
    (holds : files.HoldsSnapshot name tables) (absent : files.snapshots.get? fresh = none) :
    name ≠ fresh := by
  rintro rfl
  cases folder : Directory.isFolder name <;>
    simp [HoldsSnapshot, readFile, folder, absent, bind, Except.bind] at holds

theorem Covers.holdsSnapshot (covers : Covers files manifest history count) {name : String}
    (current : manifest.currentSnapshot = some name) :
    files.HoldsSnapshot name (.after (history.take count)) := by
  rw [Directory.HoldsSnapshot, ← covers.tables]
  simp only [snapshotTables, current]

theorem Covers.marked {name : String} {seq : UInt64} {taken : Nat} (within : taken ≤ history.length)
    (holds : files.HoldsSnapshot name (.after (history.take taken))) (number : seq.toNat = taken) :
    Covers files (manifest.marked name seq) history taken :=
  ⟨within, holds, Nat.le_of_eq number⟩

/-- A file with the first commits of the history becomes the current snapshot, whatever the store
has. -/
theorem keeps_markSnapshot_of {log : Log.Writer} {readOnly : Bool}
    (backs : Backs files log history count records)
    (backing : store.backing = some ⟨log, readOnly⟩) {name : String} {seq : UInt64} {taken : Nat}
    (within : taken ≤ history.length)
    (holds : files.HoldsSnapshot name (.after (history.take taken))) (number : seq.toNat = taken)
    {during : Directory → Prop} {post : Directory → Store.Outcome (String × UInt64) → Prop}
    (before : ∀ left, Rests left history count records → during left)
    (after : ∀ left, Rests left history taken records → during left)
    (result : ∀ left next, SameCurrent files log left next →
      Backs left next history taken records → left.snapshots = files.snapshots →
        post left (.ok (name, seq), { store with backing := some ⟨next, readOnly⟩ })) :
    (store.markSnapshot name seq).Keeps during post files := by
  obtain ⟨numbered, logged, open', covers⟩ := backs
  have covers' : Covers files (log.manifest.marked name seq) history taken :=
    .marked within holds number
  unfold Store.markSnapshot
  simp only [backing]
  refine Plan.Keeps.bind (Log.keeps_setSnapshot open' name seq ?_ ?_ ?_)
  · intro left snapshots stands
    exact before left ⟨numbered, logged, _, stands, covers.congr ⟨snapshots, rfl, rfl⟩⟩
  · intro left snapshots stands
    exact after left ⟨numbered, logged, _, stands, covers'.congr ⟨snapshots, rfl, rfl⟩⟩
  · intro left next snapshots manifest same open'
    have backs' : Backs left next history taken records :=
      ⟨numbered, logged, open', manifest ▸ covers'.congr ⟨snapshots, rfl, rfl⟩⟩
    exact Plan.keeps_pure (after left backs'.rests) (result left next same backs' snapshots)

theorem keeps_markSnapshot (serves : Serves files store history count records) {name : String}
    {seq : UInt64} {taken : Nat} (within : taken ≤ history.length)
    (holds : files.HoldsSnapshot name (.after (history.take taken))) (number : seq.toNat = taken)
    {during : Directory → Prop} {post : Directory → Store.Outcome (String × UInt64) → Prop}
    (before : ∀ left, Rests left history count records → during left)
    (after : ∀ left, Rests left history taken records → during left)
    (result : ∀ left next, Serves left next history taken records → next.tables = store.tables →
      left.snapshots = files.snapshots → post left (.ok (name, seq), next)) :
    (store.markSnapshot name seq).Keeps during post files := by
  obtain ⟨log, backing, ready, backs⟩ := serves.exists_backs
  exact keeps_markSnapshot_of backs backing within holds number before after
    fun left next same backs' snapshots =>
      result left _ (serves.of_backs ready same backs') rfl snapshots

/-- Writing a file that is not the current snapshot changes nothing. -/
theorem Covers.withSnapshot (covers : Covers files manifest history count) {name : String}
    (different : manifest.currentSnapshot ≠ some name) (text : String) :
    Covers (files.withSnapshot name text) manifest history count := by
  refine ⟨covers.within, ?_, covers.bookmark⟩
  rw [← covers.tables]
  cases current : manifest.currentSnapshot with
  | none => simp only [snapshotTables, current]
  | some other =>
      have apart : other ≠ name := fun same => different (same ▸ current)
      simp only [snapshotTables, current, Directory.withSnapshot, Directory.readFile,
        SortedMap.get?_insert_of_ne apart]

/-- Writing more commits to the file of the current snapshot makes it cover these. -/
theorem Covers.overwritten (covers : Covers files manifest history count) {name : String}
    (current : manifest.currentSnapshot = some name) {taken : Nat} (above : count ≤ taken)
    (within : taken ≤ history.length)
    (holds : left.HoldsSnapshot name (.after (history.take taken))) :
    Covers left manifest history taken := by
  refine ⟨within, ?_, Nat.le_trans covers.bookmark above⟩
  rw [← holds]
  simp only [snapshotTables, current]

theorem Serves.withSnapshot (serves : Serves files store history count records) (name text : String)
    {more : Nat} (covers : ∀ log, store.backing = some ⟨log, false⟩ →
      Covers files log.manifest history count →
        Covers (files.withSnapshot name text) log.manifest history more) :
    Serves (files.withSnapshot name text) store history more records := by
  obtain ⟨numbered, tables, logged, log, backing, ready, before⟩ := serves
  have ready' : Ready (files.withSnapshot name text) log history.length records :=
    ⟨ready.written, ready.holds, ready.current⟩
  exact ⟨numbered, tables, logged, log, backing, ready', covers log backing before⟩

/-- A snapshot of the first commits of the history is written, under any name, and becomes
current. -/
theorem keeps_snapshot_of {log : Log.Writer} {readOnly : Bool}
    (backs : Backs files log history count records)
    (backing : store.backing = some ⟨log, readOnly⟩) {taken : Nat} (above : count ≤ taken)
    (within : taken ≤ history.length) (tables : store.tables = .after (history.take taken))
    {name : String} (file : Directory.isFolder name = false) {now : Int64}
    (legible : Snapshot.Legible store.tables now) {during : Directory → Prop}
    {post : Directory → Store.Outcome (String × UInt64) → Prop}
    (before : ∀ left more, count ≤ more → more ≤ taken → Rests left history more records →
      during left)
    (result : ∀ left next, SameCurrent files log left next →
      Backs left next history taken records →
        post left (.ok (name, store.tables.commitSeq),
          { store with backing := some ⟨next, readOnly⟩ })) :
    (store.snapshot now name).Keeps during post files := by
  obtain ⟨numbered, logged, open', covers⟩ := backs
  have keyed : store.tables.Keyed := tables ▸ Tables.Keyed.empty.replay _
  have holds : (files.withSnapshot name (Snapshot.write store.tables now)).HoldsSnapshot name
      (.after (history.take taken)) := by
    rw [← tables]
    exact Directory.holdsSnapshot_write file keyed legible files
  have number : store.tables.commitSeq.toNat = taken := by
    rw [tables, Tables.commitSeq_after (numbered.take taken), List.length_take_of_le within]
  have rests : Rests files history count records :=
    ⟨numbered, logged, log.manifest, open'.stands, covers⟩
  -- The file may be the current snapshot, which then covers the commits at once.
  obtain ⟨more, atLeast, atMost, covers'⟩ : ∃ more, count ≤ more ∧ more ≤ taken ∧
      Covers (files.withSnapshot name (Snapshot.write store.tables now)) log.manifest history
        more := by
    by_cases current : log.manifest.currentSnapshot = some name
    · exact ⟨taken, above, Nat.le_refl _, covers.overwritten current above within holds⟩
    · exact ⟨count, Nat.le_refl _, above, covers.withSnapshot current _⟩
  have written : Backs (files.withSnapshot name (Snapshot.write store.tables now)) log history more
      records := ⟨numbered, logged, ⟨open'.written, open'.holds⟩, covers'⟩
  rw [Store.snapshot_eq backing]
  refine Plan.keeps_effect rfl (before files count (Nat.le_refl _) above rests) nofun ?_
  change (store.markSnapshot name store.tables.commitSeq).Keeps during post
    (files.withSnapshot name (Snapshot.write store.tables now))
  apply keeps_markSnapshot_of written backing within holds number
  · exact fun left => before left more atLeast atMost
  · exact fun left => before left taken above (Nat.le_refl _)
  · exact fun left next same backs' _ => result left next ⟨same.name, same.segment⟩ backs'

/-- A snapshot of all commits is written, under any name, and becomes current. -/
theorem keeps_snapshot (serves : Serves files store history count records) {name : String}
    (file : Directory.isFolder name = false) {now : Int64}
    (legible : Snapshot.Legible store.tables now) {during : Directory → Prop}
    {post : Directory → Store.Outcome (String × UInt64) → Prop}
    (before : ∀ left more, count ≤ more → Rests left history more records → during left)
    (result : ∀ left next, Serves left next history history.length records →
      next.tables = store.tables → post left (.ok (name, store.tables.commitSeq), next)) :
    (store.snapshot now name).Keeps during post files := by
  obtain ⟨log, backing, ready, backs⟩ := serves.exists_backs
  apply keeps_snapshot_of backs backing backs.covers.within (Nat.le_refl _) ?_ file legible
  · exact fun left more above _ => before left more above
  · exact fun left next same backs' => result left _ (serves.of_backs ready same backs') rfl
  · rw [List.take_length, serves.tables]

theorem Store.trim_other {log : Log.Writer} {readOnly : Bool} {name : String}
    (backing : store.backing = some ⟨log, readOnly⟩)
    (other : log.manifest.currentSnapshot ≠ some name) :
    store.trim name = pure (.error .snapshotMismatch, store) := by
  have refused : log.trim name = pure (.error .snapshotMismatch, log) := by
    rw [Log.Writer.trim, if_pos other]
  obtain ⟨tables, stored⟩ := store
  subst backing
  simp only [Store.trim, refused]
  rfl

/-- The log of a store loses records that the current snapshot covers. -/
theorem keeps_trim_of {log : Log.Writer} {readOnly : Bool}
    (backs : Backs files log history count records)
    (backing : store.backing = some ⟨log, readOnly⟩) {name : String}
    (current : log.manifest.currentSnapshot = some name) {during : Directory → Prop}
    {post : Directory → Store.Outcome (List String) → Prop}
    (before : ∀ left less, Trims count records less → Rests left history count less → during left)
    (result : ∀ left names next less, Trims count records less → SameCurrent files log left next →
      Backs left next history count less → left.snapshots = files.snapshots →
        post left (.ok names, { store with backing := some ⟨next, readOnly⟩ })) :
    (store.trim name).Keeps during post files := by
  obtain ⟨numbered, logged, open', covers⟩ := backs
  have covered {less : List Record}
      (trims : Trims (log.manifest.snapshotBookmark.getD 0).toNat records less) :
      Trims count records less := trims.mono covers.bookmark
  unfold Store.trim
  simp only [backing]
  refine Plan.Keeps.bind (Log.keeps_trim open' current ?_ ?_)
  · intro left now less same trims stands
    exact before left less (covered trims)
      ⟨numbered, trims.sublist.trans logged, now, stands, covers.congr same⟩
  · intro left names next less same trims sameCurrent open'
    have backs' : Backs left next history count less :=
      ⟨numbered, trims.sublist.trans logged, open', covers.congr same⟩
    exact Plan.keeps_pure (before left less (covered trims) backs'.rests)
      (result left names next less (covered trims) sameCurrent backs' same.snapshots)

theorem keeps_trim (serves : Serves files store history count records) {name : String}
    {during : Directory → Prop} {post : Directory → Store.Outcome (List String) → Prop}
    (current : ∀ log, store.backing = some ⟨log, false⟩ →
      log.manifest.currentSnapshot = some name)
    (before : ∀ left less, Trims count records less → Rests left history count less → during left)
    (result : ∀ left names next less, Trims count records less →
      Serves left next history count less → next.tables = store.tables →
        left.snapshots = files.snapshots → post left (.ok names, next)) :
    (store.trim name).Keeps during post files := by
  obtain ⟨log, backing, ready, backs⟩ := serves.exists_backs
  exact keeps_trim_of backs backing (current log backing) before
    fun left names next less trims same backs' snapshots =>
      result left names _ less trims (serves.of_backs ready same backs') rfl snapshots

end DocStore
