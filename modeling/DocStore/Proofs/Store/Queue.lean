import DocStore.Proofs.Log.Batches
import DocStore.Proofs.Store.Enqueued
import DocStore.Proofs.Store.Past
import Mathlib.Logic.Relation
/-!
Clients that give up.

A commit hands its record to the worker of the log and waits.  When its client
gives up the lock is released, but the record stays in the queue, and the next
commit has the same number.  So numbers are used once exactly if nothing was
enqueued behind an abandoned record, and what was acknowledged is recovered exactly
if no acknowledged record is behind an abandoned one (`queued_recovers_iff`).
-/

namespace DocStore

open Log (Record Numbered Spare)

/-- Who holds the lock of a store: nobody, a client that stages changes, or one that waits until its
record is written. -/
inductive Holder where
  | nobody
  | staging (transaction : Transaction)
  | waiting (transaction : Transaction) (record : Record)

/-- The record that a client waits for. -/
def Holder.entries : Holder → List Queue.Entry
  | .nobody | .staging _ => []
  | .waiting _ record => [⟨record, false⟩]

/-- A client that holds the lock works on the tables of the store. -/
inductive Holder.Begun (tables : Tables) : Holder → Prop where
  | nobody : Begun tables .nobody
  | staging {transaction : Transaction} (begun : transaction.tables = tables) :
      Begun tables (.staging transaction)
  | waiting {transaction : Transaction} (begun : transaction.tables = tables)
      (changes : transaction.mutations ≠ []) (now : Int64) :
      Begun tables (.waiting transaction (transaction.record now))

/-- An open store, with the commits from before it was opened, the records of the commits that have
ended since, and how many records the worker has written. -/
structure Queue where
  files : Directory
  log : Log.Writer
  tables : Tables
  history : List Record
  settled : List Queue.Entry
  holder : Holder
  written : Nat

namespace Queue

/-- All records that were enqueued; that of the client that waits is the last. -/
def entries (queue : Queue) : List Entry := queue.settled ++ queue.holder.entries

def records (queue : Queue) : List Record := queue.entries.map Entry.record

/-- The records that wait for the worker. -/
def pending (queue : Queue) : List Record := queue.records.drop queue.written

/-- A step of a client or of the worker.  The worker takes any number of records into a batch.  A
client commits when it hears that its record was written; it may give up before.  Numbers for
segments do not run out. -/
inductive Next : Queue → Queue → Prop where
  | opens {queue : Queue} {transaction : Transaction} (free : queue.holder = .nobody)
      (begun : transaction.tables = queue.tables) :
      Next queue { queue with holder := .staging transaction }
  | discards {queue : Queue} {transaction : Transaction}
      (staging : queue.holder = .staging transaction) :
      Next queue { queue with holder := .nobody }
  | enqueues {queue : Queue} {transaction : Transaction} {now : Int64}
      (staging : queue.holder = .staging transaction) (changes : transaction.mutations ≠ [])
      (legible : (transaction.record now).Legible)
      (few : queue.history.length + queue.settled.length + 1 < 2 ^ 64) :
      Next queue
        { queue with
          log := queue.log.counting (transaction.record now)
          holder := .waiting transaction (transaction.record now) }
  | writes {queue : Queue} {count : Nat} {left : Directory} {log : Log.Writer}
      (nonempty : 0 < count) (within : count ≤ queue.pending.length)
      (run : (queue.log.writeBatch ((queue.pending.take count).map fun record =>
          (record.seq, record.encode))).run Plan.noFault queue.files = (left, .ok (), log)) :
      Next queue { queue with files := left, log, written := queue.written + count }
  | finishes {queue : Queue} {transaction : Transaction} {record : Record}
      (waiting : queue.holder = .waiting transaction record) (told : queue.pending = []) :
      Next queue
        { queue with
          tables := transaction.apply
          settled := queue.settled ++ [⟨record, true⟩]
          holder := .nobody }
  | givesUp {queue : Queue} {transaction : Transaction} {record : Record}
      (waiting : queue.holder = .waiting transaction record) :
      Next queue
        { queue with
          settled := queue.settled ++ [⟨record, false⟩]
          holder := .nobody }

inductive Reached : Queue → Prop where
  | start {files : Directory} {store : Store} {log : Log.Writer} {history : List Record}
      (past : World.Past ⟨files, some store, store.tables, none⟩ history)
      (backing : store.backing = some ⟨log, false⟩) :
      Reached ⟨files, log, store.tables, history, [], .nobody, 0⟩
  | next {queue after : Queue} (reached : Reached queue) (next : Next queue after) :
      Reached after

variable {queue after : Queue} {transaction : Transaction} {record : Record}

/-- The log has the records that were written behind those of before, and each of them has the
number after the commits that were acknowledged. -/
structure Sound (queue : Queue) : Prop where
  numbered : Numbered 1 queue.history
  tables : queue.tables = .after (queue.history ++ kept queue.settled)
  follows : Follows (queue.history.length + 1) queue.entries
  begun : queue.holder.Begun queue.tables
  unanswered : ∀ entry ∈ queue.entries.drop queue.written, entry.acknowledged = false
  written : queue.written ≤ queue.records.length
  legible : ∀ record ∈ queue.records, record.Legible
  few : queue.history.length + queue.records.length < 2 ^ 64
  log : ∀ count, queue.history.length + queue.written + count < 2 ^ 64 →
    Spare queue.files queue.log.manifest count
  recovered : recover queue.files =
    .ok ((queue.records.take queue.written).foldl Tables.catchUp (.after queue.history))
  logged : ∃ before, (before.map Record.seq).Nodup ∧
    (∀ record ∈ before, record.seq.toNat ≤ queue.history.length) ∧
      queue.files.logged = before ++ queue.records.take queue.written

namespace Sound

theorem start {files : Directory} {store : Store} {log : Log.Writer} {history : List Record}
    (serves : Session.Serves ⟨files, store⟩ history) (backing : store.backing = some ⟨log, false⟩) :
    Sound ⟨files, log, store.tables, history, [], .nobody, 0⟩ := by
  obtain ⟨count, records, nothingLost, serves⟩ := serves
  obtain ⟨_, same, ready, backs⟩ := serves.exists_backs
  cases backing.symm.trans same
  have distinct := backs.numbered.nodup_seq.sublist (backs.logged.map Record.seq)
  have logged : files.logged = records ++ [] := by
    rw [serves.rests.logged_eq, List.append_nil]
  exact
    { numbered := backs.numbered
      tables := serves.tables.trans (by rw [kept, List.filter_nil, List.map_nil, List.append_nil])
      follows := .nil _
      begun := .nobody
      unanswered := nofun
      written := Nat.le_refl _
      legible := nofun
      few := Nat.lt_of_le_of_lt (Nat.le_of_eq serves.commitSeq.symm) store.tables.commitSeq.toNat_lt
      log := fun _ few => ready.spare few
      recovered := serves.rests.recover nothingLost
      logged := ⟨records, distinct, ready.holds.numbered, logged⟩ }

/-- A step that writes nothing and enqueues nothing. -/
theorem settle (sound : queue.Sound) {tables : Tables} {settled : List Entry} {holder : Holder}
    (same : (settled ++ holder.entries).map Entry.record = queue.records)
    (tables' : tables = .after (queue.history ++ kept settled))
    (follows : Follows (queue.history.length + 1) (settled ++ holder.entries))
    (begun : holder.Begun tables)
    (unanswered : ∀ entry ∈ (settled ++ holder.entries).drop queue.written,
      entry.acknowledged = false) :
    Sound { queue with tables, settled, holder } :=
  { numbered := sound.numbered
    tables := tables'
    follows
    begun
    unanswered
    written := (congrArg List.length same).symm ▸ sound.written
    legible := fun record member => sound.legible record (same ▸ member)
    few := (congrArg List.length same).symm ▸ sound.few
    log := sound.log
    recovered := by rw [records, entries, same]; exact sound.recovered
    logged := by rw [records, entries, same]; exact sound.logged }

/-- The record of the next commit has the number after the commits that were acknowledged. -/
theorem seq_record (sound : queue.Sound) (begun : transaction.tables = queue.tables)
    (follows : Follows (queue.history.length + 1) queue.settled)
    (few : queue.history.length + queue.settled.length + 1 < 2 ^ 64) (now : Int64) :
    (transaction.record now).seq.toNat =
      queue.history.length + 1 + (kept queue.settled).length := by
  have answered : (kept queue.settled).length ≤ queue.settled.length := by
    rw [kept, List.length_map]
    exact List.length_filter_le _ _
  have all : Numbered 1 (queue.history ++ kept queue.settled) :=
    sound.numbered.append (Nat.add_comm _ 1 ▸ follows.numbered_kept)
  have commitSeq : transaction.tables.commitSeq.toNat =
      queue.history.length + (kept queue.settled).length := by
    rw [begun, sound.tables, Tables.commitSeq_after all, List.length_append]
  rw [Transaction.seq_record (by omega), commitSeq]
  omega

theorem enqueue (sound : queue.Sound) (staging : queue.holder = .staging transaction)
    (changes : transaction.mutations ≠ []) {now : Int64}
    (legible : (transaction.record now).Legible)
    (few : queue.history.length + queue.settled.length + 1 < 2 ^ 64) :
    Sound { queue with
      log := queue.log.counting (transaction.record now)
      holder := .waiting transaction (transaction.record now) } := by
  have before : queue.entries = queue.settled := by rw [entries, staging]; exact List.append_nil _
  have begun := sound.begun
  rw [staging] at begun
  cases begun with | staging begun
  have follows := sound.follows
  rw [before] at follows
  have grown : (queue.settled ++ [(⟨transaction.record now, false⟩ : Entry)]).map Entry.record =
      queue.records ++ [transaction.record now] := by
    rw [records, before, List.map_append, List.map_singleton]
  have taken : (queue.records ++ [transaction.record now]).take queue.written =
      queue.records.take queue.written := List.take_append_of_le_length sound.written
  have within := sound.written
  refine
    { numbered := sound.numbered
      tables := sound.tables
      follows := Follows.snoc_iff.mpr ⟨follows, sound.seq_record begun follows few now⟩
      begun := .waiting begun changes now
      unanswered := ?_
      written := ?_
      legible := ?_
      few := ?_
      log := sound.log
      recovered := ?_
      logged := ?_ }
  · have unanswered := sound.unanswered
    rw [before] at unanswered
    rw [records, before, List.length_map] at within
    intro entry member
    rw [entries, List.drop_append_of_le_length within] at member
    rcases List.mem_append.mp member with old | new
    · exact unanswered entry old
    · rw [List.mem_singleton.mp new]
  · rw [records, entries, Holder.entries, grown, List.length_append]
    exact Nat.le_add_right_of_le within
  · rw [records, entries, Holder.entries, grown]
    intro other member
    rcases List.mem_append.mp member with old | new
    · exact sound.legible other old
    · exact List.mem_singleton.mp new ▸ legible
  · rw [records, entries, Holder.entries, List.length_map, List.length_append]
    exact few
  · rw [records, entries, Holder.entries, grown, taken]
    exact sound.recovered
  · rw [records, entries, Holder.entries, grown, taken]
    exact sound.logged

theorem legible_take_pending (sound : queue.Sound) (count : Nat) :
    ∀ record ∈ queue.pending.take count, record.Legible := fun record member =>
  sound.legible record (List.mem_of_mem_drop (List.mem_of_mem_take member))

/-- The worker can write what is pending. -/
theorem run_write (sound : queue.Sound) (count : Nat) (nonempty : 0 < count)
    (within : count ≤ queue.pending.length) :
    ∃ left log, (queue.log.writeBatch ((queue.pending.take count).map fun record =>
      (record.seq, record.encode))).run Plan.noFault queue.files = (left, .ok (), log) := by
  have length : queue.pending.length = queue.records.length - queue.written := List.length_drop
  have room : queue.history.length + queue.written + (0 + 1) < 2 ^ 64 := by
    have := sound.few
    omega
  have keeps : (queue.log.writeBatch ((queue.pending.take count).map fun record =>
      (record.seq, record.encode))).Keeps (fun _ => True) (fun _ result => result.1 = .ok ())
        queue.files :=
    (sound.log 1 room).keeps_writeBatch (sound.legible_take_pending count) fun _ _ _ _ => rfl
  obtain ⟨left, ⟨_, log⟩, run, rfl⟩ := keeps.exists_run
  exact ⟨left, log, run⟩

section Writing

variable {count : Nat} {left : Directory} {log : Log.Writer}
  (run : (queue.log.writeBatch ((queue.pending.take count).map fun record =>
    (record.seq, record.encode))).run Plan.noFault queue.files = (left, .ok (), log))
include run

/-- A batch is written behind what the log has, with room for the segments that are left. -/
theorem extends_write (sound : queue.Sound) {more : Nat}
    (room : queue.history.length + queue.written + (more + 1) < 2 ^ 64) :
    Spare left log.manifest more ∧
      Log.Extends queue.files queue.log.manifest (queue.pending.take count) left log.manifest := by
  have keeps : (queue.log.writeBatch ((queue.pending.take count).map fun record =>
      (record.seq, record.encode))).Keeps (fun _ => True) (fun left result =>
        Spare left result.2.manifest more ∧
          Log.Extends queue.files queue.log.manifest (queue.pending.take count) left
            result.2.manifest) queue.files :=
    (sound.log (more + 1) room).keeps_writeBatch (sound.legible_take_pending count)
      fun left next spare extended => ⟨spare, extended⟩
  have result := keeps.run
  rwa [run] at result

theorem write (sound : queue.Sound) (nonempty : 0 < count)
    (within : count ≤ queue.pending.length) :
    Sound { queue with files := left, log, written := queue.written + count } := by
  have length : queue.pending.length = queue.records.length - queue.written := List.length_drop
  have inQueue := sound.written
  have few := sound.few
  have room : queue.history.length + queue.written + (0 + 1) < 2 ^ 64 := by omega
  obtain ⟨spare, extended⟩ := sound.extends_write run room
  have read := Log.readManifest_of_written (sound.log 0 (by omega)).continues.opened.written
  have readLeft := Log.readManifest_of_written spare.continues.opened.written
  have taken : queue.records.take (queue.written + count) =
      queue.records.take queue.written ++ queue.pending.take count := List.take_add
  obtain ⟨before, distinct, older, logged⟩ := sound.logged
  refine
    { numbered := sound.numbered
      tables := sound.tables
      follows := sound.follows
      begun := sound.begun
      unanswered := fun entry member => ?_
      written := ?_
      legible := sound.legible
      few
      log := fun more room => (sound.extends_write run ?_).1
      recovered := ?_
      logged := ⟨before, distinct, older, ?_⟩ }
  · rw [← List.drop_drop] at member
    exact sound.unanswered entry (List.mem_of_mem_drop member)
  · change queue.written + count ≤ queue.records.length
    omega
  · change queue.history.length + (queue.written + count) + more < 2 ^ 64 at room
    omega
  · change recover left = .ok ((queue.records.take (queue.written + count)).foldl _ _)
    have extended' : Log.Extends queue.files ((some queue.log.manifest).getD .blank)
        (queue.pending.take count) left log.manifest := extended
    rw [taken, List.foldl_append]
    exact extended'.recover read spare.continues.opened.written sound.recovered
  · change left.logged = before ++ queue.records.take (queue.written + count)
    rw [Directory.logged, Log.replay_of_read read] at logged
    rw [Directory.logged, Log.replay_of_read readLeft, taken, ← List.append_assoc, ← logged]
    exact extended.replayed

end Writing

/-- A client hears that its record was written, and commits. -/
theorem finish (sound : queue.Sound) (waiting : queue.holder = .waiting transaction record)
    (told : queue.pending = []) :
    Sound { queue with
      tables := transaction.apply
      settled := queue.settled ++ [⟨record, true⟩]
      holder := .nobody } := by
  have before : queue.entries = queue.settled ++ [⟨record, false⟩] := by rw [entries, waiting]; rfl
  have begun := sound.begun
  rw [waiting] at begun
  cases begun with | waiting begun changes now
  have follows := sound.follows
  rw [before] at follows
  refine sound.settle ?_ ?_ ?_ .nobody ?_
  · rw [records, before]
    simp [Holder.entries]
  · have answered : kept (queue.settled ++ [⟨transaction.record now, true⟩]) =
        kept queue.settled ++ [transaction.record now] := by simp [kept]
    rw [answered, ← List.append_assoc]
    exact Transaction.apply_eq_after (begun.trans sound.tables) changes now
  · rw [Holder.entries, List.append_nil]
    obtain ⟨settled, number⟩ := Follows.snoc_iff.mp follows
    exact Follows.snoc_iff.mpr ⟨settled, number⟩
  · have all := List.drop_eq_nil_iff.mp told
    rw [records, before, List.map_append, List.length_append, List.length_map] at all
    rw [Holder.entries, List.append_nil, List.drop_eq_nil_of_le (by simpa using all)]
    exact fun entry member => absurd member List.not_mem_nil

theorem giveUp (sound : queue.Sound) (waiting : queue.holder = .waiting transaction record) :
    Sound { queue with
      settled := queue.settled ++ [⟨record, false⟩]
      holder := .nobody } := by
  have same : queue.settled ++ [⟨record, false⟩] ++ Holder.nobody.entries = queue.entries := by
    rw [entries, waiting]
    exact List.append_nil _
  refine sound.settle (congrArg _ same) ?_ (same ▸ sound.follows) .nobody (same ▸ sound.unanswered)
  rw [sound.tables]
  simp [kept]

/-- The lock is taken or released without a commit. -/
theorem hold (sound : queue.Sound) {holder : Holder} (idle : queue.holder.entries = [])
    (begun : holder.Begun queue.tables) (idle' : holder.entries = []) :
    Sound { queue with holder } := by
  have same : queue.settled ++ holder.entries = queue.entries := by rw [entries, idle, idle']
  exact sound.settle (congrArg _ same) sound.tables (same ▸ sound.follows) begun
    (same ▸ sound.unanswered)

theorem next (sound : queue.Sound) (next : Next queue after) : after.Sound := by
  cases next with
  | opens free begun => exact sound.hold (free ▸ rfl) (.staging begun) rfl
  | discards staging => exact sound.hold (staging ▸ rfl) .nobody rfl
  | enqueues staging changes legible few => exact sound.enqueue staging changes legible few
  | writes nonempty within run => exact sound.write run nonempty within
  | finishes waiting told => exact sound.finish waiting told
  | givesUp waiting => exact sound.giveUp waiting

end Sound

theorem Reached.sound (reached : queue.Reached) : queue.Sound := by
  induction reached with
  | start past backing =>
      cases past.remembers with
      | opened serves => exact .start serves backing
  | next _ next ih => exact ih.next next

/-- A commit of the store that nobody interrupts is made of these steps. -/
theorem Reached.commit_steps (reached : queue.Reached) (free : queue.holder = .nobody)
    (idle : queue.pending = []) (begun : transaction.tables = queue.tables)
    (changes : transaction.mutations ≠ []) {now : Int64}
    (legible : (transaction.record now).Legible)
    (few : queue.history.length + queue.settled.length + 1 < 2 ^ 64) {left : Directory}
    {seq : UInt64} {store : Store}
    (run : (Store.commit ⟨queue.tables, some ⟨queue.log, false⟩⟩ now transaction).run Plan.noFault
      queue.files = (left, .ok seq, store)) :
    ∃ log, store = ⟨transaction.apply, some ⟨log, false⟩⟩ ∧
      Relation.ReflTransGen Next queue
        { queue with
          files := left
          log
          tables := transaction.apply
          settled := queue.settled ++ [⟨transaction.record now, true⟩]
          holder := .nobody
          written := queue.written + 1 } := by
  have before : queue.entries = queue.settled := by rw [entries, free]; exact List.append_nil _
  have all : queue.settled.length = queue.written := by
    have within := reached.sound.written
    have nothing := List.drop_eq_nil_iff.mp idle
    rw [records, before, List.length_map] at within nothing
    omega
  have asked : Relation.ReflTransGen Next queue { queue with
      log := queue.log.counting (transaction.record now)
      holder := .waiting transaction (transaction.record now) } :=
    .tail (.single (.opens free begun)) (.enqueues rfl changes legible few)
  have pending : pending { queue with
      log := queue.log.counting (transaction.record now)
      holder := .waiting transaction (transaction.record now) } = [transaction.record now] := by
    rw [Queue.pending, records, entries, Holder.entries, List.map_append, List.map_singleton,
      ← all, List.drop_left' (List.length_map _)]
  have record : (⟨transaction.nextSeq, now, transaction.mutations⟩ : Record) =
      transaction.record now := rfl
  rw [Store.commit, if_neg (by simpa using changes)] at run
  simp only [Bool.false_eq_true, if_false, record, Log.appendOne_eq, Plan.run_bind] at run
  generalize wrote : ((queue.log.counting (transaction.record now)).writeBatch
    [((transaction.record now).seq, (transaction.record now).encode)]).run Plan.noFault
      queue.files = result at run
  obtain ⟨left', outcome, log⟩ := result
  cases outcome with
  | error error => cases run
  | ok =>
      cases run
      have written := asked.tail
        (.writes Nat.one_pos (by rw [pending]; rfl) (by rw [pending]; exact wrote))
      refine ⟨log, rfl, written.tail (.finishes rfl ?_)⟩
      rw [Queue.pending, ← List.drop_drop]
      exact congrArg (List.drop 1) pending

/-- Every acknowledged commit is written, and recovery applies it. -/
structure Durable (queue : Queue) : Prop where
  written : ∀ entry ∈ queue.entries.drop queue.written, entry.acknowledged = false
  applied : SkipsNone (.after queue.history) (queue.entries.take queue.written)

namespace Sound

theorem free (sound : queue.Sound) :
    (Tables.after queue.history).commitSeq.toNat + 1 = queue.history.length + 1 := by
  rw [Tables.commitSeq_after sound.numbered]

theorem follows_written (sound : queue.Sound) :
    Follows (queue.history.length + 1) (queue.entries.take queue.written) := by
  have follows := sound.follows
  rw [← List.take_append_drop queue.written queue.entries] at follows
  exact follows.of_append

theorem acknowledgedFirst_written (sound : queue.Sound) :
    AcknowledgedFirst (queue.entries.take queue.written) ↔ AcknowledgedFirst queue.entries := by
  rw [← acknowledgedFirst_append sound.unanswered, List.take_append_drop]

theorem nodup_iff (sound : queue.Sound) :
    ((queue.files.logged ++ queue.pending).map Record.seq).Nodup ↔ Orderly queue.entries := by
  obtain ⟨before, distinct, older, logged⟩ := sound.logged
  have seqs : queue.records.map Record.seq = queue.entries.map fun entry => entry.record.seq := by
    rw [records, List.map_map]
    rfl
  rw [logged, pending, List.append_assoc, List.take_append_drop, List.map_append, seqs,
    List.nodup_append, sound.follows.nodup_iff]
  refine ⟨fun all => all.2.1, fun orderly => ⟨distinct, orderly, ?_⟩⟩
  intro old inBefore new inQueue same
  obtain ⟨record, member, rfl⟩ := List.mem_map.mp inBefore
  obtain ⟨entry, member', rfl⟩ := List.mem_map.mp inQueue
  have below := older record member
  have above := sound.follows.lower entry member'
  rw [same] at below
  omega

theorem durable_iff (sound : queue.Sound) : queue.Durable ↔ AcknowledgedFirst queue.entries := by
  rw [← sound.acknowledgedFirst_written, ← sound.follows_written.skipsNone_iff sound.free]
  exact ⟨Durable.applied, fun applied => ⟨sound.unanswered, applied⟩⟩

/-- Recovery gives the tables of the store, and the first record on top that was written and not
acknowledged. -/
theorem recover (sound : queue.Sound) (first : AcknowledgedFirst queue.entries) :
    DocStore.recover queue.files =
      .ok (queue.tables.replay
        ((unacknowledged (queue.entries.take queue.written)).take 1)) := by
  have all : kept (queue.entries.take queue.written) = kept queue.settled := by
    have waiting : kept queue.holder.entries = [] := by cases queue.holder <;> rfl
    have both := kept_append (queue.entries.take queue.written) (queue.entries.drop queue.written)
    rw [List.take_append_drop, kept_eq_nil sound.unanswered, List.append_nil, entries, kept_append,
      waiting, List.append_nil] at both
    exact both.symm
  have tables : queue.tables = (Tables.after queue.history).replay (kept queue.settled) := by
    rw [sound.tables, Tables.after, Tables.replay_append]
    rfl
  rw [sound.recovered, records, ← List.map_take, tables, ← all]
  exact congrArg Except.ok (sound.follows_written.foldl_catchUp sound.free
    (sound.acknowledgedFirst_written.mpr first))

theorem openIn (sound : queue.Sound) (options : Log.Options) :
    ∃ next, Session.openIn queue.files options = .ok next ∧
      DocStore.recover queue.files = .ok next.store.tables := by
  have room : queue.history.length + queue.written + 0 < 2 ^ 64 := by
    have := sound.few
    have := sound.written
    omega
  have continues := (sound.log 0 room).continues
  have named := continues.named
  obtain ⟨next, opened, tables⟩ := Session.exists_openIn sound.recovered
    (Log.readManifest_of_written continues.opened.written)
    (by rwa [Option.getD_some, named.resumed_eq]) options
  exact ⟨next, opened, tables ▸ sound.recovered⟩

end Sound

end Queue

/-- The tables have the commits that were acknowledged.  Recovery applies the records that were
written and skips those whose number it has.  The numbers in the log and in the queue are different
exactly if nothing was enqueued behind a record that was not acknowledged, and recovery applies
every acknowledged commit exactly if none is behind such a record.  Then it gives the tables of the
store, with at most one commit on top of them that was not acknowledged.  Reopening gives what is
recovered. -/
theorem queued_recovers_iff {queue : Queue} (reached : queue.Reached) :
    queue.tables = .after (queue.history ++ Queue.kept queue.settled) ∧
      recover queue.files =
        .ok ((queue.records.take queue.written).foldl Tables.catchUp (.after queue.history)) ∧
      (((queue.files.logged ++ queue.pending).map Record.seq).Nodup ↔
        Queue.Orderly queue.entries) ∧
      (queue.Durable ↔ Queue.AcknowledgedFirst queue.entries) ∧
      (Queue.AcknowledgedFirst queue.entries → recover queue.files =
        .ok (queue.tables.replay
          ((Queue.unacknowledged (queue.entries.take queue.written)).take 1))) ∧
      ∀ options, ∃ next, Session.openIn queue.files options = .ok next ∧
        recover queue.files = .ok next.store.tables :=
  have sound := reached.sound
  ⟨sound.tables, sound.recovered, sound.nodup_iff, sound.durable_iff, sound.recover, sound.openIn⟩

namespace Queue

theorem exists_new : ∃ files log, Reached ⟨files, log, .empty, [], [], .nobody, 0⟩ := by
  have past := World.Past.ofSession openIn_newSession
  obtain ⟨log, backing⟩ : ∃ log, newSession.store.backing = some ⟨log, false⟩ := ⟨_, rfl⟩
  have start := Reached.start past backing
  have tables : newSession.store.tables = .empty := start.sound.tables
  exact ⟨newSession.files, log, tables ▸ start⟩

theorem Reached.asks {queue : Queue} (reached : queue.Reached) (free : queue.holder = .nobody)
    (transaction : Transaction) (begun : transaction.tables = queue.tables)
    (changes : transaction.mutations ≠ []) (now : Int64)
    (legible : (transaction.record now).Legible)
    (few : queue.history.length + queue.settled.length + 1 < 2 ^ 64) :
    Reached { queue with
      log := queue.log.counting (transaction.record now)
      holder := .waiting transaction (transaction.record now) } :=
  (reached.next (.opens free begun)).next (.enqueues rfl changes legible few)

end Queue

/-- A client gives up, and its record is written all the same. -/
theorem abandonedFilms_recovers :
    ∃ queue : Queue, queue.Reached ∧
      queue.entries = [⟨createBooks.record 1, true⟩,
        ⟨(createFilms createBooks.apply).record 2, false⟩] ∧
      ((queue.files.logged ++ queue.pending).map Record.seq).Nodup ∧ queue.Durable ∧
        recover queue.files =
          .ok (queue.tables.replay [(createFilms createBooks.apply).record 2]) := by
  obtain ⟨files, log, new⟩ := Queue.exists_new
  have asked := new.asks rfl createBooks rfl (by decide) 1 (by decide +kernel) (by simp)
  obtain ⟨left, log', run⟩ := asked.sound.run_write 1 Nat.one_pos (Nat.le_refl _)
  have books := (asked.next (.writes Nat.one_pos (Nat.le_refl _) run)).next (.finishes rfl rfl)
  have asked' := books.asks rfl (createFilms createBooks.apply) rfl (by decide +kernel) 2
    (by decide +kernel) (by simp)
  have films := asked'.next (.givesUp rfl)
  obtain ⟨left', log'', run'⟩ := films.sound.run_write 1 Nat.one_pos (Nat.le_refl _)
  have written := films.next (.writes Nat.one_pos (Nat.le_refl _) run')
  obtain ⟨-, -, unique, durable, recovers, -⟩ := queued_recovers_iff written
  refine ⟨_, written, rfl, unique.mpr ?_, durable.mpr ?_, recovers ?_⟩
  all_goals simp [Queue.Orderly, Queue.AcknowledgedFirst, Queue.entries, Holder.entries]

/-- The record of a client that gave up is written before the next one, and that commit is
acknowledged and not recovered. -/
theorem abandonedBooks_loses :
    ∃ queue : Queue, queue.Reached ∧
      queue.entries = [⟨createBooks.record 1, false⟩, ⟨(createFilms .empty).record 2, true⟩] ∧
      ¬ ((queue.files.logged ++ queue.pending).map Record.seq).Nodup ∧ ¬ queue.Durable ∧
        recover queue.files = .ok (.after [createBooks.record 1]) := by
  obtain ⟨files, log, new⟩ := Queue.exists_new
  have asked := new.asks rfl createBooks rfl (by decide) 1 (by decide +kernel) (by simp)
  have books := asked.next (.givesUp rfl)
  have asked' := books.asks rfl (createFilms .empty) rfl (by decide) 2 (by decide +kernel)
    (by simp)
  obtain ⟨left, log', run⟩ := asked'.sound.run_write 2 Nat.two_pos (Nat.le_refl _)
  have films := (asked'.next (.writes Nat.two_pos (Nat.le_refl _) run)).next (.finishes rfl rfl)
  have sound := films.sound
  refine ⟨_, films, rfl, mt sound.nodup_iff.mp ?_, mt sound.durable_iff.mp ?_, ?_⟩
  · simp [Queue.Orderly, Queue.entries, Holder.entries]
  · simp [Queue.AcknowledgedFirst, Queue.entries, Holder.entries]
  · have skipped : [createBooks.record 1, (createFilms .empty).record 2].foldl Tables.catchUp
        (.after []) = .after [createBooks.record 1] := by decide +kernel
    exact sound.recovered.trans (congrArg Except.ok skipped)

end DocStore
