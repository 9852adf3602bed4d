import DocStore.Proofs.Store.Opening

namespace DocStore

open Log (Record Numbered)

theorem Log.Numbered.nodup_seq {first : Nat} {records : List Record}
    (numbered : Numbered first records) : (records.map Record.seq).Nodup := by
  refine List.pairwise_map.mpr (numbered.ascending.imp fun {a b} less same => ?_)
  rw [same] at less
  exact Nat.lt_irrefl _ less

namespace Queue

/-- A record that the log took, and whether its commit was acknowledged. -/
structure Entry where
  record : Record
  acknowledged : Bool

def kept (entries : List Entry) : List Record :=
  (entries.filter Entry.acknowledged).map Entry.record

def unacknowledged (entries : List Entry) : List Record :=
  (entries.filter fun entry => !entry.acknowledged).map Entry.record

/-- A record has the number after the acknowledged ones before it. -/
inductive Follows : Nat → List Entry → Prop where
  | nil (next : Nat) : Follows next []
  | cons {next : Nat} {entry : Entry} {rest : List Entry}
      (number : entry.record.seq.toNat = next)
      (later : Follows (next + entry.acknowledged.toNat) rest) : Follows next (entry :: rest)

variable {next : Nat} {entry : Entry} {entries rest : List Entry} {tables : Tables}

/-- Nothing was enqueued behind a record whose commit was not acknowledged. -/
def Orderly (entries : List Entry) : Prop :=
  entries.Pairwise fun earlier _ => earlier.acknowledged = true

/-- No acknowledged record is behind one that is not. -/
def AcknowledgedFirst (entries : List Entry) : Prop :=
  entries.Pairwise fun earlier later => later.acknowledged = true → earlier.acknowledged = true

theorem kept_append (entries rest : List Entry) :
    kept (entries ++ rest) = kept entries ++ kept rest := by
  rw [kept, List.filter_append, List.map_append]
  rfl

theorem kept_eq_nil (none : ∀ entry ∈ entries, entry.acknowledged = false) : kept entries = [] := by
  simpa [kept] using none

/-- Records at the end that are not acknowledged make no difference. -/
theorem acknowledgedFirst_append (none : ∀ entry ∈ rest, entry.acknowledged = false) :
    AcknowledgedFirst (entries ++ rest) ↔ AcknowledgedFirst entries := by
  rw [AcknowledgedFirst, AcknowledgedFirst, List.pairwise_append]
  refine ⟨And.left, fun first => ⟨first, ?_, ?_⟩⟩
  · exact List.pairwise_of_forall_mem_list fun _ _ later member => by simp [none later member]
  · exact fun _ _ later member => by simp [none later member]

namespace Follows

theorem of_append (follows : Follows next (entries ++ rest)) : Follows next entries := by
  induction entries generalizing next with
  | nil => exact .nil next
  | cons first entries ih =>
      cases follows with
      | cons number later => exact .cons number (ih later)

theorem snoc_iff :
    Follows next (entries ++ [entry]) ↔
      Follows next entries ∧ entry.record.seq.toNat = next + (kept entries).length := by
  induction entries generalizing next with
  | nil =>
      constructor
      · rintro (_ | ⟨number, -⟩)
        exact ⟨.nil _, number⟩
      · rintro ⟨-, number⟩
        exact .cons number (.nil _)
  | cons first rest ih =>
      have count : (kept (first :: rest)).length =
          first.acknowledged.toNat + (kept rest).length := by
        cases answer : first.acknowledged <;> simp [kept, answer, Nat.add_comm]
      rw [count, ← Nat.add_assoc]
      constructor
      · rintro (_ | ⟨number, later⟩)
        obtain ⟨before, last⟩ := ih.mp later
        exact ⟨.cons number before, last⟩
      · rintro ⟨_ | ⟨number, before⟩, last⟩
        exact .cons number (ih.mpr ⟨before, last⟩)

theorem numbered_kept (follows : Follows next entries) : Numbered next (kept entries) := by
  induction follows with
  | nil => exact .nil _
  | @cons next entry rest number _ ih =>
      cases answer : entry.acknowledged with
      | true =>
          rw [answer] at ih
          simpa [kept, answer] using Numbered.cons number ih
      | false =>
          rw [answer] at ih
          simpa [kept, answer] using ih

theorem lower (follows : Follows next entries) :
    ∀ entry ∈ entries, next ≤ entry.record.seq.toNat := by
  induction follows with
  | nil => exact nofun
  | cons number _ ih =>
      intro other member
      rcases List.mem_cons.mp member with rfl | member
      · exact Nat.le_of_eq number.symm
      · exact Nat.le_trans (Nat.le_add_right _ _) (ih other member)

/-- Numbers are used once exactly if nothing comes after a record that was not acknowledged. -/
theorem nodup_iff (follows : Follows next entries) :
    (entries.map fun entry => entry.record.seq).Nodup ↔ Orderly entries := by
  induction follows with
  | nil => simp [Orderly]
  | @cons next entry rest number later ih =>
      rw [List.map_cons, List.nodup_cons, Orderly, List.pairwise_cons, ih]
      refine and_congr_left fun _ => ?_
      cases answer : entry.acknowledged with
      | true =>
          refine iff_of_true ?_ fun _ _ => rfl
          intro again
          obtain ⟨other, member, same⟩ := List.mem_map.mp again
          have above := later.lower other member
          rw [answer, same, number] at above
          exact Nat.not_succ_le_self _ above
      | false =>
          rw [answer] at later
          cases later with
          | nil => simp
          | @cons _ second _ number' _ =>
              -- The next record has the number that was not taken.
              have again : second.record.seq = entry.record.seq := by
                rw [← UInt64.toNat_inj, number', number]
                rfl
              refine iff_of_false (fun absent => absent (List.mem_map.mpr ?_)) fun all => ?_
              · exact ⟨second, List.mem_cons_self, again⟩
              · exact Bool.noConfusion (all second List.mem_cons_self)

end Follows

/-- Recovery from these tables applies every acknowledged record when it comes to it. -/
def SkipsNone (tables : Tables) : List Entry → Prop
  | [] => True
  | entry :: rest =>
      (entry.acknowledged = true → ¬ entry.record.seq ≤ tables.commitSeq) ∧
        SkipsNone (tables.catchUp entry.record) rest

namespace Follows

/-- The first record of a number is applied. -/
theorem catchUp_free {record : Record} (number : record.seq.toNat = next)
    (free : tables.commitSeq.toNat + 1 = next) :
    tables.catchUp record = tables.applyCommit record.seq record.mutations ∧
      (tables.catchUp record).commitSeq.toNat = next := by
  refine ⟨if_neg ?_, ?_⟩
  · rw [UInt64.le_iff_toNat_le]
    omega
  · rw [Tables.commitSeq_catchUp]
    omega

/-- A further record of the same number is skipped. -/
theorem catchUp_taken {record : Record} (number : record.seq.toNat = next)
    (taken : tables.commitSeq.toNat = next) : tables.catchUp record = tables := by
  refine if_pos ?_
  rw [UInt64.le_iff_toNat_le]
  omega

theorem skipsNone_taken (follows : Follows next entries) (taken : tables.commitSeq.toNat = next) :
    SkipsNone tables entries ↔ ∀ entry ∈ entries, entry.acknowledged = false := by
  induction follows with
  | nil => simp [SkipsNone]
  | @cons next entry rest number later ih =>
      have skipped : entry.record.seq ≤ tables.commitSeq := by
        rw [UInt64.le_iff_toNat_le]
        omega
      rw [SkipsNone, catchUp_taken number taken]
      cases answer : entry.acknowledged with
      | true => simp [answer, skipped]
      | false =>
          rw [answer] at ih
          simp [answer, ih taken]

theorem skipsNone_iff (follows : Follows next entries) (free : tables.commitSeq.toNat + 1 = next) :
    SkipsNone tables entries ↔ AcknowledgedFirst entries := by
  induction follows generalizing tables with
  | nil => simp [SkipsNone, AcknowledgedFirst]
  | @cons next entry rest number later ih =>
      obtain ⟨-, commitSeq⟩ := catchUp_free number free
      have applied : ¬ entry.record.seq ≤ tables.commitSeq := by
        rw [UInt64.le_iff_toNat_le]
        omega
      rw [SkipsNone, AcknowledgedFirst, List.pairwise_cons]
      cases answer : entry.acknowledged with
      | true =>
          rw [answer] at ih
          rw [ih (by rw [commitSeq]; rfl)]
          simp [applied, AcknowledgedFirst]
      | false =>
          rw [answer] at later
          rw [later.skipsNone_taken commitSeq]
          constructor
          · rintro ⟨-, refused⟩
            refine ⟨fun other member => by simp [refused other member], ?_⟩
            exact List.pairwise_of_forall_mem_list fun _ _ other member => by
              simp [refused other member]
          · rintro ⟨refused, -⟩
            refine ⟨nofun, fun other member => ?_⟩
            simpa using refused other member

theorem foldl_taken (follows : Follows next entries) (taken : tables.commitSeq.toNat = next)
    (refused : ∀ entry ∈ entries, entry.acknowledged = false) :
    (entries.map Entry.record).foldl Tables.catchUp tables = tables := by
  induction follows with
  | nil => rfl
  | @cons next entry rest number later ih =>
      rw [refused entry List.mem_cons_self] at ih
      rw [List.map_cons, List.foldl_cons, catchUp_taken number taken]
      exact ih taken fun other member => refused other (List.mem_cons_of_mem _ member)

/-- Of the records that were not acknowledged recovery applies the first, if no acknowledged one is
behind it. -/
theorem foldl_catchUp (follows : Follows next entries) (free : tables.commitSeq.toNat + 1 = next)
    (first : AcknowledgedFirst entries) :
    (entries.map Entry.record).foldl Tables.catchUp tables =
      (tables.replay (kept entries)).replay ((unacknowledged entries).take 1) := by
  induction follows generalizing tables with
  | nil => rfl
  | @cons next entry rest number later ih =>
      obtain ⟨applied, commitSeq⟩ := catchUp_free number free
      obtain ⟨before, rest'⟩ := List.pairwise_cons.mp first
      rw [List.map_cons, List.foldl_cons]
      cases answer : entry.acknowledged with
      | true =>
          rw [answer] at ih
          rw [ih (by rw [commitSeq]; rfl) rest', applied]
          simp [kept, unacknowledged, answer, Tables.replay]
      | false =>
          have none : ∀ other ∈ rest, other.acknowledged = false := fun other member => by
            simpa [answer] using before other member
          rw [answer] at later
          rw [later.foldl_taken commitSeq none, applied]
          have nothing : rest.filter Entry.acknowledged = [] := by simpa using none
          simp [kept, unacknowledged, answer, nothing, Tables.replay]

end Follows

end Queue

end DocStore
