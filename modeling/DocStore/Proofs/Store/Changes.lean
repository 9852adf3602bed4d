import DocStore.Proofs.Plan
import DocStore.Proofs.Tables
import DocStore.Proofs.Transaction

namespace DocStore

namespace Store

variable {α β : Type}

/-- A write that failed left the tables as they were; one that succeeded made one commit, as long as
there are numbers for commits. -/
def Counted (before : Tables) (outcome : Outcome α) : Prop :=
  match outcome.1 with
  | .ok _ => before.commitSeq.toNat + 1 < 2 ^ 64 →
      outcome.2.tables.commitSeq.toNat = before.commitSeq.toNat + 1
  | .error _ => outcome.2.tables = before

theorem Counted.map {before : Tables} {outcome : Outcome α} (counted : Counted before outcome)
    (f : α → β) : Counted before (outcome.1.map f, outcome.2) := by
  obtain ⟨result, store⟩ := outcome
  cases result with
  | ok value => exact counted
  | error error => exact counted

end Store

end DocStore
