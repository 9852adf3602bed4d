import DocStore.Log.Record
import DocStore.Source
import DocStore.Proofs.Tables

namespace DocStore

/-- A source that may be committed: it passed the check, and it repeats no key. -/
structure Json.Storable (source : Json) : Prop where
  checked : source.checkSource = .ok ()
  settled : source.settled = source

instance (source : Json) : Decidable source.Storable :=
  decidable_of_iff (source.checkSource = .ok () ∧ source.settled = source)
    ⟨fun ⟨checked, settled⟩ => ⟨checked, settled⟩, fun ⟨checked, settled⟩ => ⟨checked, settled⟩⟩

namespace Mutation

/-- The source that a mutation stores may be committed. -/
def Storable : Mutation → Prop
  | .putDocument document => document.source.Storable
  | .putIndex _ | .deleteIndex _ | .deleteDocument _ => True

instance : (mutation : Mutation) → Decidable mutation.Storable
  | .putDocument document => inferInstanceAs (Decidable document.source.Storable)
  | .putIndex _ | .deleteIndex _ | .deleteDocument _ => .isTrue trivial

end Mutation

/-- Every commit of a history stores sources that may be committed. -/
def Log.Storable (history : List Log.Record) : Prop :=
  ∀ record ∈ history, ∀ mutation ∈ record.mutations, mutation.Storable

instance (history : List Log.Record) : Decidable (Log.Storable history) :=
  inferInstanceAs (Decidable (∀ record ∈ history, ∀ mutation ∈ record.mutations, _))

namespace Tables

/-- Every source in the tables may be committed. -/
def Storable (tables : Tables) : Prop :=
  ∀ key document, tables.documents.get? key = some document → document.source.Storable

theorem Storable.empty : Storable .empty := nofun

variable {tables : Tables}

theorem Storable.apply (storable : tables.Storable) {mutation : Mutation}
    (put : mutation.Storable) : (tables.apply mutation).Storable := by
  cases mutation with
  | putIndex index => exact storable
  | deleteIndex id =>
      exact fun key document stored => storable key document (get?_of_get?_deleteIndex stored)
  | putDocument added => exact SortedMap.forall_get?_insert storable put
  | deleteDocument other =>
      exact fun key document stored =>
        storable key document (SortedMap.get?_of_get?_erase stored)

theorem Storable.applyCommit (storable : tables.Storable) (seq : UInt64)
    {mutations : List Mutation} (put : ∀ mutation ∈ mutations, mutation.Storable) :
    (tables.applyCommit seq mutations).Storable := by
  have applied : (mutations.foldl Tables.apply tables).Storable := by
    induction mutations generalizing tables with
    | nil => exact storable
    | cons mutation rest ih =>
        obtain ⟨first, later⟩ := List.forall_mem_cons.mp put
        exact ih (storable.apply first) later
  exact applied

end Tables

end DocStore
