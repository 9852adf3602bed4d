import DocStore.Json
import Mathlib.Data.List.Nodup

namespace DocStore.Json

variable {key : String} {value : Json} {seen members : List (String × Json)}

theorem putMember_new (new : key ∉ seen.map Prod.fst) :
    putMember key value seen = seen ++ [(key, value)] := by
  induction seen with
  | nil => rfl
  | cons member rest ih =>
      simp only [List.map_cons, List.mem_cons, not_or] at new
      rw [putMember, if_neg (Ne.symm new.1), ih new.2, List.cons_append]

theorem keys_putMember_old (old : key ∈ seen.map Prod.fst) :
    (putMember key value seen).map Prod.fst = seen.map Prod.fst := by
  induction seen with
  | nil => cases old
  | cons member rest ih =>
      by_cases here : member.1 = key
      · simp [putMember, here]
      · have later : key ∈ rest.map Prod.fst :=
          (List.mem_cons.mp old).resolve_left fun same => here same.symm
        simp [putMember, here, ih later]

theorem nodup_putMember (distinct : (seen.map Prod.fst).Nodup) :
    ((putMember key value seen).map Prod.fst).Nodup := by
  by_cases old : key ∈ seen.map Prod.fst
  · rwa [keys_putMember_old old]
  · rw [putMember_new old, List.map_append]
    simpa using List.nodup_append_comm.mp (List.nodup_cons.mpr ⟨old, distinct⟩)

/-- Putting members whose keys are new appends them. -/
theorem foldl_putMember (distinct : ((seen ++ members).map Prod.fst).Nodup) :
    members.foldl (fun found (key, value) => putMember key value found) seen = seen ++ members := by
  induction members generalizing seen with
  | nil => simp
  | cons member rest ih =>
      obtain ⟨key, value⟩ := member
      have new : key ∉ seen.map Prod.fst := by
        rw [List.map_append, List.map_cons, List.nodup_append'] at distinct
        exact fun old => distinct.2.2 old List.mem_cons_self
      rw [List.append_cons] at distinct
      simp only [List.foldl_cons, putMember_new new, ih distinct, List.append_assoc,
        List.singleton_append]

theorem settledMembers_eq_foldl (members : List (String × Json)) :
    settledMembers seen members =
      (members.map fun (key, value) => (key, value.settled)).foldl
        (fun found (key, value) => putMember key value found) seen := by
  induction members generalizing seen with
  | nil => rfl
  | cons member rest ih => exact ih

theorem nodup_settledMembers (distinct : (seen.map Prod.fst).Nodup) :
    ((settledMembers seen members).map Prod.fst).Nodup := by
  induction members generalizing seen with
  | nil => exact distinct
  | cons member rest ih => exact ih (nodup_putMember distinct)

theorem settled_object_iff :
    (object members).settled = object members ↔
      (members.map Prod.fst).Nodup ∧ ∀ member ∈ members, member.2.settled = member.2 := by
  have keys : (members.map fun (key, value) => (key, value.settled)).map Prod.fst =
      members.map Prod.fst := by simp
  have whole (distinct : (members.map Prod.fst).Nodup) :
      settledMembers [] members = members.map fun (key, value) => (key, value.settled) := by
    rw [← keys] at distinct
    rw [settledMembers_eq_foldl, foldl_putMember distinct, List.nil_append]
  have inner : (members.map fun (key, value) => (key, value.settled)) = members ↔
      ∀ member ∈ members, member.2.settled = member.2 := by
    have same := List.map_inj_left (l := members) (g := id)
      (f := fun member : String × Json => (member.1, member.2.settled))
    rw [List.map_id] at same
    simpa [Prod.ext_iff] using same
  rw [settled, object.injEq]
  constructor
  · intro same
    have distinct : (members.map Prod.fst).Nodup := by
      rw [← same]
      exact nodup_settledMembers .nil
    exact ⟨distinct, inner.mp (whole distinct ▸ same)⟩
  · rintro ⟨distinct, values⟩
    rw [whole distinct, inner.mpr values]

theorem settledItems_eq_map (items : List Json) : settledItems items = items.map settled := by
  induction items with
  | nil => rfl
  | cons item rest ih => rw [settledItems, ih, List.map_cons]

theorem settled_array_iff {items : List Json} :
    (array items).settled = array items ↔ ∀ item ∈ items, item.settled = item := by
  have same := List.map_inj_left (l := items) (f := settled) (g := id)
  rw [List.map_id, ← settledItems_eq_map] at same
  rw [settled, array.injEq]
  exact same

end DocStore.Json
