import DocStore.Source
import DocStore.Proofs.Json.Spacing

namespace DocStore.Json

private theorem bind_eq_ok {first : Except SourceFault Unit} {next : Except SourceFault Unit} :
    (do first; next) = .ok () ↔ first = .ok () ∧ next = .ok () := by
  cases first <;> simp [bind, Except.bind]

mutual

/-- What is not too deep below a level fits into the levels that are left. -/
theorem fits_of_checkLevels {place : String} {level depth : Nat} (value : Json)
    (checked : checkLevels place level value = .ok ())
    (room : SourceFault.maxLevel < level + depth) : Fits depth value := by
  match value with
  | .null => exact .null depth
  | .bool value => exact .bool depth value
  | .number value => exact .number depth value
  | .string text => exact .string depth text
  | .array items =>
      unfold checkLevels at checked
      split at checked
      · cases checked
      · obtain ⟨inner, rfl⟩ : ∃ inner, depth = inner + 1 := ⟨depth - 1, by omega⟩
        exact .array (fits_of_checkItemLevels items checked (by omega))
  | .object members =>
      unfold checkLevels at checked
      split at checked
      · cases checked
      · obtain ⟨inner, rfl⟩ : ∃ inner, depth = inner + 1 := ⟨depth - 1, by omega⟩
        exact .object (fits_of_checkMemberLevels members checked (by omega))

theorem fits_of_checkItemLevels {place : String} {level position depth : Nat} (items : List Json)
    (checked : checkItemLevels place level position items = .ok ())
    (room : SourceFault.maxLevel < level + 1 + depth) : ∀ item ∈ items, Fits depth item := by
  match items with
  | [] => exact nofun
  | first :: rest =>
      unfold checkItemLevels at checked
      obtain ⟨here, later⟩ := bind_eq_ok.mp checked
      exact List.forall_mem_cons.mpr
        ⟨fits_of_checkLevels first here room, fits_of_checkItemLevels rest later room⟩

theorem fits_of_checkMemberLevels {place : String} {level depth : Nat}
    (members : List (String × Json)) (checked : checkMemberLevels place level members = .ok ())
    (room : SourceFault.maxLevel < level + 1 + depth) :
    ∀ member ∈ members, Fits depth member.2 := by
  match members with
  | [] => exact nofun
  | (key, value) :: rest =>
      unfold checkMemberLevels at checked
      obtain ⟨here, later⟩ := bind_eq_ok.mp checked
      exact List.forall_mem_cons.mpr
        ⟨fits_of_checkLevels value here room, fits_of_checkMemberLevels rest later room⟩

end

/-- A document fits wherever more levels are left than its values may use. -/
theorem fits_of_checkSource {source : Json} {depth : Nat}
    (checked : checkSource source = .ok ()) (room : SourceFault.maxLevel < depth) :
    Fits depth source := by
  unfold checkSource at checked
  split at checked
  · exact fits_of_checkLevels _ checked (by omega)
  · cases checked

end DocStore.Json
