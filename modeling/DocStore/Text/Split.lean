namespace DocStore.Text

variable {α : Type} [DecidableEq α]

/-- The text before the first separator, and the text after it if there is one. -/
def cut (separator : α) : List α → List α × Option (List α)
  | [] => ([], none)
  | c :: rest =>
      if c = separator then ([], some rest)
      else
        let (before, after) := cut separator rest
        (c :: before, after)

/-- The texts between separators; there is one more of them than of separators. -/
def splitOn (separator : α) : List α → List (List α)
  | [] => [[]]
  | c :: rest =>
      if c = separator then [] :: splitOn separator rest
      else
        match splitOn separator rest with
        | [] => [[c]]
        | first :: more => (c :: first) :: more

theorem cut_some {separator : α} {text before after : List α}
    (found : cut separator text = (before, some after)) :
    text = before ++ separator :: after ∧ separator ∉ before := by
  induction text generalizing before with
  | nil => simp [cut] at found
  | cons c rest ih =>
      by_cases same : c = separator
      · simp [cut, same] at found
        obtain ⟨rfl, rfl⟩ := found
        simp [same]
      · simp only [cut, same, if_false] at found
        obtain ⟨rfl, later⟩ := Prod.mk.inj found
        obtain ⟨shape, absent⟩ := ih (Prod.ext rfl later)
        refine ⟨congrArg (c :: ·) shape, ?_⟩
        simpa [Ne.symm same] using absent

theorem cut_append {separator : α} {before : List α} (absent : separator ∉ before)
    (after : List α) : cut separator (before ++ separator :: after) = (before, some after) := by
  induction before with
  | nil => simp [cut]
  | cons c before ih =>
      rw [List.mem_cons, not_or] at absent
      simp [cut, Ne.symm absent.1, ih absent.2]

end DocStore.Text
