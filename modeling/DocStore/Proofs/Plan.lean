import DocStore.Files
/-!
What plans do to directories.

A plan runs to its end, or the device stops while it runs: between two effects,
or with an append cut short (`Leaves`).  `Keeps` speaks about both, and is shown
one effect after another.
-/

namespace DocStore

/-- The directory after an effect, which may be impossible. -/
def Effect.settle (change : Effect) (files : Directory) : Directory :=
  (change.apply files).toOption.getD files

namespace Plan

variable {α β : Type} {files after left : Directory} {change : Effect} {plan : Plan α}

/-- The directory may be left so by an append of which not all bytes are written. -/
def Tears (files : Directory) (change : Effect) (left : Directory) : Prop :=
  match change with
  | .appendSegment name bytes =>
      ∃ count, (Effect.appendSegment name (bytes.take count)).apply files = .ok left
  | _ => False

/-- The directories that a plan may leave when the device stops. -/
inductive Leaves : Directory → Plan α → Directory → Prop where
  | stopped (files : Directory) (plan : Plan α) : Leaves files plan files
  | torn {files left : Directory} {change : Effect} {next : Except IoError Unit → Plan α}
      (tears : Tears files change left) : Leaves files (.perform change next) left
  | performed {files after left : Directory} {change : Effect} {next : Except IoError Unit → Plan α}
      (applied : change.apply files = .ok after) (later : Leaves after (next (.ok ())) left) :
      Leaves files (.perform change next) left
  | refused {files left : Directory} {change : Effect} {next : Except IoError Unit → Plan α}
      {error : IoError} (failed : change.apply files = .error error)
      (later : Leaves files (next (.error error)) left) : Leaves files (.perform change next) left

theorem run_bind (plan : Plan α) (next : α → Plan β) (fault : Effect → Option Failure)
    (files : Directory) :
    (plan >>= next).run fault files =
      (next (plan.run fault files).2).run fault (plan.run fault files).1 := by
  change (plan.bind next).run fault files = _
  induction plan generalizing files with
  | done value => rfl
  | perform change step ih =>
      simp only [Plan.bind, Plan.run]
      cases fault change with
      | some failure => exact ih _ _
      | none =>
          cases change.apply files with
          | ok after => exact ih _ _
          | error error => exact ih _ _

/-- A plan may go on alike, however its first effect ends. -/
theorem run_effect_ignored (change : Effect) (rest : Plan α) (files : Directory) :
    (effect change >>= fun _ => rest).run noFault files =
      rest.run noFault (change.settle files) := by
  change (perform change fun _ => rest).run noFault files = _
  simp only [Plan.run, noFault, Effect.settle]
  cases change.apply files with
  | ok after => rfl
  | error error => rfl

theorem leaves_run (files : Directory) (plan : Plan α) :
    Leaves files plan (plan.run noFault files).1 := by
  induction plan generalizing files with
  | done value => exact .stopped files _
  | perform change next ih =>
      cases applied : change.apply files with
      | ok after =>
          simp only [Plan.run, noFault, applied]
          exact .performed applied (ih (.ok ()) after)
      | error error =>
          simp only [Plan.run, noFault, applied]
          exact .refused applied (ih (.error error) files)

/-- A device on which appends fail, in one and the same way. -/
def failing (failure : Failure) : Effect → Option Failure
  | .appendSegment _ _ => some failure
  | _ => none

/-- All directories on the way through a plan satisfy `during`, and its end satisfies `post`. -/
def Keeps (during : Directory → Prop) (post : Directory → α → Prop) : Plan α → Directory → Prop
  | .done value, files => during files ∧ post files value
  | .perform change next, files =>
      during files ∧ (∀ left, Tears files change left → during left) ∧
        match change.apply files with
        | .ok after => (next (.ok ())).Keeps during post after
        | .error error => (next (.error error)).Keeps during post files

variable {during : Directory → Prop} {post : Directory → α → Prop}

theorem keeps_perform {next : Except IoError Unit → Plan α} :
    (perform change next).Keeps during post files ↔
      during files ∧ (∀ left, Tears files change left → during left) ∧
        match change.apply files with
        | .ok after => (next (.ok ())).Keeps during post after
        | .error error => (next (.error error)).Keeps during post files := by
  rw [Keeps]

theorem Keeps.start (keeps : plan.Keeps during post files) : during files := by
  cases plan with
  | done value => exact And.left keeps
  | perform change next => exact (keeps_perform.mp keeps).1

theorem Keeps.run (keeps : plan.Keeps during post files) :
    post (plan.run noFault files).1 (plan.run noFault files).2 := by
  induction plan generalizing files with
  | done value => exact And.right keeps
  | perform change next ih =>
      obtain ⟨-, -, later⟩ := keeps_perform.mp keeps
      cases applied : change.apply files with
      | ok after =>
          simp only [applied] at later
          simpa only [Plan.run, noFault, applied] using ih (.ok ()) later
      | error error =>
          simp only [applied] at later
          simpa only [Plan.run, noFault, applied] using ih (.error error) later

theorem Keeps.exists_run (keeps : plan.Keeps during post files) :
    ∃ left value, plan.run noFault files = (left, value) ∧ post left value :=
  ⟨_, _, rfl, keeps.run⟩

theorem Keeps.leaves (keeps : plan.Keeps during post files) (leaves : Leaves files plan left) :
    during left := by
  induction leaves with
  | stopped files plan => exact keeps.start
  | torn tears => exact (keeps_perform.mp keeps).2.1 _ tears
  | performed applied _ ih =>
      have later := (keeps_perform.mp keeps).2.2
      simp only [applied] at later
      exact ih later
  | refused failed _ ih =>
      have later := (keeps_perform.mp keeps).2.2
      simp only [failed] at later
      exact ih later

theorem Keeps.mono {during' : Directory → Prop} {post' : Directory → α → Prop}
    (keeps : plan.Keeps during post files) (weaker : ∀ left, during left → during' left)
    (result : ∀ left value, post left value → post' left value) :
    plan.Keeps during' post' files := by
  induction plan generalizing files with
  | done value => exact ⟨weaker _ (And.left keeps), result _ _ (And.right keeps)⟩
  | perform change next ih =>
      obtain ⟨now, torn, later⟩ := keeps_perform.mp keeps
      refine keeps_perform.mpr ⟨weaker _ now, fun left tears => weaker left (torn left tears), ?_⟩
      cases applied : change.apply files with
      | ok after =>
          simp only [applied] at later ⊢
          exact ih (.ok ()) later
      | error error =>
          simp only [applied] at later ⊢
          exact ih (.error error) later

theorem keeps_pure {value : α} (now : during files) (result : post files value) :
    (pure value : Plan α).Keeps during post files :=
  ⟨now, result⟩

theorem Keeps.bind {next : α → Plan β} {post : Directory → β → Prop}
    (keeps : plan.Keeps during (fun files value => (next value).Keeps during post files) files) :
    (plan >>= next).Keeps during post files := by
  change (plan.bind next).Keeps during post files
  induction plan generalizing files with
  | done value => exact And.right keeps
  | perform change step ih =>
      obtain ⟨now, torn, later⟩ := keeps_perform.mp keeps
      refine keeps_perform.mpr ⟨now, torn, ?_⟩
      cases applied : change.apply files with
      | ok after =>
          simp only [applied] at later ⊢
          exact ih (.ok ()) later
      | error error =>
          simp only [applied] at later ⊢
          exact ih (.error error) later

theorem Keeps.map {result : α → β} {post : Directory → β → Prop}
    (keeps : plan.Keeps during (fun files value => post files (result value)) files) :
    (plan >>= fun value => pure (result value)).Keeps during post files := by
  change (plan.bind _).Keeps during post files
  induction plan generalizing files with
  | done value => exact keeps
  | perform change step ih =>
      obtain ⟨now, torn, later⟩ := keeps_perform.mp keeps
      refine keeps_perform.mpr ⟨now, torn, ?_⟩
      cases applied : change.apply files with
      | ok after =>
          simp only [applied] at later ⊢
          exact ih (.ok ()) later
      | error error =>
          simp only [applied] at later ⊢
          exact ih (.error error) later

theorem keeps_effect {next : Except IoError Unit → Plan α}
    (applied : change.apply files = .ok after) (now : during files)
    (torn : ∀ left, Tears files change left → during left)
    (later : (next (.ok ())).Keeps during post after) :
    (effect change >>= next).Keeps during post files := by
  refine keeps_perform.mpr ⟨now, torn, ?_⟩
  simp only [applied]
  exact later

/-- One effect, whatever comes of it. -/
theorem keeps_effect_ignored {next : Except IoError Unit → Plan α}
    (now : during files) (torn : ∀ left, Tears files change left → during left)
    (later : ∀ outcome, (next outcome).Keeps during post (change.settle files)) :
    (effect change >>= next).Keeps during post files := by
  refine keeps_perform.mpr ⟨now, torn, ?_⟩
  cases applied : change.apply files with
  | ok after =>
      simp only [Effect.settle, applied, Except.toOption, Option.getD_some] at later
      exact later (.ok ())
  | error error =>
      simp only [Effect.settle, applied, Except.toOption, Option.getD_none] at later
      exact later (.error error)

/-- The result satisfies `post`, however the effects end. -/
def Returns (post : α → Prop) : Plan α → Prop
  | .done value => post value
  | .perform _ next => ∀ outcome, (next outcome).Returns post

theorem Returns.run {post : α → Prop} (returns : plan.Returns post)
    (fault : Effect → Option Failure) (files : Directory) : post (plan.run fault files).2 := by
  induction plan generalizing files with
  | done value => exact returns
  | perform change next ih =>
      simp only [Plan.run]
      cases fault change with
      | some failure => exact ih _ (returns _) _
      | none =>
          cases change.apply files with
          | ok after => exact ih _ (returns _) after
          | error error => exact ih _ (returns _) files

theorem Returns.bind {next : α → Plan β} {post : β → Prop}
    (returns : plan.Returns fun value => (next value).Returns post) :
    (plan >>= next).Returns post := by
  change (plan.bind next).Returns post
  induction plan with
  | done value => exact returns
  | perform change step ih => exact fun outcome => ih outcome (returns outcome)

theorem Returns.mono {post weaker : α → Prop} (returns : plan.Returns post)
    (weaken : ∀ value, post value → weaker value) : plan.Returns weaker := by
  induction plan with
  | done value => exact weaken value returns
  | perform change next ih => exact fun outcome => ih outcome (returns outcome)

end Plan

end DocStore
