import DocStore.Proofs.Log.Writer

namespace DocStore

/-- Effects that a manifest is written with. -/
def Effect.WritesManifest : Effect → Prop
  | .stageManifest _ | .publishManifest => True
  | _ => False

namespace Plan

variable {α β : Type} {mayFail : Effect → Prop} {files left after : Directory} {plan : Plan α}
  {value : α} {change : Effect}

/-- How a plan may end when some effects may fail; one that fails leaves the directory alone. -/
inductive Ends (mayFail : Effect → Prop) : Directory → Plan α → Directory → α → Prop where
  | done (files : Directory) (value : α) : Ends mayFail files (.done value) files value
  | performed {files after left : Directory} {change : Effect} {next : Except IoError Unit → Plan α}
      {value : α} (applied : change.apply files = .ok after)
      (later : Ends mayFail after (next (.ok ())) left value) :
      Ends mayFail files (.perform change next) left value
  | impossible {files left : Directory} {change : Effect} {next : Except IoError Unit → Plan α}
      {value : α} {error : IoError} (refused : change.apply files = .error error)
      (later : Ends mayFail files (next (.error error)) left value) :
      Ends mayFail files (.perform change next) left value
  | failed {files left : Directory} {change : Effect} {next : Except IoError Unit → Plan α}
      {value : α} (may : mayFail change) (error : IoError)
      (later : Ends mayFail files (next (.error error)) left value) :
      Ends mayFail files (.perform change next) left value

/-- A run in which only such effects fail ends in one of these ways. -/
theorem ends_run {fault : Effect → Option Failure}
    (may : ∀ change failure, fault change = some failure → mayFail change)
    (whole : ∀ name bytes, fault (.appendSegment name bytes) = none) (plan : Plan α)
    (files : Directory) :
    Ends mayFail files plan (plan.run fault files).1 (plan.run fault files).2 := by
  induction plan generalizing files with
  | done value => exact .done files value
  | perform change next ih =>
      cases fails : fault change with
      | some failure =>
          have untouched : leftBy files failure change = files := by
            cases change with
            | appendSegment name bytes => simp [whole] at fails
            | _ => rfl
          simp only [run, fails, untouched]
          exact .failed (may change failure fails) failure.error (ih _ files)
      | none =>
          cases applied : change.apply files with
          | ok after =>
              simp only [run, fails, applied]
              exact .performed applied (ih _ after)
          | error error =>
              simp only [run, fails, applied]
              exact .impossible applied (ih _ files)

/-- However the plan ends, `post` holds then. -/
def Endures (mayFail : Effect → Prop) (post : Directory → α → Prop) : Plan α → Directory → Prop
  | .done value, files => post files value
  | .perform change next, files =>
      (match change.apply files with
        | .ok after => (next (.ok ())).Endures mayFail post after
        | .error error => (next (.error error)).Endures mayFail post files) ∧
      (mayFail change → ∀ error, (next (.error error)).Endures mayFail post files)

variable {post : Directory → α → Prop}

theorem endures_perform {next : Except IoError Unit → Plan α} :
    (perform change next).Endures mayFail post files ↔
      (match change.apply files with
        | .ok after => (next (.ok ())).Endures mayFail post after
        | .error error => (next (.error error)).Endures mayFail post files) ∧
      (mayFail change → ∀ error, (next (.error error)).Endures mayFail post files) := by
  rw [Endures]

theorem Endures.ends (endures : plan.Endures mayFail post files)
    (ends : Ends mayFail files plan left value) : post left value := by
  induction ends with
  | done files value => exact endures
  | performed applied _ ih =>
      have later := (endures_perform.mp endures).1
      simp only [applied] at later
      exact ih later
  | impossible refused _ ih =>
      have later := (endures_perform.mp endures).1
      simp only [refused] at later
      exact ih later
  | failed may error _ ih => exact ih ((endures_perform.mp endures).2 may error)

theorem endures_pure (result : post files value) :
    (pure value : Plan α).Endures mayFail post files :=
  result

theorem Endures.bind {next : α → Plan β} {post : Directory → β → Prop}
    (endures : plan.Endures mayFail (fun files value => (next value).Endures mayFail post files)
      files) :
    (plan >>= next).Endures mayFail post files := by
  change (plan.bind next).Endures mayFail post files
  induction plan generalizing files with
  | done value => exact endures
  | perform change step ih =>
      obtain ⟨later, otherwise⟩ := endures_perform.mp endures
      refine endures_perform.mpr ⟨?_, fun may error => ih _ (otherwise may error)⟩
      cases applied : change.apply files with
      | ok after =>
          simp only [applied] at later ⊢
          exact ih _ later
      | error error =>
          simp only [applied] at later ⊢
          exact ih _ later

/-- One effect that does not fail. -/
theorem endures_effect {next : Except IoError Unit → Plan α}
    (applied : change.apply files = .ok after) (sure : ¬ mayFail change)
    (later : (next (.ok ())).Endures mayFail post after) :
    (effect change >>= next).Endures mayFail post files := by
  refine endures_perform.mpr ⟨?_, fun may => absurd may sure⟩
  simp only [applied]
  exact later

/-- One effect that does not fail, whatever comes of it. -/
theorem endures_effect_ignored {next : Except IoError Unit → Plan α} (sure : ¬ mayFail change)
    (later : ∀ outcome, (next outcome).Endures mayFail post (change.settle files)) :
    (effect change >>= next).Endures mayFail post files := by
  refine endures_perform.mpr ⟨?_, fun may => absurd may sure⟩
  cases applied : change.apply files with
  | ok after =>
      simp only [Effect.settle, applied, Except.toOption, Option.getD_some] at later
      exact later (.ok ())
  | error error =>
      simp only [Effect.settle, applied, Except.toOption, Option.getD_none] at later
      exact later (.error error)

/-- A manifest is written, or staged at most. -/
theorem endures_persist {manifest : Log.Manifest} {next : Except IoError Unit → Plan α}
    (written : (next (.ok ())).Endures Effect.WritesManifest post (Log.persisted files manifest))
    (unwritten : ∀ staged error,
      (next (.error error)).Endures Effect.WritesManifest post { files with staged }) :
    (Log.Writer.persist manifest >>= next).Endures Effect.WritesManifest post files := by
  refine Endures.bind (endures_perform.mpr ⟨?_, fun _ error => unwritten files.staged error⟩)
  refine endures_perform.mpr ⟨written, fun _ error => ?_⟩
  exact unwritten (some manifest.text) error

end Plan

end DocStore
