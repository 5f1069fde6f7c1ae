import ExchangeTap.Proofs.Worker.Merging
import ExchangeTap.Worker.Tap

namespace ExchangeTap

/-- The phases of an epoch in which there is no merge yet, or there will be none. -/
def TapPhase.withoutMerge : TapPhase → Bool
  | .opening _ | .creating _ _ _ _ | .reporting _ | .removing _ _ _ .pause | .pausing _ => true
  | .forwarding _ | .removing _ _ _ (.leave _) | .stopping _ | .finished _ => false

def TapPhase.isFinished : TapPhase → Bool
  | .finished _ => true
  | _ => false

def TapPhase.user? : TapPhase → Option Reader
  | .pausing _ => some .worker
  | _ => none

namespace TapRun

def Orderly (run : TapRun) (control : ControlPath Reader) : Prop :=
  FanIn.Employed run.phase.withoutMerge run.phase.isFinished run.phase.user? run.consumers
    run.fanIn control

variable {run next : TapRun} {s t : Stage} {control : ControlPath Reader}

theorem orderly_start (bindings : List Binding) (used : control.UsedBy none) :
    (start bindings).Orderly control :=
  .of_none used

private theorem quiet_remove {channel after : Option Channel} {resource : Resource}
    {result : Except BrokerError Unit}
    (removed : remove s channel resource = (result, after, t)) : s.Quiet t := by
  unfold remove at removed
  split at removed
  · cases removed
    exact Stage.quiet_execute rfl
  · split at removed <;> rename_i opened
    · cases removed
      exact Stage.quiet_openChannel opened
    · cases removed
      exact (Stage.quiet_openChannel opened).trans (Stage.quiet_execute rfl)

private theorem quiet_removeStep {resource : Resource} {left : List Resource} {channel : Option Channel}
    {retried : Bool} {departure : Departure}
    (removed : run.removeStep s resource left channel retried departure = (next, t)) :
    s.Quiet t ∧ ∃ left channel retried,
      next = { run with phase := .removing left channel retried departure } := by
  unfold removeStep at removed
  split at removed
  · rename_i answer
    cases removed
    exact ⟨(quiet_remove answer).trans (Stage.quiet_log _ _), _, _, _, rfl⟩
  · rename_i answer
    split at removed
    · cases removed
      exact ⟨(quiet_remove answer).trans (Stage.quiet_log _ _), _, _, _, rfl⟩
    · cases removed
      exact ⟨(quiet_remove answer).trans (Stage.quiet_log _ _), _, _, _, rfl⟩

private theorem pausing_spec {setupRetry until_ : Nat} {pick : Pick} {ledger : List Resource}
    {consumers : List Nat} {channels : List Channel} (used : s.control.UsedBy (some .worker))
    (stepped : step setupRetry pick ⟨.pausing until_, ledger, consumers, none, channels⟩ s =
      some (next, t)) : s.Worked t ∧ next.Orderly t.control := by
  have own : Reader.worker ≠ .supervisor := fun same => nomatch same
  simp only [step] at stepped
  split at stepped
  · cases stepped
    exact ⟨Stage.worked_cancelControl used, .of_none (ControlPath.usedBy_cancel used)⟩
  · cases polled : s.pollControl .worker with
    | mk result after =>
        have worked := Stage.worked_pollControl used own polled
        have usedAfter := Stage.usedBy_pollControl used polled
        rw [polled] at stepped
        cases result with
        | ready answer =>
            -- whatever has come, the pause is over and the lock is given back
            split at stepped <;> rename_i answered <;> cases answered <;> cases stepped <;>
              exact ⟨worked, .of_none usedAfter⟩
        | pending =>
            simp only at stepped
            split at stepped
            · cases stepped
              exact ⟨worked.trans (Stage.worked_cancelControl usedAfter),
                .of_none (ControlPath.usedBy_cancel usedAfter)⟩
            · obtain ⟨waiting, awaited, same⟩ := Option.map_eq_some_iff.mp stepped
              cases same
              cases Stage.eq_of_awaiting awaited
              exact ⟨worked, .of_none usedAfter⟩

private theorem opening_spec {setupRetry : Nat} {pick : Pick} {left : List Binding}
    {ledger : List Resource} {consumers : List Nat} {channels : List Channel}
    (used : s.control.UsedBy none)
    (stepped : step setupRetry pick ⟨.opening left, ledger, consumers, none, channels⟩ s =
      some (next, t)) : s.Worked t ∧ next.Orderly t.control := by
  cases left with
  | nil =>
      cases stepped
      exact FanIn.employed_with_merge (FanIn.tidy_start _) rfl rfl rfl
        (ControlPath.UsedBy.weaken used _) (Stage.quiet_log s _)
  | cons binding left =>
      simp only [step] at stepped
      split at stepped <;> rename_i opened <;> cases stepped
      · exact FanIn.employed_without_merge used
          ((Stage.quiet_openChannel opened).trans (Stage.quiet_log _ _))
      · exact FanIn.employed_without_merge used
          ((Stage.quiet_openChannel opened).trans (Stage.quiet_mint _))

private theorem creating_spec {setupRetry : Nat} {pick : Pick} {plan : TapPlan} {channel : Channel}
    {lacking ledger : List Resource} {left : List Binding} {consumers : List Nat}
    {channels : List Channel}
    (used : s.control.UsedBy none)
    (stepped : step setupRetry pick
      ⟨.creating plan channel lacking left, ledger, consumers, none, channels⟩ s = some (next, t)) :
    s.Worked t ∧ next.Orderly t.control := by
  cases lacking with
  | nil =>
      simp only [step] at stepped
      split at stepped <;> rename_i executed <;> cases stepped <;>
        exact FanIn.employed_without_merge used
          ((Stage.quiet_execute executed).trans (Stage.quiet_log _ _))
  | cons resource lacking =>
      simp only [step] at stepped
      split at stepped <;> rename_i executed <;> cases stepped
      · exact FanIn.employed_without_merge used
          ((Stage.quiet_execute executed).trans (Stage.quiet_log _ _))
      · exact FanIn.employed_without_merge used (Stage.quiet_execute executed)

private theorem removing_spec {setupRetry : Nat} {pick : Pick} {left ledger : List Resource}
    {channel : Option Channel} {retried : Bool} {departure : Departure} {consumers : List Nat}
    {channels : List Channel} {fanIn : Option (FanIn Item)}
    (orderly : Orderly
      ⟨.removing left channel retried departure, ledger, consumers, fanIn, channels⟩ s.control)
    (stepped : step setupRetry pick
      ⟨.removing left channel retried departure, ledger, consumers, fanIn, channels⟩ s =
        some (next, t)) :
    s.Worked t ∧ next.Orderly t.control := by
  obtain ⟨tidy, early, ended, used⟩ := orderly
  cases left with
  | cons resource left =>
      obtain ⟨quiet, _, _, _, rfl⟩ := quiet_removeStep (Option.some.inj stepped)
      cases departure with
      | pause =>
          cases early rfl
          exact FanIn.employed_without_merge used quiet
      | leave action =>
          cases fanIn with
          | none => exact FanIn.employed_without_merge used quiet
          | some fanIn =>
              exact FanIn.employed_with_merge (tidy fanIn rfl) rfl rfl rfl used quiet
  | nil =>
      cases departure with
      | pause =>
          cases early rfl
          cases stepped
          exact FanIn.employed_without_merge used (Stage.quiet_stopReadings s consumers)
      | leave action =>
          cases stepped
          cases fanIn with
          | none => exact FanIn.employed_without_merge used (.refl _)
          | some fanIn =>
              exact FanIn.employed_with_merge (tidy fanIn rfl) rfl rfl rfl used (.refl _)

theorem step_spec {setupRetry : Nat} {pick : Pick} (orderly : run.Orderly s.control)
    (stepped : run.step setupRetry pick s = some (next, t)) :
    s.Worked t ∧ next.Orderly t.control := by
  obtain ⟨phase, ledger, consumers, fanIn, channels⟩ := run
  have ⟨tidy, early, _, used⟩ := orderly
  cases phase with
  | opening left =>
      cases early rfl
      exact opening_spec used stepped
  | creating plan channel lacking left =>
      cases early rfl
      exact creating_spec used stepped
  | reporting error =>
      cases early rfl
      simp only [step] at stepped
      split at stepped <;> rename_i handed <;> cases stepped
      · exact FanIn.employed_without_merge used (.refl _)
      · exact FanIn.employed_without_merge used (Stage.quiet_hand handed)
  | forwarding forward =>
      cases fanIn with
      | none => cases stepped
      | some fanIn =>
          simp only [step] at stepped
          split at stepped <;> rename_i forwarded <;> cases stepped <;>
            obtain ⟨quiet, same⟩ := Forward.step_spec forwarded
          · exact FanIn.employed_with_merge (tidy fanIn rfl) same rfl rfl used quiet
          · exact FanIn.employed_with_merge (tidy fanIn rfl) same rfl rfl used quiet
  | removing left channel retried departure => exact removing_spec orderly stepped
  | pausing until_ =>
      cases early rfl
      exact pausing_spec used stepped
  | stopping action =>
      simp only [step] at stepped
      split at stepped
      · rename_i concluded
        cases stepped
        cases fanIn with
        | none => exact FanIn.employed_without_merge used (.refl _)
        | some fanIn =>
            have silent : fanIn.merge.isRunning = false := by simpa [mergeEnded] using concluded
            exact ⟨.refl _, .of_some (tidy fanIn rfl) rfl (fun _ => silent) used⟩
      · cases stepped
  | finished action => cases stepped

end TapRun

end ExchangeTap
