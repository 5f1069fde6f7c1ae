import ExchangeTap.Proofs.Worker.TapConduct
import ExchangeTap.Worker.Run

namespace ExchangeTap

def SubscribePhase.withoutMerge : SubscribePhase → Bool
  | .opening | .consuming _ | .reporting _ => true
  | .forwarding _ | .stopping _ | .finished _ => false

def SubscribePhase.isFinished : SubscribePhase → Bool
  | .finished _ => true
  | _ => false

namespace SubscribeRun

def Orderly (run : SubscribeRun) (control : ControlPath Reader) : Prop :=
  FanIn.Employed run.phase.withoutMerge run.phase.isFinished none run.consumers run.fanIn control

variable {run next : SubscribeRun} {s t : Stage}

private theorem orderly_refused {queue : String} {e : BrokerError} {phase : SubscribePhase}
    {consumers : List Nat} (used : s.control.UsedBy none)
    (refused : refused ⟨phase, consumers, none⟩ queue e s = (next, t)) :
    s.Worked t ∧ next.Orderly t.control := by
  unfold SubscribeRun.refused at refused
  split at refused <;> cases refused <;>
    exact FanIn.employed_without_merge used (Stage.quiet_log s _)

theorem step_spec {queue : String} (orderly : run.Orderly s.control)
    (stepped : run.step queue s = some (next, t)) :
    s.Worked t ∧ next.Orderly t.control := by
  obtain ⟨tidy, early, ended, used⟩ := orderly
  obtain ⟨phase, consumers, fanIn⟩ := run
  cases phase with
  | opening =>
      cases early rfl
      simp only [step] at stepped
      split at stepped <;> rename_i opened <;> cases stepped
      · exact FanIn.employed_without_merge used
          ((Stage.quiet_openChannel opened).trans (Stage.quiet_log _ _))
      · exact FanIn.employed_without_merge used (Stage.quiet_openChannel opened)
  | consuming channel =>
      cases early rfl
      simp only [step] at stepped
      split at stepped <;> rename_i executed
      · have quiet := (Stage.quiet_mint s).trans (Stage.quiet_execute executed)
        obtain ⟨worked, orderly⟩ := orderly_refused (quiet.usedBy used) (Option.some.inj stepped)
        exact ⟨quiet.worked.trans worked, orderly⟩
      · cases stepped
        exact FanIn.employed_with_merge (FanIn.tidy_start 2) rfl rfl rfl (used.weaken _)
          (((Stage.quiet_mint s).trans (Stage.quiet_execute executed)).trans
            (Stage.quiet_log _ _))
  | reporting error =>
      cases early rfl
      simp only [step] at stepped
      split at stepped <;> rename_i handed <;> cases stepped
      · exact FanIn.employed_without_merge used (.refl _)
      · exact FanIn.employed_without_merge used (Stage.quiet_hand handed)
  | forwarding forward =>
      cases fanIn with
      | none => cases stepped
      | some fanIn =>
          simp only [step] at stepped
          split at stepped <;> rename_i forwarded <;> cases stepped <;>
            obtain ⟨quiet, same⟩ := Forward.step_spec forwarded
          · exact FanIn.employed_with_merge (tidy fanIn rfl) same rfl rfl used quiet
          · exact FanIn.employed_with_merge (tidy fanIn rfl) same rfl rfl used quiet
  | stopping action =>
      simp only [step] at stepped
      split at stepped
      · rename_i concluded
        cases stepped
        cases fanIn with
        | none => exact ⟨.refl _, .of_none used⟩
        | some fanIn =>
            have silent : fanIn.merge.isRunning = false := by simpa [mergeEnded] using concluded
            exact ⟨.refl _, .of_some (tidy fanIn rfl) rfl (fun _ => silent) used⟩
      · cases stepped
  | finished action => cases stepped

end SubscribeRun

namespace PublishRun

def Orderly (run : PublishRun) (control : ControlPath Reader) : Prop :=
  control.UsedBy (match run.phase with
    | .ready _ => some .worker
    | _ => none)

variable {run next : PublishRun} {s t : Stage}

private theorem publish_spec {channel : Channel} {message : Outbound} (used : s.control.UsedBy none)
    (published : publish channel message s = (next, t)) :
    s.Worked t ∧ next.Orderly t.control := by
  unfold publish at published
  split at published <;> rename_i executed <;> cases published
  · have quiet := Stage.quiet_execute executed
    exact ⟨quiet.worked, (quiet.usedBy used).weaken _⟩
  · have quiet := Stage.quiet_execute executed
    exact ⟨(quiet.trans (Stage.quiet_log _ _)).worked, quiet.usedBy used⟩

private theorem ready_spec {channel : Channel} (used : s.control.UsedBy (some .worker))
    (stepped : step ⟨.ready channel⟩ s = some (next, t)) :
    s.Worked t ∧ next.Orderly t.control := by
  have own : Reader.worker ≠ .supervisor := fun same => nomatch same
  cases polled : s.pollControl .worker with
  | mk result after =>
      have worked := Stage.worked_pollControl used own polled
      have usedAfter := Stage.usedBy_pollControl used polled
      simp only [step, polled] at stepped
      cases result with
      | ready answer =>
          split at stepped <;> rename_i answered <;> cases answered <;> cases stepped <;>
            exact ⟨worked, usedAfter⟩
      | pending =>
          have cancelled := worked.trans (Stage.worked_cancelControl usedAfter)
          simp only at stepped
          split at stepped
          · rename_i message feed _
            have fed : (after.cancelControl .worker).Quiet
                ({ after with feed := feed }.cancelControl .worker) :=
              ⟨rfl, rfl, Stage.tells_of_journal rfl⟩
            obtain ⟨published, orderly⟩ := publish_spec
              (fed.usedBy (ControlPath.usedBy_cancel usedAfter)) (Option.some.inj stepped)
            exact ⟨(cancelled.trans fed.worked).trans published, orderly⟩
          · cases stepped
            have quiet := Stage.quiet_log (after.cancelControl .worker) .feedClosed
            exact ⟨cancelled.trans quiet.worked,
              quiet.usedBy (ControlPath.usedBy_cancel usedAfter)⟩
          · obtain ⟨waiting, awaited, same⟩ := Option.map_eq_some_iff.mp stepped
            cases same
            cases Stage.eq_of_awaiting awaited
            exact ⟨worked, usedAfter⟩

theorem step_spec (orderly : run.Orderly s.control) (stepped : run.step s = some (next, t)) :
    s.Worked t ∧ next.Orderly t.control := by
  obtain ⟨phase⟩ := run
  cases phase with
  | opening =>
      simp only [step] at stepped
      split at stepped <;> rename_i opened <;> cases stepped <;>
        have quiet := Stage.quiet_openChannel opened
      · exact ⟨(quiet.trans (Stage.quiet_log _ _)).worked, quiet.usedBy orderly⟩
      · exact ⟨(quiet.trans (Stage.quiet_log _ _)).worked, (quiet.usedBy orderly).weaken _⟩
  | reopening =>
      simp only [step] at stepped
      split at stepped <;> rename_i opened <;> cases stepped <;>
        have quiet := Stage.quiet_openChannel opened
      · exact ⟨(quiet.trans (Stage.quiet_log _ _)).worked, quiet.usedBy orderly⟩
      · exact ⟨quiet.worked, (quiet.usedBy orderly).weaken _⟩
  | ready channel => exact ready_spec orderly stepped
  | finished action => cases stepped

end PublishRun

namespace ScriptRun

def Orderly (run : ScriptRun) (control : ControlPath Reader) : Prop :=
  control.UsedBy (match run.phase with
    | .waiting (_ + 1) => some .worker
    | _ => none)

variable {run next : ScriptRun} {s t : Stage}

private theorem orderly_waiting {signals : Nat} {control : ControlPath Reader}
    (used : control.UsedBy none) : (⟨.waiting signals⟩ : ScriptRun).Orderly control := by
  cases signals with
  | zero => exact used
  | succ more => exact used.weaken _

private theorem waiting_spec {epoch : ScriptEpoch} {more : Nat}
    (used : s.control.UsedBy (some .worker))
    (stepped : step epoch ⟨.waiting (more + 1)⟩ s = some (next, t)) :
    s.Worked t ∧ next.Orderly t.control := by
  cases polled : s.pollControl .worker with
  | mk result after =>
      have worked := Stage.worked_pollControl used (fun same => nomatch same) polled
      have usedAfter := Stage.usedBy_pollControl used polled
      simp only [step, polled] at stepped
      cases result with
      | ready answer =>
          cases stepped
          exact ⟨worked.trans (Stage.quiet_record after rfl rfl).worked,
            orderly_waiting usedAfter⟩
      | pending =>
          obtain ⟨waiting, awaited, same⟩ := Option.map_eq_some_iff.mp stepped
          cases same
          cases Stage.eq_of_awaiting awaited
          exact ⟨worked, usedAfter⟩

theorem step_spec {epoch : ScriptEpoch} (orderly : run.Orderly s.control)
    (stepped : run.step epoch s = some (next, t)) :
    s.Worked t ∧ next.Orderly t.control := by
  obtain ⟨phase⟩ := run
  cases phase with
  | starting =>
      cases stepped
      exact ⟨(Stage.quiet_record s rfl rfl).worked, orderly_waiting orderly⟩
  | waiting signals =>
      cases signals with
      | zero =>
          cases stepped
          exact ⟨.refl _, orderly⟩
      | succ more => exact waiting_spec orderly stepped
  | opening channels =>
      cases channels with
      | zero =>
          cases stepped
          exact ⟨.refl _, orderly⟩
      | succ more =>
          simp only [step] at stepped
          split at stepped <;> rename_i opened <;> cases stepped <;>
            have quiet := Stage.quiet_openChannel opened
          · exact ⟨(quiet.trans (Stage.quiet_record _ rfl rfl)).worked, quiet.usedBy orderly⟩
          · exact ⟨(quiet.trans (Stage.quiet_record _ rfl rfl)).worked, quiet.usedBy orderly⟩
  | sleeping until_ =>
      simp only [step] at stepped
      split at stepped
      · cases stepped
        exact ⟨.refl _, orderly⟩
      · cases stepped
  | finished action => cases stepped

end ScriptRun

namespace Run

/-- Who holds the lock of the control path is known from the run. -/
def Orderly (run : Run) (control : ControlPath Reader) : Prop :=
  match run with
  | tap _ run => run.Orderly control
  | subscribe _ run => run.Orderly control
  | publish run => run.Orderly control
  | script _ run => run.Orderly control

variable {run next : Run} {s t : Stage} {p q : ControlPath Reader}

theorem orderly_start (worker : Worker) (number : Nat) (used : p.UsedBy none) :
    (worker.start number).Orderly p := by
  cases worker with
  | tap bindings setupRetry => exact TapRun.orderly_start bindings used
  | subscribe queue => exact FanIn.Employed.of_none used
  | publish => exact used
  | script epochs => exact used

theorem Orderly.congr (orderly : run.Orderly p) (holder : q.holder = p.holder)
    (queue : q.queue = p.queue) : run.Orderly q := by
  cases run with
  | tap setupRetry run => exact { orderly with used := orderly.used.congr holder queue }
  | subscribe name run => exact { orderly with used := orderly.used.congr holder queue }
  | publish run => exact ControlPath.UsedBy.congr orderly holder queue
  | script epoch run => exact ControlPath.UsedBy.congr orderly holder queue

theorem step_spec {pick : Pick} (orderly : run.Orderly s.control)
    (stepped : run.step pick s = some (next, t)) :
    s.Worked t ∧ next.Orderly t.control := by
  cases run with
  | tap setupRetry run =>
      obtain ⟨⟨after, stage⟩, moved, same⟩ := Option.map_eq_some_iff.mp stepped
      cases same
      exact TapRun.step_spec orderly moved
  | subscribe queue run =>
      obtain ⟨⟨after, stage⟩, moved, same⟩ := Option.map_eq_some_iff.mp stepped
      cases same
      exact SubscribeRun.step_spec orderly moved
  | publish run =>
      obtain ⟨⟨after, stage⟩, moved, same⟩ := Option.map_eq_some_iff.mp stepped
      cases same
      exact PublishRun.step_spec orderly moved
  | script epoch run =>
      obtain ⟨⟨after, stage⟩, moved, same⟩ := Option.map_eq_some_iff.mp stepped
      cases same
      exact ScriptRun.step_spec orderly moved

theorem mergeStep_spec (orderly : run.Orderly s.control)
    (stepped : run.mergeStep s = some (next, t)) :
    s.Worked t ∧ next.Orderly t.control := by
  cases run with
  | tap setupRetry run =>
      obtain ⟨phase, ledger, consumers, fanIn, channels⟩ := run
      cases fanIn with
      | none => cases stepped
      | some fanIn =>
          obtain ⟨⟨after, stage⟩, advanced, same⟩ := Option.map_eq_some_iff.mp stepped
          cases same
          exact FanIn.Employed.advance orderly advanced
  | subscribe queue run =>
      obtain ⟨phase, consumers, fanIn⟩ := run
      cases fanIn with
      | none => cases stepped
      | some fanIn =>
          obtain ⟨⟨after, stage⟩, advanced, same⟩ := Option.map_eq_some_iff.mp stepped
          cases same
          exact FanIn.Employed.advance orderly advanced
  | publish run => cases stepped
  | script epoch run => cases stepped

theorem result?_mergeStep (stepped : run.mergeStep s = some (next, t)) :
    next.result? = run.result? := by
  cases run with
  | publish run => cases stepped
  | script epoch run => cases stepped
  | tap setupRetry run =>
      obtain ⟨fanIn, _, advancing⟩ := Option.bind_eq_some_iff.mp stepped
      obtain ⟨_, _, same⟩ := Option.map_eq_some_iff.mp advancing
      cases same
      obtain ⟨phase, ledger, consumers, _, channels⟩ := run
      cases phase <;> rfl
  | subscribe queue run =>
      obtain ⟨fanIn, _, advancing⟩ := Option.bind_eq_some_iff.mp stepped
      obtain ⟨_, _, same⟩ := Option.map_eq_some_iff.mp advancing
      cases same
      obtain ⟨phase, consumers, _⟩ := run
      cases phase <;> rfl

theorem Orderly.released {action : Action} (orderly : run.Orderly p)
    (returned : run.result? = some action) : p.UsedBy none := by
  cases run with
  | tap setupRetry run =>
      obtain ⟨phase, ledger, consumers, fanIn, channels⟩ := run
      cases phase with
      | finished action => exact FanIn.Employed.released orderly
      | _ => cases returned
  | subscribe queue run =>
      obtain ⟨phase, consumers, fanIn⟩ := run
      cases phase with
      | finished action => exact FanIn.Employed.released orderly
      | _ => cases returned
  | publish run =>
      obtain ⟨phase⟩ := run
      cases phase with
      | finished action => exact orderly
      | _ => cases returned
  | script epoch run =>
      obtain ⟨phase⟩ := run
      cases phase with
      | finished action => exact orderly
      | _ => cases returned

end Run

end ExchangeTap
