import ExchangeTap.Proofs.Worker.Chapters
import ExchangeTap.Proofs.Worker.Teardown

namespace ExchangeTap

/-- How the pause after a failed setup can end. -/
inductive PauseEnds (until_ : Nat) (s : Stage) : Action → Prop where
  | shutdown (heard : (s.pollControl .worker).1 = .ready (some .shutdown)) : PauseEnds until_ s .stop
  | abandoned (ended : (s.pollControl .worker).1 = .ready none) : PauseEnds until_ s .stop
  | signalled (heard : (s.pollControl .worker).1 = .ready (some .reconnect)) :
      PauseEnds until_ s .reconnect
  | overdue (due : until_ ≤ s.now) : PauseEnds until_ s .reconnect

structure Stage.Uneventful (s : Stage) (until_ : Nat) : Prop where
  early : s.now < until_
  silent : (s.pollControl .worker).1 = .pending

namespace TapRun

variable {setupRetry until_ : Nat} {pick : Pick} {run next : TapRun} {s t : Stage}

theorem pausing_cases (phase : run.phase = .pausing until_) (setupRetry : Nat) (pick : Pick)
    (s : Stage) :
    (s.Uneventful until_ ∧
      ∀ next t, run.step setupRetry pick s = some (next, t) → next = run) ∨
    ∃ action t, run.step setupRetry pick s = some ({ run with phase := .finished action }, t) ∧
      PauseEnds until_ s action := by
  by_cases second : pick = .second ∧ until_ ≤ s.now
  · obtain ⟨rfl, due⟩ := second
    exact .inr ⟨.reconnect, s.cancelControl .worker, by simp [step, phase, due], .overdue due⟩
  · -- the control path is looked at first
    cases polled : s.pollControl .worker with
    | mk result after =>
        have heard : (s.pollControl .worker).1 = result := congrArg Prod.fst polled
        cases result with
        | ready answer =>
            rcases answer with _ | _ | _
            · refine .inr ⟨.stop, after, ?_, .abandoned heard⟩
              cases pick <;> simp_all [step]
            · refine .inr ⟨.reconnect, after, ?_, .signalled heard⟩
              cases pick <;> simp_all [step]
            · refine .inr ⟨.stop, after, ?_, .shutdown heard⟩
              cases pick <;> simp_all [step]
        | pending =>
            by_cases due : until_ ≤ s.now
            · refine .inr ⟨.reconnect, after.cancelControl .worker, ?_, .overdue due⟩
              cases pick <;> simp_all [step]
            · refine .inl ⟨⟨Nat.lt_of_not_le due, heard⟩, fun next t stepped => ?_⟩
              have waited : (s.awaiting after).map (run, ·) = some (next, t) := by
                cases pick <;> simpa [step, phase, polled, due] using stepped
              obtain ⟨_, _, same⟩ := Option.map_eq_some_iff.mp waited
              cases same
              rfl

def settingUp (run : TapRun) : Bool :=
  match run.phase with
  | .opening _ | .creating _ _ _ _ | .reporting _ => true
  | _ => false

def closing (run : TapRun) : Bool :=
  match run.phase with
  | .removing _ _ _ _ | .pausing _ | .stopping _ | .finished _ => true
  | _ => false

private theorem silent_settingUp (stepped : run.step setupRetry pick s = some (next, t))
    (still : next.settingUp = true) :
    run.settingUp = true ∧ s.Tells (·.isEnvelope = false) t := by
  cases step_of_step stepped with
  | opens phase opened =>
      have told := Stage.tells_openChannel (P := (·.isEnvelope = false)) (fun _ => rfl)
        (fun _ => rfl) opened
      exact ⟨by simp [settingUp, phase], told.trans (Stage.tells_of_journal rfl)⟩
  | findsNoChannel phase refused =>
      have told := Stage.tells_openChannel (P := (·.isEnvelope = false)) (fun _ => rfl)
        (fun _ => rfl) refused
      exact ⟨by simp [settingUp, phase], told.trans (Stage.tells_record _ rfl)⟩
  | creates phase executed => exact ⟨by simp [settingUp, phase], Stage.tells_execute rfl rfl executed⟩
  | consumes phase executed | isRefused phase executed =>
      have told := Stage.tells_execute (P := (·.isEnvelope = false)) rfl rfl executed
      exact ⟨by simp [settingUp, phase], told.trans (Stage.tells_record _ rfl)⟩
  | departs phase departed =>
      rename_i departure
      cases departure <;> cases departed <;> cases still
  | waits phase => simp [settingUp, phase] at still
  | establishes | reports | forwards | leaves | removes | retries | givesUp | resumes | stops =>
      cases still

private theorem tells_remove {P : Event → Prop} {resource : Resource} {channel after : Option Channel}
    {result : Except BrokerError Unit} (uses : ∀ e : Event, e.isOnChannel = true → P e)
    (removed : remove s channel resource = (result, after, t)) : s.Tells P t := by
  rcases remove_cases removed with ⟨e, _, refused, _⟩ | ⟨c, left, u, tried, executed, _⟩
  · exact Stage.tells_openChannel (fun _ => uses _ rfl) (fun _ => uses _ rfl) refused
  · have told : u.Tells P t := Stage.tells_execute (uses _ rfl) (uses _ rfl) executed
    rcases tried with ⟨_, rfl⟩ | ⟨_, opened⟩
    · exact told
    · exact (Stage.tells_openChannel (fun _ => uses _ rfl) (fun _ => uses _ rfl) opened).trans told

private theorem tells_pausing {P : Event → Prop} (taken : ∀ signal, P (.signalTaken signal .worker))
    (phase : run.phase = .pausing until_) (stepped : run.step setupRetry pick s = some (next, t)) :
    s.Tells P t := by
  simp only [step, phase] at stepped
  split at stepped
  · cases stepped
    exact Stage.tells_of_journal rfl
  · cases polled : s.pollControl .worker with
    | mk result after =>
        have told := Stage.tells_pollControl taken polled
        rw [polled] at stepped
        cases result with
        | ready answer =>
            split at stepped <;> rename_i answered <;> cases answered <;> cases stepped <;>
              exact told
        | pending =>
            simp only at stepped
            split at stepped
            · cases stepped
              exact told.trans (Stage.tells_of_journal rfl)
            · obtain ⟨waiting, awaited, same⟩ := Option.map_eq_some_iff.mp stepped
              cases same
              cases Stage.eq_of_awaiting awaited
              exact told

private theorem silent_closing (closing : run.closing = true)
    (stepped : run.step setupRetry pick s = some (next, t)) :
    next.closing = true ∧ s.Tells (·.isEnvelope = false) t := by
  have quiet : ∀ e : Event, e.isOnChannel = true → e.isEnvelope = false := by
    intro e used
    cases e <;> first | rfl | cases used
  cases phase : run.phase with
  | opening | creating | reporting | forwarding => simp [TapRun.closing, phase] at closing
  | removing left channel retried departure =>
      rcases step_of_removing phase stepped with ⟨resource, rest, rfl, removed⟩ | ⟨rfl, departs⟩
      · cases tried : remove s channel resource with
        | mk result after =>
            obtain ⟨after, u⟩ := after
            have told := tells_remove quiet tried
            obtain ⟨⟨entry, rfl⟩, ⟨_, rfl⟩ | ⟨_, _, ⟨_, _, rfl⟩ | ⟨_, rfl⟩⟩⟩ :=
              removeStep_cases tried removed <;>
              exact ⟨rfl, told.trans (Stage.tells_record _ rfl)⟩
      · cases departure <;> cases departs
        · exact ⟨rfl, Stage.tells_stopReadings s run.consumers⟩
        · exact ⟨rfl, .refl _⟩
  | pausing until_ =>
      refine ⟨?_, tells_pausing (fun _ => rfl) phase stepped⟩
      rcases pausing_cases phase setupRetry pick s with ⟨_, stays⟩ | ⟨action, u, returned, _⟩
      · cases stays _ _ stepped
        exact closing
      · cases returned.symm.trans stepped
        rfl
  | stopping action =>
      simp only [step, phase] at stepped
      split at stepped <;> cases stepped
      exact ⟨rfl, .refl _⟩
  | finished action =>
      simp only [step, phase] at stepped
      cases stepped

end TapRun

namespace Run

variable {setupRetry : Nat} {run last : TapRun} {next : Run} {s t : Stage} {turns : List Turn}

def Apart (turns : List Turn) : Prop :=
  ∀ stage told, .elsewhere stage told ∈ turns → ∀ e ∈ told, e.isEnvelope = false

theorem Apart.append {first rest : List Turn} (apart : Apart (first ++ rest)) :
    Apart first ∧ Apart rest :=
  ⟨fun stage told member => apart stage told (List.mem_append_left _ member),
    fun stage told member => apart stage told (List.mem_append_right _ member)⟩

private theorem silent_take {turn : Turn} (apart : Apart [turn]) (other : turn.isWorker = false)
    (taken : take turn (.tap setupRetry run, s) = some (next, t)) :
    s.Tells (·.isEnvelope = false) t := by
  cases turn with
  | worker pick => cases other
  | merge =>
      obtain ⟨fanIn, _, advancing⟩ := Option.bind_eq_some_iff.mp taken
      obtain ⟨⟨after, stage⟩, advanced, same⟩ := Option.map_eq_some_iff.mp advancing
      cases same
      exact FanIn.tells_advance (fun _ => rfl) advanced
  | elsewhere stage told =>
      cases taken
      refine ⟨_, rfl, fun e member => ?_⟩
      exact apart stage told List.mem_cons_self e (List.mem_filter.mp member).1

theorem silent_of_settingUp (apart : Apart turns)
    (played : play take turns (.tap setupRetry run, s) = some (.tap setupRetry last, t))
    (still : last.settingUp = true) :
    run.settingUp = true ∧ s.Tells (·.isEnvelope = false) t := by
  obtain ⟨_, ⟨⟩, silent⟩ := tap_play (P := fun done after t => Apart done → after.settingUp = true →
      run.settingUp = true ∧ s.Tells (·.isEnvelope = false) t)
    (fun silent stepped apart still => by
      obtain ⟨between, now⟩ := TapRun.silent_settingUp stepped still
      obtain ⟨before, earlier⟩ := silent apart.append.1 between
      exact ⟨before, earlier.trans now⟩)
    (fun silent other taken apart still => by
      obtain ⟨before, earlier⟩ := silent apart.append.1 still
      exact ⟨before, earlier.trans (silent_take apart.append.2 other taken)⟩)
    (fun _ still => ⟨still, .refl _⟩) played
  exact silent apart still

theorem silent_of_closing (apart : Apart turns) (closing : run.closing = true)
    (played : play take turns (.tap setupRetry run, s) = some (next, t)) :
    s.Tells (·.isEnvelope = false) t := by
  obtain ⟨_, rfl, silent⟩ := tap_play (P := fun done after t => Apart done →
      after.closing = true ∧ s.Tells (·.isEnvelope = false) t)
    (fun silent stepped apart => by
      obtain ⟨between, earlier⟩ := silent apart.append.1
      obtain ⟨still, now⟩ := TapRun.silent_closing between stepped
      exact ⟨still, earlier.trans now⟩)
    (fun silent other taken apart => by
      obtain ⟨between, earlier⟩ := silent apart.append.1
      exact ⟨between, earlier.trans (silent_take apart.append.2 other taken)⟩)
    (fun _ => ⟨closing, .refl _⟩) played
  exact (silent apart).2

end Run

end ExchangeTap
