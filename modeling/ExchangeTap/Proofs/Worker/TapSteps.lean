import ExchangeTap.Proofs.Worker.Conduct
import ExchangeTap.Proofs.Worker.Steady
import ExchangeTap.Worker.Tap

namespace ExchangeTap

/-- The operation that comes next in the setup of a tap. -/
def TapPlan.demand (plan : TapPlan) : List Resource → Operation
  | [] => plan.consumption
  | resource :: _ => resource.creation

namespace TapRun

inductive Step (setupRetry : Nat) (run : TapRun) (s : Stage) : TapRun → Stage → Prop where
  | establishes (phase : run.phase = .opening []) :
      Step setupRetry run s { run with
        fanIn := some (FanIn.start (run.consumers.length + 1))
        phase := .forwarding .waiting } (s.log (.tapping run.consumers.length))
  | opens {binding : Binding} {left : List Binding} {channel : Channel} {u : Stage}
      (phase : run.phase = .opening (binding :: left)) (opened : s.openChannel = (.ok channel, u)) :
      Step setupRetry run s { run with
        phase := .creating ⟨binding, u.mint.1⟩ channel (TapPlan.resources ⟨binding, u.mint.1⟩) left }
        u.mint.2
  | creates {plan : TapPlan} {channel after : Channel} {resource : Resource}
      {lacking : List Resource} {left : List Binding} {t : Stage}
      (phase : run.phase = .creating plan channel (resource :: lacking) left)
      (executed : s.execute channel resource.creation = (.ok (), after, t)) :
      Step setupRetry run s { run with
        ledger := run.ledger ++ [resource]
        phase := .creating plan after lacking left } t
  | consumes {plan : TapPlan} {channel after : Channel} {left : List Binding} {u : Stage}
      (phase : run.phase = .creating plan channel [] left)
      (executed : s.execute channel plan.consumption = (.ok (), after, u)) :
      Step setupRetry run s { run with
        consumers := run.consumers ++ [s.broker.consumers.length]
        channels := run.channels ++ [after]
        phase := .opening left }
        (u.log (.tapEstablished plan.binding.exchange plan.binding.key plan.exchange plan.queue))
  | findsNoChannel {binding : Binding} {left : List Binding} {e : BrokerError} {u : Stage}
      (phase : run.phase = .opening (binding :: left)) (refused : s.openChannel = (.error e, u)) :
      Step setupRetry run s (run.fail binding e u).1 (run.fail binding e u).2
  | isRefused {plan : TapPlan} {channel after : Channel} {lacking : List Resource}
      {left : List Binding} {e : BrokerError} {u : Stage}
      (phase : run.phase = .creating plan channel lacking left)
      (executed : s.execute channel (plan.demand lacking) = (.error e, after, u)) :
      Step setupRetry run s (run.fail plan.binding e u).1 (run.fail plan.binding e u).2
  | reports {error : TapError} {t : Stage} (phase : run.phase = .reporting error)
      (handed : s.hand none (.failed error) = .done t ∨
        s.hand none (.failed error) = .closed ∧ t = s) :
      Step setupRetry run s (run.tearDown .pause) t
  | forwards {forward next : Forward} {f g : FanIn Item} {t : Stage}
      (phase : run.phase = .forwarding forward) (fanIn : run.fanIn = some f)
      (stepped : forward.step f s = some (.continue next, g, t)) :
      Step setupRetry run s { run with fanIn := some g, phase := .forwarding next } t
  | leaves {forward : Forward} {action : Action} {f g : FanIn Item} {t : Stage}
      (phase : run.phase = .forwarding forward) (fanIn : run.fanIn = some f)
      (stepped : forward.step f s = some (.leave action, g, t)) :
      Step setupRetry run s ({ run with fanIn := some g }.tearDown (.leave action)) t
  | removes {resource : Resource} {left : List Resource} {channel after : Option Channel}
      {retried : Bool} {departure : Departure} {u : Stage}
      (phase : run.phase = .removing (resource :: left) channel retried departure)
      (removed : remove s channel resource = (.ok (), after, u)) :
      Step setupRetry run s { run with phase := .removing left after false departure }
        (u.log (.resourceRemoved resource))
  | retries {resource : Resource} {left : List Resource} {channel after : Option Channel}
      {departure : Departure} {e : BrokerError} {u : Stage}
      (phase : run.phase = .removing (resource :: left) channel false departure)
      (removed : remove s channel resource = (.error e, after, u))
      (stale : e.isStaleChannel = true) :
      Step setupRetry run s
        { run with phase := .removing (resource :: left) none true departure }
        (u.log (.reopeningChannel resource))
  | givesUp {resource : Resource} {left : List Resource} {channel after : Option Channel}
      {retried : Bool} {departure : Departure} {e : BrokerError} {u : Stage}
      (phase : run.phase = .removing (resource :: left) channel retried departure)
      (removed : remove s channel resource = (.error e, after, u))
      (final : e.isStaleChannel = false ∨ retried = true) :
      Step setupRetry run s { run with phase := .removing left none false departure }
        (u.log (removalEntry resource (.error e)))
  | departs {channel : Option Channel} {retried : Bool} {departure : Departure} {next : TapRun}
      {t : Stage} (phase : run.phase = .removing [] channel retried departure)
      (departed : run.depart setupRetry s departure = (next, t)) : Step setupRetry run s next t
  | waits {until_ : Nat} {t : Stage} (phase : run.phase = .pausing until_) (steady : s.Steady t) :
      Step setupRetry run s run t
  | resumes {until_ : Nat} {action : Action} {t : Stage} (phase : run.phase = .pausing until_)
      (steady : s.Steady t) : Step setupRetry run s { run with phase := .finished action } t
  | stops {action : Action} (phase : run.phase = .stopping action) (ended : run.mergeEnded = true) :
      Step setupRetry run s { run with channels := [], phase := .finished action } s

variable {setupRetry : Nat} {pick : Pick} {run next : TapRun} {s t : Stage}

private theorem step_of_removeStep {resource : Resource} {left : List Resource} {channel : Option Channel}
    {retried : Bool} {departure : Departure}
    (phase : run.phase = .removing (resource :: left) channel retried departure)
    (removed : run.removeStep s resource left channel retried departure = (next, t)) :
    Step setupRetry run s next t := by
  unfold removeStep at removed
  split at removed <;> rename_i answer
  · cases removed
    exact .removes phase answer
  · rename_i e _ _
    cases stale : e.isStaleChannel with
    | false =>
        simp only [stale, Bool.false_and, Bool.false_eq_true, if_false] at removed
        cases removed
        exact .givesUp phase answer (.inl stale)
    | true =>
        cases retried with
        | true =>
            simp only [stale, Bool.not_true, Bool.and_false, Bool.false_eq_true, if_false] at removed
            cases removed
            exact .givesUp phase answer (.inr rfl)
        | false =>
            simp only [stale, Bool.not_false, Bool.and_self, if_true] at removed
            cases removed
            exact .retries phase answer stale

private theorem step_of_pausing {until_ : Nat} (phase : run.phase = .pausing until_)
    (stepped : run.step setupRetry pick s = some (next, t)) : Step setupRetry run s next t := by
  simp only [step, phase] at stepped
  split at stepped
  · cases stepped
    exact .resumes phase (Stage.steady_control s _)
  · cases polled : s.pollControl .worker with
    | mk result after =>
        have steady := Stage.steady_pollControl polled
        rw [polled] at stepped
        cases result with
        | ready answer =>
            split at stepped <;> rename_i answered <;> cases answered <;> cases stepped <;>
              exact .resumes phase steady
        | pending =>
            simp only at stepped
            split at stepped
            · cases stepped
              exact .resumes phase (steady.trans (Stage.steady_control after _))
            · obtain ⟨waiting, awaited, same⟩ := Option.map_eq_some_iff.mp stepped
              cases same
              cases Stage.eq_of_awaiting awaited
              exact .waits phase steady

theorem step_of_step (stepped : run.step setupRetry pick s = some (next, t)) :
    Step setupRetry run s next t := by
  cases phase : run.phase with
  | opening left =>
      cases left with
      | nil =>
          simp only [step, phase] at stepped
          cases stepped
          exact .establishes phase
      | cons binding left =>
          simp only [step, phase] at stepped
          split at stepped <;> rename_i opened <;> cases stepped
          · exact .findsNoChannel phase opened
          · exact .opens phase opened
  | creating plan channel lacking left =>
      cases lacking with
      | nil =>
          simp only [step, phase] at stepped
          split at stepped <;> rename_i executed <;> cases stepped
          · exact .isRefused phase executed
          · exact .consumes phase executed
      | cons resource lacking =>
          simp only [step, phase] at stepped
          split at stepped <;> rename_i executed <;> cases stepped
          · exact .isRefused phase executed
          · exact .creates phase executed
  | reporting error =>
      simp only [step, phase] at stepped
      split at stepped <;> rename_i handed <;> cases stepped
      · exact .reports phase (.inr ⟨handed, rfl⟩)
      · exact .reports phase (.inl handed)
  | forwarding forward =>
      simp only [step, phase] at stepped
      split at stepped
      · cases stepped
      · rename_i present
        split at stepped <;> rename_i forwarded <;> cases stepped
        · exact .forwards phase present forwarded
        · exact .leaves phase present forwarded
  | removing left channel retried departure =>
      cases left with
      | nil =>
          simp only [step, phase] at stepped
          exact .departs phase (Option.some.inj stepped)
      | cons resource left =>
          simp only [step, phase] at stepped
          exact step_of_removeStep phase (Option.some.inj stepped)
  | pausing until_ => exact step_of_pausing phase stepped
  | stopping action =>
      simp only [step, phase] at stepped
      split at stepped <;> cases stepped
      rename_i ended
      exact .stops phase ended
  | finished action =>
      simp only [step, phase] at stepped
      cases stepped

theorem remove_cases {channel after : Option Channel} {resource : Resource}
    {result : Except BrokerError Unit} (removed : remove s channel resource = (result, after, t)) :
    (∃ e, channel = none ∧ s.openChannel = (.error e, t) ∧ result = .error e) ∨
    ∃ c left u, (channel = some c ∧ u = s ∨ channel = none ∧ s.openChannel = (.ok c, u)) ∧
      u.execute c resource.removal = (result, left, t) ∧ after = some left := by
  unfold remove at removed
  split at removed
  · rename_i c
    cases removed
    exact .inr ⟨c, _, s, .inl ⟨rfl, rfl⟩, rfl, rfl⟩
  · split at removed <;> rename_i opened <;> cases removed
    · exact .inl ⟨_, rfl, opened, rfl⟩
    · exact .inr ⟨_, _, _, .inr ⟨rfl, opened⟩, rfl, rfl⟩

end TapRun

end ExchangeTap
