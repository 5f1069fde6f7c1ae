import ExchangeTap.Proofs.FanIn.Held
import ExchangeTap.Proofs.Worker.Conduct
import ExchangeTap.Proofs.Worker.Idle
import ExchangeTap.Worker.Run

/-! The intake of a worker: the consumers whose deliveries it is to forward, the fan-in that carries
them together with the signals, and how far the epoch has come. Workers of different kinds take the
same course, which is given here move by move. -/

namespace ExchangeTap

inductive Standing where
  /-- The fan-in is still to come, unless the setup fails. -/
  | preparing
  | listening
  | forwarding (forward : Forward)
  /-- The forwarding is over, but the merge does not know yet. -/
  | leaving (action : Action)
  | stopping (action : Action)
  | returned (action : Action)

structure Intake where
  consumers : List Nat
  fanIn : Option (FanIn Item)
  standing : Standing

def TapPhase.standing : TapPhase → Standing
  | opening _ | creating _ _ _ _ | reporting _ | removing _ _ _ .pause => .preparing
  | pausing _ => .listening
  | forwarding forward => .forwarding forward
  | removing _ _ _ (.leave action) => .leaving action
  | stopping action => .stopping action
  | finished action => .returned action

def TapRun.intake (run : TapRun) : Intake :=
  ⟨run.consumers, run.fanIn, run.phase.standing⟩

def SubscribeRun.intake (run : SubscribeRun) : Intake :=
  match run.phase with
  | .opening | .consuming _ | .reporting _ => ⟨[], run.fanIn, .preparing⟩
  | .forwarding forward => ⟨run.consumers, run.fanIn, .forwarding forward⟩
  | .stopping action => ⟨run.consumers, run.fanIn, .stopping action⟩
  | .finished action => ⟨run.consumers, run.fanIn, .returned action⟩

def PublishRun.intake (run : PublishRun) : Intake :=
  match run.phase with
  | .opening | .ready _ | .reopening => ⟨[], none, .listening⟩
  | .finished action => ⟨[], none, .returned action⟩

def ScriptRun.intake (run : ScriptRun) : Intake :=
  match run.phase with
  | .starting | .waiting _ | .opening _ | .sleeping _ => ⟨[], none, .listening⟩
  | .finished action => ⟨[], none, .returned action⟩

namespace Run

def intake : Run → Intake
  | tap _ run => run.intake
  | subscribe _ run => run.intake
  | publish run => run.intake
  | script _ run => run.intake

/-- What a script does with the signals it takes is its own affair. -/
def isScript : Run → Bool
  | script _ _ => true
  | tap _ _ | subscribe _ _ | publish _ => false

end Run

namespace Worker

def isScript : Worker → Bool
  | script _ => true
  | tap _ _ | subscribe _ | publish => false

@[simp] theorem isScript_start (worker : Worker) (number : Nat) :
    (worker.start number).isScript = worker.isScript := by
  cases worker <;> rfl

end Worker

namespace Intake

def Fits (intake : Intake) : Prop :=
  match intake.standing with
  | .preparing | .listening => intake.fanIn = none
  | .forwarding _ | .leaving _ => ∃ f, intake.fanIn = some f
  | .stopping _ => ∃ f, intake.fanIn = some f ∧ f.stopRequested = true
  | .returned _ => True

def Grows (before after : Stage) (consumers later : List Nat) : Prop :=
  later = consumers ∨ later = consumers ++ [before.broker.consumers.length] ∧
    before.broker.consumers.length < after.broker.consumers.length

/-- What a step of the worker can do. -/
inductive Moves (s t : Stage) : Intake → Intake → Prop where
  | prepares (grows : Grows s t own later) (idle : s.Idle t) :
      Moves s t ⟨own, none, .preparing⟩ ⟨later, none, .preparing⟩
  | begins (grows : Grows s t own later) (idle : s.Idle t) :
      Moves s t ⟨own, none, .preparing⟩
        ⟨later, some (.start (later.length + 1)), .forwarding .waiting⟩
  | withdraws (unhearing : s.Unhearing t) :
      Moves s t ⟨own, none, .preparing⟩ ⟨own, none, .listening⟩
  | fails (mute : s.Mute t) :
      Moves s t ⟨own, none, .preparing⟩ ⟨later, none, .returned action⟩
  | rests (unhearing : s.Unhearing t) :
      Moves s t ⟨own, none, .listening⟩ ⟨own, none, .listening⟩
  | hears (mute : s.Mute t) :
      Moves s t ⟨own, none, .listening⟩ ⟨own, none, .returned action⟩
  | forwards (stepped : forward.step f s = some (.continue next, g, t)) :
      Moves s t ⟨own, some f, .forwarding forward⟩ ⟨own, some g, .forwarding next⟩
  | leaves (stepped : forward.step f s = some (.leave action, g, t)) :
      Moves s t ⟨own, some f, .forwarding forward⟩ ⟨own, some g, .leaving action⟩
  | quits (stepped : forward.step f s = some (.leave action, g, t)) :
      Moves s t ⟨own, some f, .forwarding forward⟩
        ⟨own, some g.stop, .stopping action⟩
  | winds (idle : s.Idle t) :
      Moves s t ⟨own, some f, .leaving action⟩ ⟨own, some f, .leaving action⟩
  | stops (idle : s.Idle t) :
      Moves s t ⟨own, some f, .leaving action⟩ ⟨own, some f.stop, .stopping action⟩
  | concludes (idle : s.Idle t) :
      Moves s t ⟨own, some f, .stopping action⟩ ⟨own, some f, .returned action⟩

theorem Fits.merged {intake : Intake} {f g : FanIn Item} (fits : intake.Fits)
    (present : intake.fanIn = some f) (same : g.stopRequested = f.stopRequested) :
    Fits { intake with fanIn := some g } := by
  obtain ⟨consumers, fanIn, standing⟩ := intake
  cases present
  cases standing with
  | preparing | listening => cases fits
  | forwarding | leaving => exact ⟨g, rfl⟩
  | stopping =>
      obtain ⟨_, present, stopped⟩ := fits
      cases present
      exact ⟨g, rfl, same.trans stopped⟩
  | returned => exact trivial

theorem Moves.fits {s t : Stage} {intake after : Intake} (moves : intake.Moves s t after) :
    after.Fits := by
  cases moves with
  | prepares | withdraws | rests => exact rfl
  | begins | forwards | leaves | winds => exact ⟨_, rfl⟩
  | quits | stops => exact ⟨_, rfl, rfl⟩
  | fails | hears | concludes => exact trivial

end Intake

private theorem Stage.consumers_of_consume {s t : Stage} {channel after : Channel} {queue tag : String}
    (executed : s.execute channel (.consume queue tag) = (.ok (), after, t)) :
    s.broker.consumers.length < t.broker.consumers.length := by
  unfold Stage.execute at executed
  split at executed
  · cases executed
  · simp only [Broker.execute] at executed
    split at executed <;> cases executed
    simp [Broker.apply]

namespace TapRun

variable {run next : TapRun} {s t : Stage}

private theorem idle_remove {channel after : Option Channel} {resource : Resource}
    {result : Except BrokerError Unit}
    (removed : remove s channel resource = (result, after, t)) : s.Idle t := by
  unfold remove at removed
  split at removed
  · cases removed
    exact Stage.idle_execute rfl
  · split at removed <;> rename_i opened
    · cases removed
      exact Stage.idle_openChannel opened
    · cases removed
      exact (Stage.idle_openChannel opened).trans (Stage.idle_execute rfl)

private theorem idle_removeStep {resource : Resource} {left : List Resource} {channel : Option Channel}
    {retried : Bool} {departure : Departure}
    (removed : run.removeStep s resource left channel retried departure = (next, t)) :
    s.Idle t ∧ ∃ left channel retried,
      next = { run with phase := .removing left channel retried departure } := by
  unfold removeStep at removed
  split at removed
  · rename_i answer
    cases removed
    exact ⟨(idle_remove answer).trans (Stage.idle_log _ _), _, _, _, rfl⟩
  · rename_i answer
    split at removed <;> cases removed <;>
      exact ⟨(idle_remove answer).trans (Stage.idle_log _ _), _, _, _, rfl⟩

private theorem intake_opening {setupRetry : Nat} {pick : Pick} {left : List Binding}
    {ledger : List Resource} {consumers : List Nat} {channels : List Channel}
    (stepped : step setupRetry pick ⟨.opening left, ledger, consumers, none, channels⟩ s =
      some (next, t)) :
    Intake.Moves s t ⟨consumers, none, .preparing⟩ next.intake := by
  cases left with
  | nil =>
      cases stepped
      exact .begins (.inl rfl) (Stage.idle_log s _)
  | cons binding left =>
      simp only [step] at stepped
      split at stepped <;> rename_i opened <;> cases stepped
      · exact .prepares (.inl rfl) ((Stage.idle_openChannel opened).trans (Stage.idle_log _ _))
      · exact .prepares (.inl rfl) ((Stage.idle_openChannel opened).trans (Stage.idle_mint _))

private theorem intake_creating {setupRetry : Nat} {pick : Pick} {plan : TapPlan} {channel : Channel}
    {lacking ledger : List Resource} {left : List Binding} {consumers : List Nat}
    {channels : List Channel}
    (stepped : step setupRetry pick
      ⟨.creating plan channel lacking left, ledger, consumers, none, channels⟩ s = some (next, t)) :
    Intake.Moves s t ⟨consumers, none, .preparing⟩ next.intake := by
  cases lacking with
  | nil =>
      simp only [step] at stepped
      split at stepped <;> rename_i executed <;> cases stepped
      · exact .prepares (.inl rfl) ((Stage.idle_execute executed).trans (Stage.idle_log _ _))
      · have added := Stage.consumers_of_consume executed
        exact .prepares (.inr ⟨rfl, added⟩)
          ((Stage.idle_execute executed).trans (Stage.idle_log _ _))
  | cons resource lacking =>
      simp only [step] at stepped
      split at stepped <;> rename_i executed <;> cases stepped
      · exact .prepares (.inl rfl) ((Stage.idle_execute executed).trans (Stage.idle_log _ _))
      · exact .prepares (.inl rfl) (Stage.idle_execute executed)

private theorem intake_pausing {setupRetry until_ : Nat} {pick : Pick} {ledger : List Resource}
    {consumers : List Nat} {channels : List Channel}
    (stepped : step setupRetry pick ⟨.pausing until_, ledger, consumers, none, channels⟩ s =
      some (next, t)) :
    Intake.Moves s t ⟨consumers, none, .listening⟩ next.intake := by
  simp only [step] at stepped
  split at stepped
  · cases stepped
    exact .hears (Stage.idle_control s _).toMute
  · split at stepped <;> rename_i polled
    · cases stepped
      exact .hears (Stage.mute_pollControl polled)
    · cases stepped
      exact .hears (Stage.mute_pollControl polled)
    · have waited := Stage.idle_pollControl polled
      split at stepped
      · cases stepped
        exact .hears (waited.trans (Stage.idle_control _ _)).toMute
      · obtain ⟨stage, awaited, same⟩ := Option.map_eq_some_iff.mp stepped
        cases same
        cases Stage.eq_of_awaiting awaited
        exact .rests waited.toUnhearing

theorem intake_step {setupRetry : Nat} {pick : Pick} (fits : run.intake.Fits)
    (stepped : run.step setupRetry pick s = some (next, t)) :
    run.intake.Moves s t next.intake := by
  obtain ⟨phase, ledger, consumers, fanIn, channels⟩ := run
  cases phase with
  | opening left =>
      cases fits
      exact intake_opening stepped
  | creating plan channel lacking left =>
      cases fits
      exact intake_creating stepped
  | reporting error =>
      cases fits
      simp only [step] at stepped
      split at stepped <;> rename_i handed <;> cases stepped
      · exact .prepares (.inl rfl) (.refl _)
      · exact .prepares (.inl rfl) (Stage.idle_hand handed)
  | forwarding forward =>
      obtain ⟨f, rfl⟩ := fits
      simp only [step] at stepped
      split at stepped <;> rename_i forwarded <;> cases stepped
      · exact .forwards forwarded
      · exact .leaves forwarded
  | removing left channel retried departure =>
      cases left with
      | cons resource left =>
          obtain ⟨idle, _, _, _, rfl⟩ := idle_removeStep (Option.some.inj stepped)
          cases departure with
          | pause =>
              cases fits
              exact .prepares (.inl rfl) idle
          | leave action =>
              obtain ⟨f, rfl⟩ := fits
              exact .winds idle
      | nil =>
          cases departure with
          | pause =>
              cases fits
              cases stepped
              exact .withdraws (Stage.unhearing_stopReadings s consumers)
          | leave action =>
              obtain ⟨f, rfl⟩ := fits
              cases stepped
              exact .stops (.refl _)
  | pausing until_ =>
      cases fits
      exact intake_pausing stepped
  | stopping action =>
      obtain ⟨f, rfl, _⟩ := fits
      simp only [step] at stepped
      split at stepped <;> cases stepped
      exact .concludes (.refl _)
  | finished action => cases stepped

end TapRun

namespace SubscribeRun

variable {run next : SubscribeRun} {s t : Stage}

private theorem intake_refused {queue : String} {e : BrokerError} {phase : SubscribePhase}
    {consumers : List Nat} {after : Stage} (idle : s.Idle after)
    (refused : refused ⟨phase, consumers, none⟩ queue e after = (next, t)) :
    Intake.Moves s t ⟨[], none, .preparing⟩ next.intake := by
  unfold SubscribeRun.refused at refused
  split at refused <;> cases refused
  · exact .fails (idle.trans (Stage.idle_log _ _)).toMute
  · exact .prepares (.inl rfl) (idle.trans (Stage.idle_log _ _))

theorem intake_step {queue : String} (fits : run.intake.Fits)
    (stepped : run.step queue s = some (next, t)) : run.intake.Moves s t next.intake := by
  obtain ⟨phase, consumers, fanIn⟩ := run
  cases phase with
  | opening =>
      cases fits
      simp only [step] at stepped
      split at stepped <;> rename_i opened <;> cases stepped
      · exact .fails ((Stage.idle_openChannel opened).trans (Stage.idle_log _ _)).toMute
      · exact .prepares (.inl rfl) (Stage.idle_openChannel opened)
  | consuming channel =>
      cases fits
      simp only [step] at stepped
      split at stepped <;> rename_i executed <;>
        have idle := (Stage.idle_mint s).trans (Stage.idle_execute executed)
      · exact intake_refused idle (Option.some.inj stepped)
      · have added := Stage.consumers_of_consume executed
        cases stepped
        exact .begins (.inr ⟨rfl, added⟩) (idle.trans (Stage.idle_log _ _))
  | reporting error =>
      cases fits
      simp only [step] at stepped
      split at stepped <;> rename_i handed <;> cases stepped
      · exact .fails (Stage.Idle.refl _).toMute
      · exact .fails (Stage.idle_hand handed).toMute
  | forwarding forward =>
      obtain ⟨f, rfl⟩ := fits
      simp only [step] at stepped
      split at stepped <;> rename_i forwarded <;> cases stepped
      · exact .forwards forwarded
      · exact .quits forwarded
  | stopping action =>
      obtain ⟨f, rfl, _⟩ := fits
      simp only [step] at stepped
      split at stepped <;> cases stepped
      exact .concludes (.refl _)
  | finished action => cases stepped

end SubscribeRun

namespace PublishRun

variable {run next : PublishRun} {s t : Stage}

private theorem intake_publish {channel : Channel} {message : Outbound} {after : Stage}
    (idle : s.Idle after) (published : publish channel message after = (next, t)) :
    Intake.Moves s t ⟨[], none, .listening⟩ next.intake := by
  unfold publish at published
  split at published <;> rename_i executed <;> cases published
  · exact .rests (idle.trans (Stage.idle_execute executed)).toUnhearing
  · exact .rests
      (idle.trans ((Stage.idle_execute executed).trans (Stage.idle_log _ _))).toUnhearing

private theorem intake_ready {channel : Channel} (stepped : step ⟨.ready channel⟩ s = some (next, t)) :
    Intake.Moves s t ⟨[], none, .listening⟩ next.intake := by
  simp only [step] at stepped
  split at stepped <;> rename_i polled
  · cases stepped
    exact .hears (Stage.mute_pollControl polled)
  · cases stepped
    exact .hears (Stage.mute_pollControl polled)
  · have waited := Stage.idle_pollControl polled
    split at stepped
    · rename_i message feed _
      refine intake_publish ?_ (Option.some.inj stepped)
      exact waited.trans ((Stage.idle_feed _ feed).trans (Stage.idle_control _ _))
    · cases stepped
      exact .hears (waited.trans ((Stage.idle_control _ _).trans (Stage.idle_log _ _))).toMute
    · obtain ⟨stage, awaited, same⟩ := Option.map_eq_some_iff.mp stepped
      cases same
      cases Stage.eq_of_awaiting awaited
      exact .rests waited.toUnhearing

theorem intake_step (stepped : run.step s = some (next, t)) :
    run.intake.Moves s t next.intake := by
  obtain ⟨phase⟩ := run
  cases phase with
  | opening =>
      simp only [step] at stepped
      split at stepped <;> rename_i opened <;> cases stepped <;>
        have idle := (Stage.idle_openChannel opened)
      · exact .hears (idle.trans (Stage.idle_log _ _)).toMute
      · exact .rests (idle.trans (Stage.idle_log _ _)).toUnhearing
  | reopening =>
      simp only [step] at stepped
      split at stepped <;> rename_i opened <;> cases stepped <;>
        have idle := (Stage.idle_openChannel opened)
      · exact .hears (idle.trans (Stage.idle_log _ _)).toMute
      · exact .rests idle.toUnhearing
  | ready channel => exact intake_ready stepped
  | finished action => cases stepped

end PublishRun

namespace Run

variable {run next : Run} {s t : Stage}

theorem fits_start (worker : Worker) (number : Nat) : (worker.start number).intake.Fits := by
  cases worker <;> rfl

theorem intake_step {pick : Pick} (unscripted : run.isScript = false) (fits : run.intake.Fits)
    (stepped : run.step pick s = some (next, t)) :
    next.isScript = false ∧ run.intake.Moves s t next.intake := by
  cases run with
  | tap setupRetry run =>
      obtain ⟨⟨after, stage⟩, moved, same⟩ := Option.map_eq_some_iff.mp stepped
      cases same
      exact ⟨rfl, TapRun.intake_step fits moved⟩
  | subscribe queue run =>
      obtain ⟨⟨after, stage⟩, moved, same⟩ := Option.map_eq_some_iff.mp stepped
      cases same
      exact ⟨rfl, SubscribeRun.intake_step fits moved⟩
  | publish run =>
      obtain ⟨⟨after, stage⟩, moved, same⟩ := Option.map_eq_some_iff.mp stepped
      cases same
      exact ⟨rfl, PublishRun.intake_step moved⟩
  | script epoch run => cases unscripted

theorem intake_mergeStep (unscripted : run.isScript = false) (fits : run.intake.Fits)
    (stepped : run.mergeStep s = some (next, t)) :
    next.isScript = false ∧ ∃ f g, run.intake.fanIn = some f ∧
      f.advance (Item.inputs run.intake.consumers) s = some (g, t) ∧
      next.intake = { run.intake with fanIn := some g } := by
  cases run with
  | tap setupRetry run =>
      obtain ⟨f, present, advancing⟩ := Option.bind_eq_some_iff.mp stepped
      obtain ⟨⟨g, stage⟩, advanced, same⟩ := Option.map_eq_some_iff.mp advancing
      cases same
      exact ⟨rfl, f, g, present, advanced, rfl⟩
  | subscribe queue run =>
      obtain ⟨f, present, advancing⟩ := Option.bind_eq_some_iff.mp stepped
      obtain ⟨⟨g, stage⟩, advanced, same⟩ := Option.map_eq_some_iff.mp advancing
      cases same
      obtain ⟨phase, consumers, fanIn⟩ := run
      cases present
      cases phase with
      | opening | consuming channel | reporting error => cases fits
      | forwarding | stopping | finished => exact ⟨rfl, f, g, rfl, advanced, rfl⟩
  | publish run => cases stepped
  | script epoch run => cases unscripted

theorem fits_mergeStep (unscripted : run.isScript = false) (fits : run.intake.Fits)
    (stepped : run.mergeStep s = some (next, t)) : next.intake.Fits := by
  obtain ⟨_, f, g, present, advanced, same⟩ := intake_mergeStep unscripted fits stepped
  rw [same]
  exact fits.merged present (FanIn.stopRequested_advance advanced)

theorem result?_of_intake : run.result? =
    match run.intake.standing with
    | .returned action => some action
    | _ => none := by
  cases run with
  | tap setupRetry run =>
      obtain ⟨phase, ledger, consumers, fanIn, channels⟩ := run
      cases phase with
      | removing left channel retried departure => cases departure <;> rfl
      | _ => rfl
  | subscribe queue run =>
      obtain ⟨phase, consumers, fanIn⟩ := run
      cases phase <;> rfl
  | publish run =>
      obtain ⟨phase⟩ := run
      cases phase <;> rfl
  | script epoch run =>
      obtain ⟨phase⟩ := run
      cases phase <;> rfl

theorem standing_of_result? {action : Action} (returned : run.result? = some action) :
    run.intake.standing = .returned action := by
  rw [result?_of_intake] at returned
  split at returned <;> cases returned
  assumption

end Run

end ExchangeTap
