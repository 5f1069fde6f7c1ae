import ExchangeTap.Proofs.Supervision.Attention
import ExchangeTap.Proofs.Supervision.Closing
import ExchangeTap.Proofs.Supervision.Shutdown

/-! Whatever a supervisor is at when it is asked to close, it finds the shutdown: in the slot while
it looks for a connection, on its way to the worker during an epoch. So as long as nobody is held up
by a full output it goes on until it has ended. -/

namespace ExchangeTap

theorem Forward.receiving_of_step {forward : Forward} {f g : FanIn Item} {s t : Stage}
    {outcome : Outcome} (stepped : forward.step f s = some (outcome, g, t)) :
    t.output.receiving = s.output.receiving := by
  cases forward with
  | waiting =>
      simp only [step] at stepped
      split at stepped <;> cases stepped
      · rfl
      · rw [output_accept]
  | sending input delivery =>
      simp only [step] at stepped
      split at stepped <;> rename_i handed <;> cases stepped
      · rfl
      · unfold Stage.hand at handed
        split at handed <;> rename_i sent <;> cases handed
        exact Pipe.receiving_of_send sent

theorem Intake.Moves.receiving {intake after : Intake} {s t : Stage}
    (moves : intake.Moves s t after) : t.output.receiving = s.output.receiving := by
  cases moves with
  | prepares _ idle | begins _ idle | winds idle | stops idle | concludes idle =>
      exact idle.receiving
  | withdraws unhearing | rests unhearing => exact unhearing.receiving
  | fails mute | hears mute => exact mute.receiving
  | forwards stepped | leaves stepped | quits stepped => exact Forward.receiving_of_step stepped

private theorem Stage.output_pollControl {r : Reader} {result : Poll (Option Signal)} {s t : Stage}
    (polled : s.pollControl r = (result, t)) : t.output = s.output := by
  rcases pollControl_eq polled with ⟨_, _, _, rfl⟩ | ⟨_, _, rfl⟩ <;> rfl

private theorem FanIn.output_of_advance {f g : FanIn Item} {consumers : List Nat} {s t : Stage}
    (advanced : f.advance (Item.inputs consumers) s = some (g, t)) : t.output = s.output := by
  refine advance_keeps (P := fun t : Stage => t.output = s.output) ?_ ?_ rfl advanced
  · intro before after input glance same looked
    cases Item.look_cases looked with
    | reads | waits | misses => exact same
    | hears _ polled | listens _ polled | ends _ polled =>
        exact (Stage.output_pollControl polled).trans same
  · intro before input same
    simp only [Item.inputs]
    split <;> exact same

namespace Supervised

variable {s t : Supervised} {act : Act}

@[simp] private theorem output_close (s : Supervised) (action : Action) :
    (s.close action).stage.output = s.stage.output := by
  obtain ⟨_, _, closed⟩ := stage_close s action
  rw [closed]

theorem receiving_of_step {pick : Pick} {task : Task} (guarded : s.Guarded)
    (attentive : s.Attentive) (stepped : s.step pick task = some t) :
    t.stage.output.receiving = s.stage.output.receiving := by
  have performed : perform (.task pick task) s = some t := stepped
  cases move_of_perform guarded performed with
  | works phase unfinished =>
      obtain ⟨unscripted, fits, _⟩ := attentive.listens _ phase
      have moved := step_of_works phase unfinished performed
      exact (Run.intake_step unscripted fits moved).2.receiving
  | merges phase =>
      obtain ⟨unscripted, fits, _⟩ := attentive.listens _ phase
      obtain ⟨_, f, g, _, advanced, _⟩ :=
        Run.intake_mergeStep unscripted fits (step_of_merges phase performed)
      rw [FanIn.output_of_advance advanced]
  | quits phase | redials phase =>
      rw [← close_of_perform phase performed, output_close]
  | _ => rfl

theorem closers_of_step {pick : Pick} {task : Task} (guarded : s.Guarded)
    (uncalled : s.closers = []) (stepped : s.step pick task = some t) : t.closers = [] := by
  have performed : perform (.task pick task) s = some t := stepped
  cases move_of_perform guarded performed with
  | givesUp waits | delivers waits | finishes waits => simp [uncalled] at waits
  | _ => exact uncalled

theorem begun_of_move (begun : s.phase ≠ .idle) (move : Move s act t) : t.phase ≠ .idle := by
  cases move with
  | calls call => cases call <;> exact begun
  | sleeps | dismisses | reports | concedes | givesUp | delivers | finishes | world => exact begun
  | _ => exact nofun

/-- The shutdown has been sent to the running epoch, or somebody still waits to send it. -/
def Pressed (s : Supervised) : Prop :=
  .shutdown ∈ Journal.sent s.epoch ∨ 0 < s.closers.countP Closer.isSending

private theorem pressed_of_sent (epoch : Journal.sent t.epoch = Journal.sent s.epoch ++ [.shutdown]) :
    t.Pressed := by
  refine .inl ?_
  rw [epoch]
  exact List.mem_append_right _ List.mem_cons_self

theorem Pressed.keep (pressed : s.Pressed) (move : Move s act t) (same : t.epochs = s.epochs)
    (closers : s.closers.countP Closer.isSending ≤ t.closers.countP Closer.isSending) :
    t.Pressed := by
  refine pressed.imp (fun sent => ?_) fun waits => Nat.lt_of_lt_of_le waits closers
  obtain ⟨events, _, epoch⟩ := epoch_of_tells (tells_of_move move same)
  rw [epoch, Journal.sent_append]
  exact List.mem_append_left _ sent

private theorem unended_of_working (phased : s.Phased) (working : s.phase.isWorking = true) :
    s.outcome = none := by
  have unended : s.phase.isEnded = false := by
    cases phase : s.phase <;> rw [phase] at working <;> first | rfl | cases working
  rw [← phased.concluded] at unended
  simpa using unended

private theorem pressed_of_move (sound : s.Sound)
    (pressed : s.shutdownRequested = true → s.phase.isWorking = true → s.Pressed)
    (move : Move s act t) (requested : t.shutdownRequested = true)
    (working : t.phase.isWorking = true) : t.Pressed := by
  have before := isWorking_of_move move
  have keep := fun pressed : s.Pressed => pressed.keep move
  have unended := unended_of_working sound.phased
  cases move with
  | connects phase empty =>
      -- the slot would hold the shutdown, and an epoch begins with an empty slot only
      have pending := sound.signalling.listening (by rw [phase]; rfl)
      rw [empty, show s.shutdownRequested = true from requested] at pending
      cases pending
  | calls call =>
      cases call with
      | refuses | follows =>
          refine keep (pressed requested working) rfl ?_
          rw [List.countP_append]
          exact Nat.le_add_right _ _
      | comesLate _ _ concluded => rw [unended working] at concluded; cases concluded
      | sends =>
          refine pressed_of_sent (s := s) ?_
          simp [epoch, Stage.put, Event.startsEpoch, Event.sent?]
      | queues => exact .inr (by simp [Closer.isSending])
  | delivers waits =>
      refine pressed_of_sent (s := s) ?_
      simp [epoch, Stage.put, Stage.reserve, Event.startsEpoch, Event.sent?]
  | givesUp _ concluded => rw [unended working] at concluded; cases concluded
  | finishes waits =>
      refine keep (pressed requested working) rfl ?_
      exact Nat.le_of_eq (countP_set_closers waits (.finished _) Closer.isSending).symm
  | _ => exact keep (pressed requested (before rfl working)) rfl (Nat.le_refl _)

/-- What is known of a supervisor from the moment it is connected, whatever is done with it. -/
structure Managed (s : Supervised) : Prop where
  sound : s.Sound
  epochal : s.Epochal
  attentive : s.Attentive
  accounted : s.Accounted
  begun : s.phase ≠ .idle
  pressed : s.shutdownRequested = true → s.phase.isWorking = true → s.Pressed

theorem managed_connect {worker : Worker} (unscripted : worker.isScript = false)
    (retryDelay : Nat) (broker : Broker) (capacity : Nat) (suffix : Nat → String) :
    (fresh worker retryDelay broker capacity suffix).connect.2.Managed := by
  have performed : perform .connect (fresh worker retryDelay broker capacity suffix) =
      some (fresh worker retryDelay broker capacity suffix).connect.2 := rfl
  have sound := sound_fresh worker retryDelay broker capacity suffix
  have move := move_of_perform sound.guarded performed
  refine ⟨sound.move move, Epochal.move (epochal_of_empty rfl rfl) move,
    (attentive_fresh unscripted retryDelay broker capacity suffix).perform sound.guarded performed,
    (accounted_fresh worker retryDelay broker capacity suffix).perform sound.guarded performed,
    ?_, ?_⟩
  · exact fun idle => nomatch idle
  · exact fun _ working => nomatch working

theorem Managed.perform (managed : s.Managed) (performed : perform act s = some t) :
    t.Managed := by
  have guarded := managed.sound.guarded
  have move := move_of_perform guarded performed
  exact ⟨managed.sound.move move, managed.epochal.move move,
    managed.attentive.perform guarded performed, managed.accounted.perform guarded performed,
    begun_of_move managed.begun move, pressed_of_move managed.sound managed.pressed move⟩

def place (s : Supervised) (output : Pipe (Envelope Received)) (now : Nat) : Supervised :=
  { s with stage := { s.stage with output := output, now := now } }

theorem Managed.place (managed : s.Managed) (output : Pipe (Envelope Received)) (now : Nat) :
    (s.place output now).Managed := by
  obtain ⟨⟨guarded, phased, signalling, recorded⟩, epochal, attentive, accounted, begun, pressed⟩ :=
    managed
  exact ⟨⟨⟨guarded.lock, guarded.senderAlive⟩,
      ⟨phased.watched, phased.concluded, phased.attached, phased.requested⟩,
      ⟨signalling.listening, signalling.unrequested, signalling.single⟩,
      ⟨recorded.known, recorded.counted⟩⟩,
    ⟨epochal.balance, epochal.once, epochal.unreported, epochal.causal⟩,
    ⟨attentive.unscripted, attentive.listens⟩,
    ⟨accounted.connected, accounted.begun, accounted.closed, accounted.ended⟩, begun, pressed⟩

/-! A supervisor that has to end, and cannot be held up by its output. -/

private theorem goes_on_of_sending {index : Nat} (waits : s.closers[index]? = some .sending)
    (empty : s.stage.control.slot = none) (unended : s.outcome = none) :
    (s.step .first (.closer index)).isSome = true := by
  simp [step, closerStep, waits, unended, empty, Stage.offer, ControlPath.offer]

private theorem unblocked_of_closed {run : Run} {stage : Stage} (closed : stage.output.receiving = false) :
    ¬ run.Blocked stage := by
  rintro ⟨envelope, _, full⟩
  simp [Pipe.send, closed] at full

private theorem closer_of_stuck (settled : s.advance = none) {index : Nat}
    (inside : index < s.closers.length) : s.step .first (.closer index) = none := by
  have stuck := List.findSome?_eq_none_iff.mp settled
  exact stuck (.closer index) (by simp [tasks, inside])

private theorem Managed.moving {run : Run} (managed : s.Managed) (requested : s.shutdownRequested = true)
    (closed : s.stage.output.receiving = false) (phase : s.phase = .working run) :
    s.advance ≠ none := by
  intro settled
  obtain ⟨main, merge, _⟩ := stuck_of_settled settled
  obtain ⟨unfinished, stuck⟩ := unfinished_of_stuck phase main
  obtain ⟨unscripted, fits, heeding⟩ := managed.attentive.listens run phase
  have lock := managed.sound.guarded.lock
  rw [phase] at lock
  obtain ⟨empty, untaken⟩ := (Run.silent_of_stuck unscripted fits lock heeding unfinished stuck
    (merge_of_stuck phase merge)).resolve_left (unblocked_of_closed closed)
  have working : s.phase.isWorking = true := by rw [phase]; rfl
  -- nothing was sent, so somebody still waits for the slot, which is empty
  rcases managed.pressed requested working with sent | waiting
  · rw [← managed.epochal.balance, untaken, empty] at sent
    cases sent
  · obtain ⟨closer, member, sending⟩ := List.countP_pos_iff.mp waiting
    obtain ⟨index, inside, found⟩ := List.getElem_of_mem member
    cases closer with
    | sending =>
        have goes := goes_on_of_sending (List.getElem?_eq_some_iff.mpr ⟨inside, found⟩) empty
          (unended_of_working managed.sound.phased working)
        rw [closer_of_stuck settled inside] at goes
        cases goes
    | waiting | finished => cases sending

private theorem listening_goes_on (pick : Pick) (guarded : s.Guarded) (listens : s.phase.isListening = true)
    (pending : s.stage.control.slot = some .shutdown) : (s.mainStep pick).isSome = true := by
  have lock := guarded.lock
  unfold mainStep
  cases phase : s.phase with
  | dialing | retrying =>
      rw [phase] at lock
      simp only
      rw [listen_of_shutdown lock pending]
      rfl
  | _ =>
      rw [phase] at listens
      cases listens

private theorem ended_of_returned (returned : s.hasReturned = true) (settled : s.advance = none) :
    s.phase.isEnded = true := by
  obtain ⟨main, _, watcher⟩ := stuck_of_settled settled
  refine (own_step_of_returned returned).resolve_right fun goes => ?_
  have either := goes .first
  rw [main, watcher] at either
  simp at either

private theorem Managed.ended_of_settled (managed : s.Managed) (requested : s.shutdownRequested = true)
    (closed : s.stage.output.receiving = false) (settled : s.advance = none) :
    s.phase.isEnded = true := by
  have main : s.mainStep .first = none := (stuck_of_settled settled).1
  have returned := fun returned => ended_of_returned (s := s) returned settled
  cases phase : s.phase with
  | idle => exact absurd phase managed.begun
  | draining => simp [mainStep, phase] at main
  | dialing | retrying =>
      -- the shutdown is in the slot, where the supervisor hears it
      have listens : s.phase.isListening = true := by rw [phase]; rfl
      have pending := managed.sound.signalling.listening listens
      rw [requested] at pending
      have goes := listening_goes_on .first managed.sound.guarded listens pending
      rw [main] at goes
      cases goes
  | working run => exact absurd settled (managed.moving requested closed phase)
  | joining | closing =>
      rw [← phase]
      exact returned (by simp [hasReturned, phase])
  | ended => rfl

theorem Managed.answered_of_settled (managed : s.Managed) (requested : s.shutdownRequested = true)
    (closed : s.stage.output.receiving = false) (settled : s.advance = none) {index : Nat}
    {closer : Closer} (found : s.closers[index]? = some closer) :
    ∃ result, closer = .finished result := by
  have ended := managed.ended_of_settled requested closed settled
  rw [← managed.sound.phased.concluded] at ended
  refine (closerStep_of_outcome ended found).resolve_right fun goes => ?_
  have stuck := closer_of_stuck settled (List.getElem?_eq_some_iff.mp found).1
  have moves := goes .first
  rw [stuck] at moves
  cases moves

end Supervised

end ExchangeTap
