import ExchangeTap.Proofs.Supervision.Signalling
import ExchangeTap.Proofs.Supervision.Steps

namespace ExchangeTap.Supervised

/-- What a supervisor knows of itself is what its journal tells. -/
structure Recorded (s : Supervised) : Prop where
  known : s.everConnected = true ↔ .dialSucceeded ∈ s.stage.journal
  counted : s.epochs = Journal.epochsStarted s.stage.journal

variable {s t : Supervised}

theorem Recorded.inner (recorded : s.Recorded) (known : t.everConnected = s.everConnected)
    (counted : t.epochs = s.epochs) (inner : s.stage.Tells (·.connects = false) t.stage) :
    t.Recorded := by
  refine ⟨?_, ?_⟩
  · rw [known, inner.dialSucceeded]
    exact recorded.known
  · rw [counted, inner.epochsStarted]
    exact recorded.counted

theorem Recorded.move {act : Act} (recorded : s.Recorded) (move : Move s act t) : t.Recorded := by
  cases move with
  | begins | joins | sleeps | retries | dismisses | givesUp | finishes =>
      exact recorded.inner rfl rfl (.refl _)
  | hearsReconnect => exact recorded.inner rfl rfl (Stage.tells_hear _ rfl)
  | hearsShutdown =>
      exact recorded.inner rfl rfl (.trans (Stage.tells_hear _ rfl) (Stage.tells_log _ rfl))
  | remembers => exact recorded.inner rfl rfl (Stage.tells_log _ rfl)
  | fails => exact recorded.inner rfl rfl (Stage.tells_log { s.stage with broker := _ } rfl)
  | returns => exact recorded.inner rfl rfl (Stage.tells_record _ rfl)
  | concedes =>
      exact recorded.inner rfl rfl (.trans (Stage.tells_log _ rfl) (Stage.tells_log _ rfl))
  | reports =>
      exact recorded.inner rfl rfl (.trans (Stage.tells_log _ rfl) (Stage.tells_put _ rfl))
  | delivers => exact recorded.inner rfl rfl (Stage.tells_put s.stage rfl)
  | works phase _ worked | merges phase _ worked => exact recorded.inner rfl rfl worked.connects
  | quits phase final aside | redials phase _ aside =>
      exact recorded.inner rfl rfl aside.connects
  | calls call => exact recorded.inner call.counted.1 call.counted.2 call.connects
  | world change =>
      exact recorded.inner rfl rfl (Stage.tells_of_journal (s.stage.undergo_journal change))
  | dials =>
      refine ⟨?_, ?_⟩
      · simp [Stage.beginDial, Stage.await, recorded.known]
      · simp [Stage.beginDial, Stage.await, Event.startsEpoch, recorded.counted]
  | connects =>
      refine ⟨⟨fun _ => ?_, fun _ => rfl⟩, ?_⟩
      · simp [beginEpoch]
      · simp [beginEpoch, Stage.unlock, Event.startsEpoch, recorded.counted]

structure Sound (s : Supervised) : Prop where
  guarded : s.Guarded
  phased : s.Phased
  signalling : s.Signalling
  recorded : s.Recorded

theorem sound_fresh (worker : Worker) (retryDelay : Nat) (broker : Broker) (capacity : Nat)
    (suffix : Nat → String) : (fresh worker retryDelay broker capacity suffix).Sound :=
  ⟨guarded_fresh worker retryDelay broker capacity suffix,
    phased_fresh worker retryDelay broker capacity suffix,
    signalling_fresh worker retryDelay broker capacity suffix,
    ⟨⟨fun same => (nomatch same), fun member => (nomatch member)⟩, rfl⟩⟩

theorem Sound.move {act : Act} (sound : s.Sound) (move : Move s act t) : t.Sound :=
  ⟨sound.guarded.move move, sound.phased.move move,
    Signalling.move sound.phased sound.signalling move, sound.recorded.move move⟩

private theorem Sound.of_perform {act : Act} (sound : s.Sound) (performed : perform act s = some t) :
    t.Sound :=
  sound.move (move_of_perform sound.guarded performed)

theorem Sound.of_play {acts : List Act} (sound : s.Sound)
    (played : play perform acts s = some t) : t.Sound :=
  play_preserves Sound.of_perform sound played

end ExchangeTap.Supervised
