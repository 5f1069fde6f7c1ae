import ExchangeTap.Proofs.Supervision.Sound

namespace ExchangeTap

/-- The step of a task without which the supervisor cannot end. -/
def Act.isOwn : Act → Bool
  | task _ .main | task _ .watcher => true
  | _ => false

def SupervisorPhase.remaining : SupervisorPhase → Nat
  | working _ => 3
  | joining _ => 2
  | closing _ => 1
  | _ => 0

namespace Supervised

variable {s t u : Supervised}

/-- Nothing more is dialed, no more epochs begin, and the supervisor does not look for a connection
again. -/
structure Winds (s t : Supervised) : Prop where
  requested : t.shutdownRequested = true
  dials : Journal.dialsAttempted t.stage.journal = Journal.dialsAttempted s.stage.journal
  epochs : Journal.epochsStarted t.stage.journal = Journal.epochsStarted s.stage.journal
  stays : s.phase.isConnected = true ∨ s.phase.isEnded = true →
    t.phase.isConnected = true ∨ t.phase.isEnded = true

theorem Winds.trans (first : s.Winds t) (second : t.Winds u) : s.Winds u :=
  ⟨second.requested, second.dials.trans first.dials, second.epochs.trans first.epochs,
    fun settled => second.stays (first.stays settled)⟩

private theorem winds_of_inner (requested : t.shutdownRequested = true)
    (inner : s.stage.Tells (·.connects = false) t.stage)
    (stays : s.phase.isConnected = true ∨ s.phase.isEnded = true →
      t.phase.isConnected = true ∨ t.phase.isEnded = true) : s.Winds t :=
  ⟨requested, inner.dialsAttempted, inner.epochsStarted, stays⟩

private theorem winds_of_same (requested : t.shutdownRequested = true)
    (journal : t.stage.journal = s.stage.journal)
    (stays : s.phase.isConnected = true ∨ s.phase.isEnded = true →
      t.phase.isConnected = true ∨ t.phase.isEnded = true) : s.Winds t :=
  winds_of_inner requested (Stage.tells_of_journal journal) stays

theorem winds_of_call (connected : s.everConnected = true) (call : Call s t) : s.Winds t := by
  have inner := call.connects
  cases call with
  | refuses unknown => cases unknown.symm.trans connected
  | follows known requested => exact winds_of_inner requested inner id
  | comesLate | queues | sends => exact winds_of_inner rfl inner id

theorem Sound.winds {act : Act} (sound : s.Sound) (requested : s.shutdownRequested = true)
    (move : Move s act t) : s.Winds t := by
  have connected : s.everConnected = true := sound.phased.requested requested
  cases move with
  | begins phase =>
      refine winds_of_same requested rfl ?_
      simp [phase, SupervisorPhase.isConnected, SupervisorPhase.isEnded]
  | hearsReconnect seeking =>
      refine winds_of_inner requested (Stage.tells_hear _ rfl) ?_
      simp [isConnected_of_isSeeking seeking, isEnded_of_isSeeking seeking]
  | hearsShutdown =>
      exact winds_of_inner requested
        (.trans (Stage.tells_hear _ rfl) (Stage.tells_log _ rfl)) fun _ => .inr rfl
  | remembers => exact winds_of_inner requested (Stage.tells_log _ rfl) fun _ => .inr rfl
  | dials phase empty unrequested => cases unrequested.symm.trans requested
  | fails phase empty | connects phase empty | retries phase empty | sleeps phase empty =>
      -- while it listens, the shutdown is in the slot
      have pending := sound.signalling.listening (by rw [phase]; rfl)
      rw [empty, requested] at pending
      cases pending
  | works phase _ worked | merges phase _ worked =>
      exact winds_of_inner requested worked.connects fun _ => .inl rfl
  | returns => exact winds_of_inner requested (Stage.tells_record _ rfl) fun _ => .inl rfl
  | joins => exact winds_of_same requested rfl fun _ => .inl rfl
  | quits phase final aside => exact winds_of_inner requested aside.connects fun _ => .inr rfl
  | redials phase unrequested => cases unrequested.symm.trans requested
  | dismisses | givesUp | finishes => exact winds_of_same requested rfl id
  | concedes =>
      exact winds_of_inner requested
        (.trans (Stage.tells_log _ rfl) (Stage.tells_log _ rfl)) id
  | reports =>
      exact winds_of_inner requested
        (.trans (Stage.tells_log _ rfl) (Stage.tells_put _ rfl)) id
  | delivers => exact winds_of_inner requested (Stage.tells_put s.stage rfl) id
  | calls call => exact winds_of_call connected call
  | world change => exact winds_of_same requested (Stage.undergo_journal _ _) id

private theorem Sound.winds_play (sound : s.Sound) (requested : s.shutdownRequested = true)
    {acts : List Act} (played : play perform acts s = some t) :
    t.Sound ∧ s.Winds t := by
  refine play_preserves (P := fun t => t.Sound ∧ s.Winds t) ?_ ⟨sound, ?_⟩ played
  · rintro act t u ⟨sound, winds⟩ performed
    have move := move_of_perform sound.guarded performed
    exact ⟨sound.move move, winds.trans (sound.winds winds.requested move)⟩
  · exact winds_of_same requested rfl id

/-! After the worker has returned, a few steps of the supervisor and its watcher are left, and one
of the two can always go on. -/

def hasReturned (s : Supervised) : Bool :=
  match s.phase with
  | .working run => run.result?.isSome
  | .joining _ | .closing _ | .ended => true
  | _ => false

def remaining (s : Supervised) : Nat :=
  s.phase.remaining + if s.watching then 1 else 0

private theorem remaining_le (s : Supervised) : s.remaining ≤ 4 := by
  unfold remaining SupervisorPhase.remaining
  split <;> split <;> omega

private theorem remaining_of_same (returned : s.hasReturned = true) (phase : t.phase = s.phase)
    (watching : t.watching = s.watching) : t.hasReturned = true ∧ t.remaining ≤ s.remaining := by
  unfold hasReturned remaining
  rw [phase, watching]
  exact ⟨returned, Nat.le_refl _⟩

private theorem isSeeking_of_hasReturned (returned : s.hasReturned = true) :
    s.phase.isSeeking = false := by
  unfold hasReturned at returned
  cases phase : s.phase <;> first | rfl | simp [phase] at returned

private theorem remaining_of_watched (returned : s.hasReturned = true) (phase : t.phase = s.phase)
    (before : s.watching = true) (after : t.watching = false) :
    t.hasReturned = true ∧ 1 + t.remaining ≤ s.remaining := by
  unfold hasReturned remaining
  rw [phase, before, after]
  refine ⟨returned, ?_⟩
  simp only [if_true, Bool.false_eq_true, if_false]
  omega

private theorem remaining_of_phase (returned : t.hasReturned = true) (watching : t.watching = s.watching)
    (further : 1 + t.phase.remaining ≤ s.phase.remaining) :
    t.hasReturned = true ∧ 1 + t.remaining ≤ s.remaining := by
  unfold remaining
  rw [watching]
  exact ⟨returned, by omega⟩

private theorem remaining_move {act : Act} (requested : s.shutdownRequested = true)
    (returned : s.hasReturned = true) (move : Move s act t) :
    t.hasReturned = true ∧ (if act.isOwn then 1 else 0) + t.remaining ≤ s.remaining := by
  have found := isSeeking_of_hasReturned returned
  have stays : ∀ {u : Supervised}, u.phase = s.phase → u.watching = s.watching →
      u.hasReturned = true ∧ 0 + u.remaining ≤ s.remaining := by
    intro u phase watching
    rw [Nat.zero_add]
    exact remaining_of_same returned phase watching
  cases move with
  | begins phase => simp [hasReturned, phase] at returned
  | hearsReconnect seeking | hearsShutdown seeking => cases found.symm.trans seeking
  | remembers phase | dials phase | fails phase | connects phase | retries phase
  | sleeps phase =>
      rw [phase] at found
      cases found
  | works phase unfinished => simp [hasReturned, phase, unfinished] at returned
  | merges phase same =>
      simp only [hasReturned, phase] at returned
      refine ⟨?_, ?_⟩
      · simp only [hasReturned, same]
        exact returned
      · simp [remaining, phase, SupervisorPhase.remaining, Act.isOwn]
  | returns phase | joins phase | quits phase =>
      refine remaining_of_phase rfl rfl ?_
      rw [phase]
      exact Nat.le_refl _
  | redials phase unrequested => cases unrequested.symm.trans requested
  | dismisses watching | reports watching | concedes watching =>
      exact remaining_of_watched returned rfl watching rfl
  | calls call => cases call <;> exact stays rfl rfl
  | givesUp | delivers | finishes | world => exact stays rfl rfl

private theorem remaining_play {acts : List Act} (sound : s.Sound) (requested : s.shutdownRequested = true)
    (returned : s.hasReturned = true) (played : play perform acts s = some t) :
    t.hasReturned = true ∧ acts.countP Act.isOwn + t.remaining ≤ s.remaining := by
  induction acts generalizing s with
  | nil =>
      cases played
      exact ⟨returned, by simp⟩
  | cons act rest ih =>
      obtain ⟨next, performed, after⟩ := Option.bind_eq_some_iff.mp played
      have move := move_of_perform sound.guarded performed
      obtain ⟨returnedNext, fewer⟩ := remaining_move requested returned move
      obtain ⟨returnedLast, bounded⟩ :=
        ih (sound.move move) (sound.winds requested move).requested returnedNext after
      refine ⟨returnedLast, ?_⟩
      rw [List.countP_cons]
      omega

theorem own_step_of_returned (returned : s.hasReturned = true) :
    s.phase.isEnded = true ∨
      ∀ pick, (s.step pick .main).isSome = true ∨ (s.step pick .watcher).isSome = true := by
  cases phase : s.phase with
  | idle | draining | dialing | retrying _ => simp [hasReturned, phase] at returned
  | working run =>
      simp only [hasReturned, phase] at returned
      obtain ⟨action, result⟩ := Option.isSome_iff_exists.mp returned
      exact .inr fun pick => .inl (by simp [step, mainStep, phase, result])
  | joining action =>
      refine .inr fun pick => ?_
      cases watching : s.watching with
      | false => exact .inl (by simp [step, mainStep, phase, watching])
      | true =>
          refine .inr ?_
          simp only [step, watcherStep, watching, phase, Bool.not_true, Bool.false_eq_true,
            if_false]
          cases s.stage.broker.loss with
          | none => rfl
          | some e =>
              cases pick with
              | second => rfl
              | first =>
                  simp only
                  split <;> rfl
  | closing action => exact .inr fun pick => .inl (by simp [step, mainStep, phase])
  | ended => exact .inl rfl

/-- After a call to close that finds a connection made, nothing is dialed and no epoch begins any
more. If a worker runs at that moment it is the last one: the supervisor does not look for a
connection again, and once the worker has returned, by whatever action, at most four steps of the
supervisor and its watcher are left, one of which can always be made until the supervisor has ended.
-/
theorem shutdown_not_lost {worker : Worker} {retryDelay : Nat} {broker : Broker} {capacity : Nat}
    {suffix : Nat → String} {before after : List Act} {pick : Pick}
    (reached : play perform before (fresh worker retryDelay broker capacity suffix) = some s)
    (connected : .dialSucceeded ∈ s.stage.journal)
    (going : play perform after (s.requestClose pick) = some t) :
    Journal.dialsAttempted t.stage.journal = Journal.dialsAttempted s.stage.journal ∧
    Journal.epochsStarted t.stage.journal = Journal.epochsStarted s.stage.journal ∧
    ∀ run, s.phase = .working run →
      (t.phase.isConnected = true ∨ t.phase.isEnded = true) ∧
      (t.hasReturned = true → ∀ more u, play perform more t = some u →
        more.countP Act.isOwn ≤ 4 ∧
        (u.phase.isEnded = true ∨
          ∀ pick, (u.step pick .main).isSome = true ∨ (u.step pick .watcher).isSome = true)) := by
  have sound := (sound_fresh worker retryDelay broker capacity suffix).of_play reached
  have call := call_requestClose pick s
  have called := winds_of_call (sound.recorded.known.mpr connected) call
  have closing : Move s (.close pick) (s.requestClose pick) := .calls call
  obtain ⟨soundLast, winding⟩ := (sound.move closing).winds_play called.requested going
  have winds := called.trans winding
  refine ⟨winds.dials, winds.epochs, ?_⟩
  intro run phase
  refine ⟨winds.stays (.inl (by rw [phase]; rfl)), ?_⟩
  intro returned more u continued
  obtain ⟨returnedLast, bounded⟩ :=
    remaining_play soundLast winding.requested returned continued
  have few := remaining_le t
  exact ⟨by omega, own_step_of_returned returnedLast⟩

/-- The connection is lost, and the reconnect signal keeps the shutdown out of the slot; the worker
takes no signal and wants to reconnect. -/
theorem shutdown_not_lost_behind_reconnect :
    let start := fresh (.script [⟨0, 0, 0, .reconnect⟩]) 0 .initial 1 fun _ => ""
    let main := Act.task .first .main
    ∃ s run t,
      play perform [.connect, main, main, .world .drop, .task .first .watcher] start = some s ∧
      .dialSucceeded ∈ s.stage.journal ∧ s.phase = .working run ∧
      s.stage.control.slot = some .reconnect ∧
      play perform (.replicate 6 main) (s.requestClose .first) = some t ∧
      t.hasReturned = true ∧
      Journal.dialsAttempted t.stage.journal = Journal.dialsAttempted s.stage.journal ∧
      (t.phase.isConnected = true ∨ t.phase.isEnded = true) ∧
      ∀ more u, play perform more t = some u →
        more.countP Act.isOwn ≤ 4 ∧
        (u.phase.isEnded = true ∨
          ∀ pick, (u.step pick .main).isSome = true ∨ (u.step pick .watcher).isSome = true) := by
  intro start main
  obtain ⟨s, run, t, reached, told, phase, slot, going, returned⟩ : ∃ s run t,
      play perform [.connect, main, main, .world .drop, .task .first .watcher] start = some s ∧
      s.stage.journal[4]? = some .dialSucceeded ∧ s.phase = .working run ∧
      s.stage.control.slot = some .reconnect ∧
      play perform (.replicate 6 main) (s.requestClose .first) = some t ∧
      t.hasReturned = true :=
    ⟨_, _, _, rfl, rfl, rfl, rfl, rfl, rfl⟩
  have connected := List.mem_of_getElem? told
  obtain ⟨dials, _, ends⟩ := shutdown_not_lost reached connected going
  obtain ⟨stays, concluded⟩ := ends run phase
  exact ⟨s, run, t, reached, connected, phase, slot, going, returned, dials, stays,
    concluded returned⟩

end Supervised

end ExchangeTap
