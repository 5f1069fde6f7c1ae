import ExchangeTap.Proofs.Supervision.Epochs

/-! A call to close reserves the slot behind a signal of the running epoch, and after that no epoch
begins; so a watcher that finds the slot taken always leaves a signal that its epoch was sent. -/

namespace ExchangeTap.Supervised

variable {s t : Supervised} {act : Act}

theorem tells_of_move (move : Move s act t) (same : t.epochs = s.epochs) :
    s.stage.Tells (·.startsEpoch = false) t.stage := by
  have inner : ∀ {before after : Stage}, before.Tells (·.connects = false) after →
      before.Tells (·.startsEpoch = false) after :=
    fun tells => tells.mono fun _ => Event.startsEpoch_of_connects
  cases move with
  | begins | joins | sleeps | retries | dismisses | givesUp | finishes => exact .refl _
  | hearsReconnect => exact Stage.tells_hear _ rfl
  | hearsShutdown => exact .trans (Stage.tells_hear _ rfl) (Stage.tells_log _ rfl)
  | remembers => exact Stage.tells_log _ rfl
  | dials => exact Stage.tells_record s.stage.await rfl
  | fails => exact Stage.tells_log { s.stage with broker := _ } rfl
  | connects => exact absurd same (Nat.succ_ne_self _)
  | returns => exact Stage.tells_record _ rfl
  | works _ _ worked | merges _ _ worked => exact inner worked.connects
  | quits _ _ aside | redials _ _ aside => exact inner aside.connects
  | reports => exact .trans (Stage.tells_log _ rfl) (Stage.tells_put _ rfl)
  | concedes => exact .trans (Stage.tells_log _ rfl) (Stage.tells_log _ rfl)
  | calls call => exact inner call.connects
  | delivers => exact Stage.tells_put s.stage rfl
  | world change => exact Stage.tells_of_journal (s.stage.undergo_journal change)

theorem epoch_of_tells (inner : s.stage.Tells (·.startsEpoch = false) t.stage) :
    ∃ events, t.stage.journal = events ++ s.stage.journal ∧ t.epoch = events ++ s.epoch := by
  obtain ⟨events, journal, told⟩ := inner
  refine ⟨events, journal, ?_⟩
  rw [epoch, journal, Journal.epoch, List.takeWhile_append_of_pos]
  · rfl
  · exact fun e member => by simp [told e member]

theorem sent_of_move (move : Move s act t) (same : t.epochs = s.epochs)
    (sent : Journal.sent s.epoch ≠ []) : Journal.sent t.epoch ≠ [] := by
  obtain ⟨events, _, epoch⟩ := epoch_of_tells (tells_of_move move same)
  rw [epoch, Journal.sent_append]
  simp [sent]

theorem Epochal.sent_of_slot (epochal : s.Epochal) (full : s.stage.control.slot.isSome = true) :
    Journal.sent s.epoch ≠ [] := by
  obtain ⟨signal, pending⟩ := Option.isSome_iff_exists.mp full
  rw [← epochal.balance, pending]
  simp

/-- No call to close reserves the slot while the supervisor looks for a connection, and none does
in an epoch that no signal was sent to. -/
structure Reserving (s : Supervised) : Prop where
  watched : s.watching = true → s.phase.isWatched = true
  sending : .sending ∈ s.closers → s.shutdownRequested = true
  listening : s.phase.isListening = true → s.stage.control.slot.isSome = true →
    s.shutdownRequested = true
  reserved : s.stage.control.reserved = true →
    s.shutdownRequested = true ∧ s.phase.isListening = false ∧
      (s.phase.isWatched = true → Journal.sent s.epoch ≠ [])

theorem reserving_fresh (worker : Worker) (retryDelay : Nat) (broker : Broker) (capacity : Nat)
    (suffix : Nat → String) : (fresh worker retryDelay broker capacity suffix).Reserving :=
  ⟨fun same => (nomatch same), fun same => (nomatch same), fun same => (nomatch same),
    fun same => (nomatch same)⟩

namespace Reserving

theorem unwatched (reserving : s.Reserving) (resting : s.phase.isWatched = false) :
    s.watching = false := by
  cases watching : s.watching with
  | false => rfl
  | true => cases resting.symm.trans (reserving.watched watching)

theorem unlistening (reserving : s.Reserving) (watching : s.watching = true) :
    s.phase.isListening = false := by
  have watched := reserving.watched watching
  cases phase : s.phase <;> first | rfl | simp [phase, SupervisorPhase.isWatched] at watched

theorem unreserved (reserving : s.Reserving) (listening : s.phase.isListening = true) :
    s.stage.control.reserved = false := by
  cases reserved : s.stage.control.reserved with
  | false => rfl
  | true => cases listening.symm.trans (reserving.reserved reserved).2.1

private theorem watched_of_move (reserving : s.Reserving) (move : Move s act t)
    (watching : t.watching = true) : t.phase.isWatched = true := by
  have resting : s.phase.isWatched = false → s.watching = true → t.phase.isWatched = true :=
    fun resting watching => nomatch (reserving.unwatched resting).symm.trans watching
  cases move with
  | begins phase | remembers phase | dials phase | fails phase | retries phase =>
      exact resting (by rw [phase]; rfl) watching
  | hearsReconnect seeking | hearsShutdown seeking =>
      exact resting (isWatched_of_isSeeking seeking) watching
  | quits phase | redials phase => exact resting (by rw [phase]; rfl) watching
  | joins phase alone => cases alone.symm.trans watching
  | connects | works | merges | returns => rfl
  | dismisses | reports | concedes => cases watching
  | calls call => cases call <;> exact reserving.watched watching
  | _ => exact reserving.watched watching

private theorem sending_of_set (reserving : s.Reserving) {closer : Closer} {index : Nat}
    (waits : .sending ∈ s.closers.set index closer) (settled : closer ≠ .sending) :
    s.shutdownRequested = true := by
  rcases List.mem_or_eq_of_mem_set waits with before | same
  · exact reserving.sending before
  · exact absurd same.symm settled

private theorem sending_of_move (reserving : s.Reserving) (move : Move s act t)
    (waits : .sending ∈ t.closers) : t.shutdownRequested = true := by
  cases move with
  | calls call =>
      cases call with
      | refuses | follows => exact reserving.sending (by simpa using waits)
      | comesLate | sends | queues => rfl
  | givesUp | delivers | finishes =>
      exact reserving.sending_of_set waits fun same => nomatch same
  | _ => exact reserving.sending waits

private theorem listening_of_move (reserving : s.Reserving) (move : Move s act t)
    (listens : t.phase.isListening = true) (full : t.stage.control.slot.isSome = true) :
    t.shutdownRequested = true := by
  cases move with
  | dials _ empty | fails _ empty | sleeps _ empty =>
      have pending : s.stage.control.slot.isSome = true := full
      simp [empty] at pending
  | dismisses | concedes | finishes | givesUp => exact reserving.listening listens full
  | reports watching => cases (reserving.unlistening watching).symm.trans listens
  | delivers waits => exact reserving.sending (List.mem_of_getElem? waits)
  | calls call =>
      cases call with
      | refuses | follows => exact reserving.listening listens full
      | comesLate | sends | queues => rfl
  | world change =>
      exact reserving.listening listens (s.stage.undergo_control change ▸ full)
  | _ => cases listens

private theorem sent_of_full (reserving : s.Reserving) (epochal : s.Epochal)
    (unrequested : s.shutdownRequested = false)
    (full : s.stage.control.slot.isSome || s.stage.control.reserved) :
    s.phase.isListening = false ∧ Journal.sent s.epoch ≠ [] := by
  rcases Bool.or_eq_true_iff.mp full with slot | reserved
  · refine ⟨?_, epochal.sent_of_slot slot⟩
    cases listens : s.phase.isListening with
    | false => rfl
    | true => cases unrequested.symm.trans (reserving.listening listens slot)
  · cases unrequested.symm.trans (reserving.reserved reserved).1

private theorem reserved_of_kept (reserving : s.Reserving) (move : Move s act t)
    (same : t.epochs = s.epochs)
    (requested : s.shutdownRequested = true → t.shutdownRequested = true)
    (listening : s.phase.isListening = false → t.phase.isListening = false)
    (watched : t.phase.isWatched = true → s.phase.isWatched = true)
    (reserved : s.stage.control.reserved = true) :
    t.shutdownRequested = true ∧ t.phase.isListening = false ∧
      (t.phase.isWatched = true → Journal.sent t.epoch ≠ []) := by
  obtain ⟨asked, unheard, sent⟩ := reserving.reserved reserved
  refine ⟨requested asked, listening unheard, fun later => ?_⟩
  exact sent_of_move move same (sent (watched later))

private theorem reserved_of_move (reserving : s.Reserving) (epochal : s.Epochal) (move : Move s act t)
    (reserved : t.stage.control.reserved = true) :
    t.shutdownRequested = true ∧ t.phase.isListening = false ∧
      (t.phase.isWatched = true → Journal.sent t.epoch ≠ []) := by
  have kept := reserving.reserved_of_kept move
  have further := sent_of_move move
  cases move with
  | begins | hearsReconnect | hearsShutdown | remembers | joins | retries =>
      exact kept rfl id (fun _ => rfl) (fun later => nomatch later) reserved
  | quits _ _ aside | redials _ _ aside =>
      exact kept rfl id (fun _ => rfl) (fun later => nomatch later) (aside.control ▸ reserved)
  | dials _ _ unrequested => cases unrequested.symm.trans (reserving.reserved reserved).1
  | connects phase | fails phase | sleeps phase =>
      cases (reserving.unreserved (by rw [phase]; rfl)).symm.trans reserved
  | works phase _ worked | merges phase _ worked =>
      exact kept rfl id (fun _ => rfl) (fun _ => by rw [phase]; rfl) (worked.reserved ▸ reserved)
  | returns phase => exact kept rfl id (fun _ => rfl) (fun _ => by rw [phase]; rfl) reserved
  | dismisses | concedes | finishes => exact kept rfl id id id reserved
  | reports _ _ _ unreserved => cases unreserved.symm.trans reserved
  | givesUp | delivers => cases reserved
  | calls call =>
      cases call with
      | refuses | follows => exact kept rfl id id id reserved
      | comesLate => exact kept rfl (fun _ => rfl) id id reserved
      | sends _ _ _ unreserved => cases unreserved.symm.trans reserved
      | queues _ unrequested full =>
          obtain ⟨unheard, sent⟩ := reserving.sent_of_full epochal unrequested full
          exact ⟨rfl, unheard, fun _ => further rfl sent⟩
  | world change => exact kept rfl id id id (s.stage.undergo_control change ▸ reserved)

theorem move (reserving : s.Reserving) (epochal : s.Epochal) (move : Move s act t) : t.Reserving :=
  ⟨reserving.watched_of_move move, reserving.sending_of_move move,
    reserving.listening_of_move move, reserving.reserved_of_move epochal move⟩

theorem renew (reserving : s.Reserving) (phase : s.phase = .ended) :
    Reserving { s with phase := .draining } := by
  refine ⟨?_, reserving.sending, fun listens => (nomatch listens), ?_⟩
  · intro watching
    cases (reserving.unwatched (by rw [phase]; rfl)).symm.trans watching
  · intro reserved
    exact ⟨(reserving.reserved reserved).1, rfl, fun watched => nomatch watched⟩

end Reserving

end ExchangeTap.Supervised
