import ExchangeTap.Proofs.Supervision.Phased

namespace ExchangeTap

def Closer.isSending : Closer → Bool
  | sending => true
  | _ => false

namespace Supervised

/-- The shutdowns that were sent or still wait for the slot. -/
def shutdowns (s : Supervised) : Nat :=
  (Journal.sent s.stage.journal).count .shutdown + s.closers.countP Closer.isSending

structure Signalling (s : Supervised) : Prop where
  listening : s.phase.isListening = true →
    s.stage.control.slot = if s.shutdownRequested then some .shutdown else none
  unrequested : s.shutdownRequested = false →
    s.stage.control.reserved = false ∧ s.shutdowns = 0
  single : s.shutdowns ≤ 1

variable {s t : Supervised}

theorem signalling_fresh (worker : Worker) (retryDelay : Nat) (broker : Broker) (capacity : Nat)
    (suffix : Nat → String) : (fresh worker retryDelay broker capacity suffix).Signalling :=
  ⟨fun same => (nomatch same), fun _ => ⟨rfl, rfl⟩, Nat.zero_le 1⟩

theorem countP_set_closers {closers : List Closer} {index : Nat} {before : Closer}
    (found : closers[index]? = some before) (after : Closer) (count : Closer → Bool) :
    (closers.set index after).countP count + (if count before then 1 else 0) =
      closers.countP count + if count after then 1 else 0 := by
  obtain ⟨inside, same⟩ := List.getElem?_eq_some_iff.mp found
  have counted : (if count before then 1 else 0) ≤ closers.countP count := by
    split
    · rename_i counts
      exact List.countP_pos_iff.mpr ⟨before, List.mem_of_getElem? found, counts⟩
    · exact Nat.zero_le _
  rw [List.countP_set inside, same]
  omega

private theorem shutdowns_eq (sent : Journal.sent t.stage.journal = Journal.sent s.stage.journal)
    (sending : t.closers.countP Closer.isSending = s.closers.countP Closer.isSending) :
    t.shutdowns = s.shutdowns := by
  rw [shutdowns, shutdowns, sent, sending]

theorem Signalling.frame (signalling : s.Signalling)
    (listening : t.phase.isListening = true →
      s.phase.isListening = true ∧ t.stage.control.slot = s.stage.control.slot)
    (requested : t.shutdownRequested = s.shutdownRequested)
    (reserved : t.stage.control.reserved = s.stage.control.reserved)
    (shutdowns : t.shutdowns = s.shutdowns) : t.Signalling := by
  refine ⟨?_, ?_, ?_⟩
  · intro listens
    obtain ⟨listened, slot⟩ := listening listens
    rw [slot, requested]
    exact signalling.listening listened
  · rw [requested, reserved, shutdowns]
    exact signalling.unrequested
  · rw [shutdowns]
    exact signalling.single

theorem Signalling.quiet (signalling : s.Signalling) (unheard : t.phase.isListening = false)
    (requested : t.shutdownRequested = s.shutdownRequested)
    (reserved : t.stage.control.reserved = s.stage.control.reserved)
    (sent : Journal.sent t.stage.journal = Journal.sent s.stage.journal)
    (closers : t.closers = s.closers) : t.Signalling := by
  refine signalling.frame ?_ requested reserved (shutdowns_eq sent (by rw [closers]))
  intro listens
  cases unheard.symm.trans listens

private theorem shutdowns_append (s : Supervised) (closer : Closer) :
    shutdowns { s with closers := s.closers ++ [closer] } =
      s.shutdowns + if closer.isSending then 1 else 0 := by
  simp only [shutdowns, List.countP_append, List.countP_singleton]
  omega

theorem Signalling.request (signalling : s.Signalling)
    (unrequested : s.shutdownRequested = false) (requested : t.shutdownRequested = true)
    (one : t.shutdowns ≤ s.shutdowns + 1)
    (slot : t.phase.isListening = true → t.stage.control.slot = some .shutdown) :
    t.Signalling := by
  obtain ⟨_, none⟩ := signalling.unrequested unrequested
  refine ⟨?_, ?_, ?_⟩
  · rw [requested]
    exact slot
  · rw [requested]
    exact fun same => nomatch same
  · rw [none] at one
    exact one

private theorem Signalling.requested_of_sending (signalling : s.Signalling) {index : Nat}
    (waits : s.closers[index]? = some .sending) : s.shutdownRequested = true := by
  cases requested : s.shutdownRequested with
  | true => rfl
  | false =>
      have nobody := (signalling.unrequested requested).2
      have somebody : 0 < s.closers.countP Closer.isSending :=
        List.countP_pos_iff.mpr ⟨.sending, List.mem_of_getElem? waits, rfl⟩
      unfold shutdowns at nobody
      omega

theorem Signalling.resolve (signalling : s.Signalling) {index : Nat}
    (waits : s.closers[index]? = some .sending)
    (requested : t.shutdownRequested = s.shutdownRequested)
    (unheard : t.phase.isListening = false)
    (sent : (Journal.sent t.stage.journal).count .shutdown ≤
      (Journal.sent s.stage.journal).count .shutdown + 1)
    (closers : t.closers = s.closers.set index .waiting) : t.Signalling := by
  have asked := signalling.requested_of_sending waits
  refine ⟨?_, ?_, ?_⟩
  · intro listens
    cases unheard.symm.trans listens
  · rw [requested, asked]
    exact fun same => nomatch same
  · have single := signalling.single
    have moved := countP_set_closers waits .waiting Closer.isSending
    rw [← closers] at moved
    simp only [Closer.isSending, if_true, Bool.false_eq_true, if_false] at moved
    unfold shutdowns at single ⊢
    omega

private theorem isListening_of_outcome (phased : s.Phased) (concluded : s.outcome.isSome = true) :
    s.phase.isListening = false := by
  have ended := phased.concluded.symm.trans concluded
  cases phase : s.phase <;> first | rfl | simp [phase, SupervisorPhase.isEnded] at ended

private theorem isListening_of_watching (phased : s.Phased) (watching : s.watching = true) :
    s.phase.isListening = false := by
  have watched := phased.watched watching
  cases phase : s.phase <;> first | rfl | simp [phase, SupervisorPhase.isWatched] at watched

private theorem Signalling.isListening_of_empty (signalling : s.Signalling)
    (requested : s.shutdownRequested = true) (empty : s.stage.control.slot = none) :
    s.phase.isListening = false := by
  cases listens : s.phase.isListening with
  | false => rfl
  | true =>
      have pending := signalling.listening listens
      rw [empty, requested] at pending
      cases pending

theorem Signalling.call (phased : s.Phased) (signalling : s.Signalling) (call : Call s t) :
    t.Signalling := by
  cases call with
  | refuses | follows =>
      refine signalling.frame (fun listens => ⟨listens, rfl⟩) rfl rfl ?_
      exact shutdowns_append s _
  | comesLate known unrequested concluded =>
      refine signalling.request unrequested rfl ?_ ?_
      · simp [shutdowns, Event.sent?, Closer.isSending]
      · intro listens
        cases (isListening_of_outcome phased concluded).symm.trans listens
  | sends known unrequested =>
      refine signalling.request unrequested rfl ?_ fun _ => rfl
      simp [shutdowns, Stage.put, Event.sent?, Closer.isSending]
      omega
  | queues known unrequested full =>
      refine signalling.request unrequested rfl ?_ ?_
      · simp [shutdowns, Stage.reserve, Event.sent?, Closer.isSending]
        omega
      · intro listens
        have empty := signalling.listening listens
        simp [(signalling.unrequested unrequested).1, unrequested, empty] at full

theorem Signalling.move {act : Act} (phased : s.Phased) (signalling : s.Signalling)
    (move : Move s act t) : t.Signalling := by
  cases move with
  | begins phase | joins phase => exact signalling.quiet rfl rfl rfl rfl rfl
  | hearsReconnect | hearsShutdown | remembers | returns =>
      refine signalling.quiet rfl rfl rfl ?_ rfl
      simp [concludeUnconnected, finish, Stage.hear, Event.sent?]
  | connects | retries =>
      refine signalling.quiet rfl rfl rfl ?_ rfl
      simp [beginEpoch, Stage.unlock, Event.sent?]
  | works phase _ worked | merges phase _ worked =>
      exact signalling.quiet rfl rfl worked.reserved worked.directs.sent rfl
  | quits phase final aside | redials phase _ aside =>
      refine signalling.quiet rfl rfl ?_ aside.directs.sent rfl
      exact congrArg ControlPath.reserved aside.control
  | dials phase empty unrequested =>
      obtain ⟨unreserved, none⟩ := signalling.unrequested unrequested
      have same : shutdowns { s with stage := s.stage.await.beginDial, phase := .dialing } =
          s.shutdowns := by
        refine shutdowns_eq ?_ rfl
        simp [Stage.await, Stage.beginDial, Event.sent?]
      refine ⟨?_, fun _ => ⟨unreserved, same.trans none⟩, same ▸ signalling.single⟩
      intro _
      simp only [unrequested]
      exact empty
  | fails phase empty =>
      refine signalling.frame ?_ rfl rfl (shutdowns_eq ?_ rfl)
      · intro _
        exact ⟨by rw [phase]; rfl, rfl⟩
      · simp [Stage.await, Event.sent?]
  | sleeps | dismisses => exact signalling.frame (fun listens => ⟨listens, rfl⟩) rfl rfl rfl
  | concedes =>
      refine signalling.frame (fun listens => ⟨listens, rfl⟩) rfl rfl (shutdowns_eq ?_ rfl)
      simp [Event.sent?]
  | reports watching lost =>
      refine signalling.frame ?_ rfl rfl ?_
      · intro listens
        cases (isListening_of_watching phased watching).symm.trans listens
      · simp [shutdowns, Stage.put, Event.sent?]
  | calls call => exact signalling.call phased call
  | givesUp waits concluded =>
      refine signalling.resolve waits rfl ?_ (Nat.le_succ _) rfl
      exact isListening_of_outcome (s := s) phased concluded
  | delivers waits empty =>
      refine signalling.resolve waits rfl ?_ ?_ rfl
      · exact signalling.isListening_of_empty (signalling.requested_of_sending waits) empty
      · simp [Stage.put, Stage.reserve, Event.sent?]
  | finishes waits concluded =>
      refine signalling.frame (fun listens => ⟨listens, rfl⟩) rfl rfl (shutdowns_eq rfl ?_)
      exact countP_set_closers waits (.finished _) Closer.isSending
  | world change =>
      refine signalling.frame (fun listens => ⟨listens, ?_⟩) rfl ?_ (shutdowns_eq ?_ rfl)
      · rw [Stage.undergo_control]
      · rw [Stage.undergo_control]
      · rw [Stage.undergo_journal]

end Supervised

end ExchangeTap
