import ExchangeTap.Proofs.Supervision.Sound

namespace ExchangeTap.Supervised

def epoch (s : Supervised) : Journal :=
  Journal.epoch s.stage.journal

/-- The slot is empty, or holds the latest signal of the epoch. -/
structure Epochal (s : Supervised) : Prop where
  balance : Journal.taken s.epoch ++ s.stage.control.slot.toList = Journal.sent s.epoch
  once : (Journal.sent s.epoch).count .reconnect ≤ 1
  unreported : s.watching = true → .reconnect ∉ Journal.sent s.epoch
  causal : ∀ later signal reader earlier,
    s.epoch = later ++ .signalTaken signal reader :: earlier → .signalSent signal ∈ earlier

variable {s t : Supervised}

theorem epochal_of_empty (epoch : s.epoch = []) (empty : s.stage.control.slot = none) :
    s.Epochal := by
  refine ⟨?_, ?_, ?_, ?_⟩
  · simp [epoch, empty]
  · simp [epoch]
  · simp [epoch]
  · intro later signal reader earlier split
    rw [epoch] at split
    cases later <;> cases split

theorem Epochal.extend (epochal : s.Epochal) (events : Journal)
    (epoch : t.epoch = events ++ s.epoch) (unsent : Journal.sent events = [])
    (taken : Journal.taken events ++ t.stage.control.slot.toList = s.stage.control.slot.toList)
    (watching : t.watching = true → s.watching = true) : t.Epochal := by
  have sent : Journal.sent t.epoch = Journal.sent s.epoch := by
    rw [epoch, Journal.sent_append, unsent, List.append_nil]
  refine ⟨?_, ?_, ?_, ?_⟩
  · rw [sent, epoch, Journal.taken_append, List.append_assoc, taken]
    exact epochal.balance
  · rw [sent]
    exact epochal.once
  · rw [sent]
    exact fun alive => epochal.unreported (watching alive)
  · intro later signal reader earlier split
    rw [epoch] at split
    rcases Journal.split_block split with ⟨rest, inside, before⟩ | ⟨between, _, before⟩
    · have member : .signalTaken signal reader ∈ events := by simp [inside]
      have received := Journal.mem_taken member
      have pending : signal ∈ s.stage.control.slot.toList := by
        rw [← taken]
        exact List.mem_append_left _ received
      have happened : signal ∈ Journal.sent s.epoch := by
        rw [← epochal.balance]
        exact List.mem_append_right _ pending
      rw [before]
      exact List.mem_append_right _ (Journal.mem_sent.mp happened)
    · exact epochal.causal between signal reader earlier before

theorem Epochal.put {signal : Signal} (epochal : s.Epochal)
    (epoch : t.epoch = .signalSent signal :: s.epoch) (empty : s.stage.control.slot = none)
    (slot : t.stage.control.slot = some signal)
    (watching : t.watching = true → s.watching = true ∧ signal = .shutdown)
    (watcher : signal = .reconnect → s.watching = true) : t.Epochal := by
  have sent : Journal.sent t.epoch = Journal.sent s.epoch ++ [signal] := by
    rw [epoch, Journal.sent_cons]
    rfl
  have balance : Journal.taken s.epoch = Journal.sent s.epoch := by
    simpa [empty] using epochal.balance
  refine ⟨?_, ?_, ?_, ?_⟩
  · rw [sent, epoch, Journal.taken_cons, slot, balance]
    simp [Event.taken?]
  · rw [sent, List.count_append]
    cases signal with
    | shutdown => simpa using epochal.once
    | reconnect =>
        have fresh := epochal.unreported (watcher rfl)
        rw [List.count_eq_zero_of_not_mem fresh]
        decide
  · intro alive
    obtain ⟨before, other⟩ := watching alive
    rw [sent, other]
    simpa using epochal.unreported before
  · intro later other reader earlier split
    rw [epoch] at split
    rcases List.cons_eq_append_iff.mp split with ⟨_, same⟩ | ⟨between, _, before⟩
    · cases same
    · exact epochal.causal between other reader earlier before

theorem Epochal.same (epochal : s.Epochal) (journal : t.stage.journal = s.stage.journal)
    (slot : t.stage.control.slot = s.stage.control.slot)
    (watching : t.watching = true → s.watching = true) : t.Epochal := by
  refine epochal.extend [] ?_ rfl (by rw [slot]; rfl) watching
  rw [epoch, epoch, journal]
  rfl

theorem Epochal.told (epochal : s.Epochal) {e : Event}
    (journal : t.stage.journal = e :: s.stage.journal)
    (plain : e.startsEpoch = false ∧ e.sent? = none ∧ e.taken? = none)
    (slot : t.stage.control.slot = s.stage.control.slot)
    (watching : t.watching = true → s.watching = true) : t.Epochal := by
  obtain ⟨starts, unsent, untaken⟩ := plain
  refine epochal.extend [e] ?_ (by simp [Journal.sent, unsent]) ?_ watching
  · rw [epoch, journal, Journal.epoch_cons, starts]
    rfl
  · rw [slot]
    simp [Journal.taken, untaken]

theorem Epochal.log (epochal : s.Epochal) (entry : LogEntry) :
    Epochal { s with stage := s.stage.log entry } :=
  epochal.told rfl ⟨rfl, rfl, rfl⟩ rfl id

theorem Epochal.hear {signal : Signal} (epochal : s.Epochal)
    (pending : s.stage.control.slot = some signal) :
    Epochal { s with stage := s.stage.hear signal } := by
  refine epochal.extend [.signalTaken signal .supervisor] rfl rfl ?_ id
  rw [pending]
  rfl

theorem Epochal.worked {stage : Stage} (epochal : s.Epochal) (worked : s.stage.Worked stage) :
    Epochal { s with stage := stage } := by
  obtain ⟨events, journal, inner⟩ := worked.directs
  refine epochal.extend events ?_ ?_ ?_ id
  · simp only [epoch, journal, Journal.epoch_append_of_directs inner]
  · exact Journal.sent_of_directs inner
  · have balance := worked.balance
    rw [journal, Journal.taken_append, List.append_assoc] at balance
    exact List.append_cancel_left balance

theorem Epochal.aside {stage : Stage} (epochal : s.Epochal) (aside : s.stage.Aside stage) :
    Epochal { s with stage := stage } := by
  obtain ⟨events, journal, inner⟩ := aside.tells
  have directs : ∀ e ∈ events, e.directs = false := fun e member => (inner e member).1
  refine epochal.extend events ?_ (Journal.sent_of_directs directs) ?_ id
  · simp only [epoch, journal, Journal.epoch_append_of_directs directs]
  · have untaken : Journal.taken events = [] := by
      rw [Journal.taken, List.reverse_eq_nil_iff, List.filterMap_eq_nil_iff]
      exact fun e member => (inner e member).2
    rw [untaken, aside.control]
    rfl

theorem Epochal.call (epochal : s.Epochal) (call : Call s t) : t.Epochal := by
  cases call with
  | refuses | follows => exact epochal.same rfl rfl id
  | comesLate | queues => exact (epochal.log .sendingShutdown).same rfl rfl id
  | sends known unrequested empty =>
      exact (epochal.log .sendingShutdown).put rfl empty rfl (fun alive => ⟨alive, rfl⟩)
        fun same => nomatch same

theorem Epochal.move {act : Act} (epochal : s.Epochal) (move : Move s act t) : t.Epochal := by
  cases move with
  | begins | joins | retries | sleeps | givesUp | finishes => exact epochal.same rfl rfl id
  | hearsReconnect seeking pending => exact (epochal.hear pending).same rfl rfl id
  | hearsShutdown seeking pending =>
      exact ((epochal.hear pending).log .shutdownWhileConnecting).same rfl rfl id
  | remembers => exact (epochal.log .shutdownWhileConnecting).same rfl rfl id
  | dials | returns => exact epochal.told rfl ⟨rfl, rfl, rfl⟩ rfl id
  | fails => exact epochal.told rfl ⟨rfl, rfl, rfl⟩ rfl id
  | connects phase empty => exact epochal_of_empty rfl empty
  | works phase _ worked | merges phase _ worked =>
      exact (epochal.worked worked).same rfl rfl id
  | quits phase final aside | redials phase _ aside =>
      exact (epochal.aside aside).same rfl rfl id
  | dismisses => exact epochal.same rfl rfl fun alive => nomatch alive
  | reports watching lost empty =>
      exact (epochal.log _).put rfl empty rfl (fun alive => nomatch alive) fun _ => watching
  | concedes =>
      refine ((epochal.log _).log .signalPending).same rfl rfl fun alive => nomatch alive
  | calls call => exact epochal.call call
  | delivers waits empty =>
      exact epochal.put rfl empty rfl (fun alive => ⟨alive, rfl⟩) fun same => nomatch same
  | world change =>
      refine epochal.same ?_ ?_ id
      · exact Stage.undergo_journal s.stage change
      · rw [Stage.undergo_control]

end ExchangeTap.Supervised
