import ExchangeTap.Proofs.Supervision.Sound

namespace ExchangeTap

def Act.isStepOf (own : Task) : Act → Bool
  | task _ other => decide (other = own)
  | _ => false

namespace Closer

inductive Goes (outcome : Option (Except BrokerError Unit)) : Closer → Closer → Prop where
  | waits : Goes outcome .sending .waiting
  | finishes {result : Except BrokerError Unit} (concluded : outcome = some result) :
      Goes outcome .waiting (.finished (Supervised.closeResult result))

def remaining : Closer → Nat
  | sending => 2
  | waiting => 1
  | finished _ => 0

variable {outcome : Option (Except BrokerError Unit)} {before after : Closer}

theorem Goes.remaining (goes : Goes outcome before after) :
    after.remaining + 1 = before.remaining := by
  cases goes <;> rfl

end Closer

namespace Supervised

variable {s t : Supervised} {index : Nat} {closer : Closer}

theorem outcome_move {act : Act} {outcome : Except BrokerError Unit} (phased : s.Phased)
    (move : Move s act t) (concluded : s.outcome = some outcome) : t.outcome = some outcome := by
  have ended : s.phase.isEnded = true := by
    rw [← phased.concluded, concluded]
    rfl
  cases move with
  | hearsShutdown seeking => cases (isEnded_of_isSeeking seeking).symm.trans ended
  | remembers phase | quits phase =>
      rw [phase] at ended
      cases ended
  | calls call => cases call <;> exact concluded
  | _ => exact concluded

private theorem getElem?_set_closer {pick : Pick} {closers : List Closer} {other : Nat}
    {before after : Closer} {outcome : Option (Except BrokerError Unit)}
    (found : closers[index]? = some closer) (waits : closers[other]? = some before)
    (goes : Closer.Goes outcome before after) :
    (closers.set other after)[index]? = some closer ∧
        (Act.task pick (.closer other)).isStepOf (.closer index) = false ∨
      ∃ next, (closers.set other after)[index]? = some next ∧ Closer.Goes outcome closer next := by
  by_cases same : other = index
  · subst same
    cases found.symm.trans waits
    obtain ⟨inside, _⟩ := List.getElem?_eq_some_iff.mp found
    exact .inr ⟨after, List.getElem?_set_self inside, goes⟩
  · refine .inl ⟨?_, by simp [Act.isStepOf, same]⟩
    rw [List.getElem?_set_ne same]
    exact found

theorem closer_move {act : Act} (move : Move s act t) (found : s.closers[index]? = some closer) :
    t.closers[index]? = some closer ∧ act.isStepOf (.closer index) = false ∨
      ∃ next, t.closers[index]? = some next ∧ Closer.Goes s.outcome closer next := by
  cases move with
  | givesUp waits | delivers waits => exact getElem?_set_closer found waits .waits
  | finishes waits concluded => exact getElem?_set_closer found waits (.finishes concluded)
  | calls call =>
      have inside : index < s.closers.length := (List.getElem?_eq_some_iff.mp found).1
      have stays : ∀ later, (s.closers ++ [later])[index]? = some closer := by
        intro later
        rw [List.getElem?_append_left inside]
        exact found
      cases call <;> exact .inl ⟨stays _, rfl⟩
  | _ => exact .inl ⟨found, by simp [Act.isStepOf]⟩

theorem closerStep_of_outcome (concluded : s.outcome.isSome = true)
    (found : s.closers[index]? = some closer) :
    (∃ result, closer = .finished result) ∨
      ∀ pick, (s.step pick (.closer index)).isSome = true := by
  obtain ⟨outcome, ended⟩ := Option.isSome_iff_exists.mp concluded
  cases closer with
  | finished result => exact .inl ⟨result, rfl⟩
  | waiting => exact .inr fun pick => by simp [step, closerStep, found, ended]
  | sending =>
      refine .inr fun pick => ?_
      simp only [step, closerStep, found]
      split
      · rfl
      · rename_i early
        cases slot : s.stage.control.slot with
        | some signal => simp [concluded, slot] at early
        | none => simp [Stage.offer, ControlPath.offer]

private theorem steps_play {acts : List Act} (sound : s.Sound)
    (found : s.closers[index]? = some closer) (played : play perform acts s = some t) :
    ∃ next, t.closers[index]? = some next ∧
      acts.countP (Act.isStepOf (.closer index)) + next.remaining ≤ closer.remaining := by
  induction acts generalizing s closer with
  | nil =>
      cases played
      exact ⟨closer, found, by simp⟩
  | cons act rest ih =>
      obtain ⟨u, performed, after⟩ := Option.bind_eq_some_iff.mp played
      have move := move_of_perform sound.guarded performed
      rcases closer_move move found with ⟨same, notOwn⟩ | ⟨middle, moved, goes⟩
      · obtain ⟨next, last, bounded⟩ := ih (sound.move move) same after
        refine ⟨next, last, ?_⟩
        rw [List.countP_cons, notOwn]
        exact bounded
      · obtain ⟨next, last, bounded⟩ := ih (sound.move move) moved after
        refine ⟨next, last, ?_⟩
        have spent := goes.remaining
        rw [List.countP_cons]
        split <;> omega

theorem finished_play {acts : List Act} {result : Except TapError Unit} (sound : s.Sound)
    (found : s.closers[index]? = some (.finished result))
    (played : play perform acts s = some t) :
    t.closers[index]? = some (.finished result) := by
  refine (play_preserves (P := fun t => t.Sound ∧ t.closers[index]? = some (.finished result))
    ?_ ⟨sound, found⟩ played).2
  rintro act t u ⟨sound, found⟩ performed
  have move := move_of_perform sound.guarded performed
  refine ⟨sound.move move, ?_⟩
  rcases closer_move move found with ⟨same, _⟩ | ⟨_, _, goes⟩
  · exact same
  · cases goes

/-- A call that has returned has returned what the supervisor has. -/
def Answered (s : Supervised) (index : Nat) : Prop :=
  ∀ result, s.closers[index]? = some (.finished result) →
    ∃ outcome, s.outcome = some outcome ∧ result = closeResult outcome

private theorem answered_play {acts : List Act} (sound : s.Sound)
    (found : s.closers[index]? = some closer) (answered : s.Answered index)
    (played : play perform acts s = some t) : t.Answered index := by
  refine (play_preserves (P := fun t => t.Sound ∧
    (∃ closer, t.closers[index]? = some closer) ∧ t.Answered index)
    ?_ ⟨sound, ⟨closer, found⟩, answered⟩ played).2.2
  rintro act t u ⟨sound, ⟨closer, found⟩, answered⟩ performed
  have move := move_of_perform sound.guarded performed
  rcases closer_move move found with ⟨same, _⟩ | ⟨next, moved, goes⟩
  · refine ⟨sound.move move, ⟨closer, same⟩, ?_⟩
    intro result finished
    rw [same] at finished
    obtain ⟨outcome, concluded, answer⟩ := answered result (found.trans finished)
    exact ⟨outcome, outcome_move sound.phased move concluded, answer⟩
  · refine ⟨sound.move move, ⟨next, moved⟩, ?_⟩
    intro result finished
    cases moved.symm.trans finished
    cases goes with
    | finishes concluded => exact ⟨_, outcome_move sound.phased move concluded, rfl⟩

private theorem outcome_play {acts : List Act} {outcome : Except BrokerError Unit} (sound : s.Sound)
    (concluded : s.outcome = some outcome) (played : play perform acts s = some t) :
    t.outcome = some outcome := by
  refine (play_preserves (P := fun t => t.Sound ∧ t.outcome = some outcome)
    ?_ ⟨sound, concluded⟩ played).2
  rintro act t u ⟨sound, concluded⟩ performed
  have move := move_of_perform sound.guarded performed
  exact ⟨sound.move move, outcome_move sound.phased move concluded⟩

theorem closer_of_call (connected : s.everConnected = true) (call : Call s t) :
    ∃ closer, t.closers[s.closers.length]? = some closer ∧
      (closer = .waiting ∨ closer = .sending) := by
  cases call with
  | refuses unknown => cases unknown.symm.trans connected
  | follows | comesLate | sends => exact ⟨.waiting, by simp, .inl rfl⟩
  | queues => exact ⟨.sending, by simp, .inr rfl⟩

private theorem refused_of_call (unknown : s.everConnected = false) (call : Call s t) :
    t = { s with closers := s.closers ++ [.finished (.error .notConnected)] } := by
  cases call with
  | refuses => rfl
  | follows known | comesLate known | sends known | queues known =>
      cases unknown.symm.trans known

private theorem closeResult_ne_notConnected (outcome : Except BrokerError Unit) :
    closeResult outcome ≠ .error .notConnected := by
  rcases outcome with e | _ <;> exact fun same => nomatch same

private theorem Sound.single_shutdown (sound : s.Sound) :
    (Journal.sent s.stage.journal).count .shutdown ≤ 1 := by
  have bounded := sound.signalling.single
  unfold shutdowns at bounded
  omega

private theorem refused_play {pick : Pick} {acts : List Act} (sound : s.Sound)
    (unknown : s.everConnected = false)
    (going : play perform acts (s.requestClose pick) = some t) :
    (s.requestClose pick).stage = s.stage ∧
      t.closers[s.closers.length]? = some (.finished (.error .notConnected)) ∧
      acts.countP (Act.isStepOf (.closer s.closers.length)) = 0 := by
  have call := call_requestClose pick s
  have called : Move s (.close pick) (s.requestClose pick) := .calls call
  have soundCalled := sound.move called
  have refused := refused_of_call unknown call
  have found : (s.requestClose pick).closers[s.closers.length]? =
      some (.finished (.error .notConnected)) := by
    rw [refused]
    simp
  obtain ⟨next, _, bounded⟩ := steps_play soundCalled found going
  simp only [Closer.remaining] at bounded
  refine ⟨?_, finished_play soundCalled found going, by omega⟩
  rw [refused]

/-- Of all calls to close, one at most sends a shutdown. A call is refused exactly if it comes
before the first connection, and then does nothing. Any other call returns only when the supervisor
has ended, and returns what the supervisor does; it makes two steps at most after its first, and it
can make them once the supervisor has ended. -/
theorem close_protocol {worker : Worker} {retryDelay : Nat} {broker : Broker} {capacity : Nat}
    {suffix : Nat → String} {before after : List Act} {pick : Pick}
    (reached : play perform before (fresh worker retryDelay broker capacity suffix) = some s)
    (going : play perform after (s.requestClose pick) = some t) :
    (Journal.sent s.stage.journal).count .shutdown ≤ 1 ∧
    (Journal.sent t.stage.journal).count .shutdown ≤ 1 ∧
    (t.closers[s.closers.length]? = some (.finished (.error .notConnected)) ↔
      .dialSucceeded ∉ s.stage.journal) ∧
    (.dialSucceeded ∉ s.stage.journal →
      (s.requestClose pick).stage = s.stage ∧
      after.countP (Act.isStepOf (.closer s.closers.length)) = 0) ∧
    (.dialSucceeded ∈ s.stage.journal →
      (∀ result, t.closers[s.closers.length]? = some (.finished result) →
        t.phase.isEnded = true ∧ ∃ outcome, t.outcome = some outcome ∧
          result = closeResult outcome ∧
          ∀ more u, play perform more t = some u → u.outcome = some outcome) ∧
      after.countP (Act.isStepOf (.closer s.closers.length)) ≤ 2 ∧
      (t.outcome.isSome = true →
        (∃ result, t.closers[s.closers.length]? = some (.finished result)) ∨
          ∀ pick, (t.step pick (.closer s.closers.length)).isSome = true)) := by
  have sound := (sound_fresh worker retryDelay broker capacity suffix).of_play reached
  have call := call_requestClose pick s
  have called : Move s (.close pick) (s.requestClose pick) := .calls call
  have soundCalled := sound.move called
  have soundLast := soundCalled.of_play going
  have soFar := sound.single_shutdown
  have single := soundLast.single_shutdown
  cases known : s.everConnected with
  | false =>
      have unmade : .dialSucceeded ∉ s.stage.journal := by
        rw [← sound.recorded.known, known]
        exact fun same => nomatch same
      obtain ⟨nothing, refused, still⟩ := refused_play sound known going
      exact ⟨soFar, single, ⟨fun _ => unmade, fun _ => refused⟩, fun _ => ⟨nothing, still⟩,
        fun made => absurd made unmade⟩
  | true =>
      have made : .dialSucceeded ∈ s.stage.journal := sound.recorded.known.mp known
      obtain ⟨closer, found, either⟩ := closer_of_call known call
      have unanswered : (s.requestClose pick).Answered s.closers.length := by
        intro result finished
        rcases either with rfl | rfl <;> cases found.symm.trans finished
      have answered := answered_play soundCalled found unanswered going
      obtain ⟨next, last, bounded⟩ := steps_play soundCalled found going
      have few : closer.remaining ≤ 2 := by rcases either with rfl | rfl <;> decide
      refine ⟨soFar, single, ⟨?_, fun unmade => absurd made unmade⟩,
        fun unmade => absurd made unmade, fun _ => ⟨?_, by omega, ?_⟩⟩
      · intro refused
        obtain ⟨outcome, _, same⟩ := answered _ refused
        cases closeResult_ne_notConnected outcome same.symm
      · intro result finished
        obtain ⟨outcome, concluded, same⟩ := answered result finished
        refine ⟨?_, outcome, concluded, same, ?_⟩
        · rw [← soundLast.phased.concluded, concluded]
          rfl
        · exact fun more u continued => outcome_play soundLast concluded continued
      · intro concluded
        rcases closerStep_of_outcome concluded last with ⟨result, rfl⟩ | goes
        · exact .inl ⟨result, last⟩
        · exact .inr goes

/-- Two calls while the slot holds a reconnect signal: the first waits for the slot until the
supervisor has ended, and both return that the connection could not be closed. -/
theorem close_protocol_of_two_calls :
    let refused : BrokerError := .operation "refused"
    let broker := { Broker.initial with
      refusedChannels := [some Broker.channelRefused]
      refusedClose := some refused }
    let start := fresh .publish 0 broker 1 fun _ => ""
    let main := Act.task .first .main
    let closer := fun index => Act.task .first (.closer index)
    ∃ s t,
      play perform [.connect, main, main, .world .drop, .task .first .watcher] start = some s ∧
      .dialSucceeded ∈ s.stage.journal ∧
      play perform (.close .first :: .replicate 4 main ++ [closer 0, closer 0, closer 1])
        (s.requestClose .first) = some t ∧
      t.closers = [.finished (.error (.close refused)), .finished (.error (.close refused))] ∧
      (Journal.sent t.stage.journal).count .shutdown ≤ 1 ∧
      t.phase.isEnded = true ∧
      ∃ outcome, t.outcome = some outcome ∧ .error (.close refused) = closeResult outcome := by
  intro refused broker start main closer
  have ran : ((play perform [.connect, main, main, .world .drop, .task .first .watcher] start).bind
      fun s => (play perform (.close .first :: .replicate 4 main ++ [closer 0, closer 0, closer 1])
        (s.requestClose .first)).map fun t => (s.stage.journal[4]?, s.closers.length, t.closers)) =
      some (some .dialSucceeded, 0,
        [.finished (.error (.close refused)), .finished (.error (.close refused))]) := by
    rfl
  obtain ⟨s, reached, rest⟩ := Option.bind_eq_some_iff.mp ran
  obtain ⟨t, going, same⟩ := Option.map_eq_some_iff.mp rest
  have told : s.stage.journal[4]? = some .dialSucceeded := congrArg Prod.fst same
  have place : s.closers.length = 0 := congrArg (·.2.1) same
  have closers : t.closers =
      [.finished (.error (.close refused)), .finished (.error (.close refused))] :=
    congrArg (·.2.2) same
  have connected := List.mem_of_getElem? told
  obtain ⟨_, single, _, _, answers⟩ := close_protocol reached going
  have first : t.closers[s.closers.length]? = some (.finished (.error (.close refused))) := by
    rw [closers, place]
    rfl
  obtain ⟨ended, outcome, concluded, same, _⟩ := (answers connected).1 _ first
  exact ⟨s, t, reached, connected, going, closers, single, ended, outcome, concluded, same⟩

end Supervised

end ExchangeTap
