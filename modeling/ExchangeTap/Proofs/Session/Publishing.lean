import ExchangeTap.Proofs.Supervision.Publishing
import ExchangeTap.Proofs.Supervision.Winding
import ExchangeTap.Session.Publishing

/-! The supervisor is not asked to close, so the worker stops only when the feed is drained, and the
feed ends only after the last message. -/

namespace ExchangeTap

def Act.isCall : Act → Bool
  | close _ => true
  | _ => false

namespace Supervised

variable {s t : Supervised} {act : Act} {accepted : List Outbound}

private theorem sent_of_epoch {signal : Signal} (sent : signal ∈ Journal.sent s.epoch) :
    signal ∈ Journal.sent s.stage.journal :=
  Journal.mem_sent.mpr ((List.takeWhile_sublist _).subset (Journal.mem_sent.mp sent))

private theorem unsent_of_unrequested (sound : s.Sound) (unrequested : s.shutdownRequested = false) :
    .shutdown ∉ Journal.sent s.epoch := by
  intro sent
  have none := (sound.signalling.unrequested unrequested).2
  have counted := List.count_pos_iff.mpr (sent_of_epoch sent)
  unfold shutdowns at none
  omega

/-- A supervisor that was not asked to close, with what its feed has accepted. It ends only after the
feed is drained. -/
structure Unhurried (s : Supervised) (accepted : List Outbound) : Prop where
  sound : s.Sound
  epochal : s.Epochal
  posting : s.Posting accepted
  unrequested : s.shutdownRequested = false
  ended : s.phase.isEnded = true → s.stage.Drained

theorem Unhurried.drained (unhurried : s.Unhurried accepted)
    (stopped : s.phase.returned? = some .stop) : s.stage.Drained := by
  refine (unhurried.posting.stopped stopped).resolve_right fun taken => ?_
  refine unsent_of_unrequested unhurried.sound unhurried.unrequested ?_
  rw [← unhurried.epochal.balance]
  exact List.mem_append_left _ taken

theorem Unhurried.unsignalled (unhurried : s.Unhurried accepted) :
    s.stage.control.slot ≠ some .shutdown := by
  intro pending
  refine unsent_of_unrequested unhurried.sound unhurried.unrequested ?_
  rw [← unhurried.epochal.balance, pending]
  simp

private theorem requested_of_move (move : Move s act t) (uncalled : act.isCall = false) :
    t.shutdownRequested = s.shutdownRequested := by
  cases move with
  | calls => cases uncalled
  | _ => rfl

theorem Unhurried.perform (unhurried : s.Unhurried accepted) (uncalled : act.isCall = false)
    (performed : perform act s = some t) : t.Unhurried (accepted ++ s.admitted act) := by
  have guarded := unhurried.sound.guarded
  have move := move_of_perform guarded performed
  refine ⟨unhurried.sound.move move, unhurried.epochal.move move,
    unhurried.posting.perform guarded performed,
    (requested_of_move move uncalled).trans unhurried.unrequested, fun ended => ?_⟩
  cases move with
  | hearsShutdown _ pending => exact absurd pending unhurried.unsignalled
  | remembers _ _ requested => cases unhurried.unrequested.symm.trans requested
  | quits phase final =>
      rw [← close_of_perform phase performed, Stage.Drained, feed_close]
      refine unhurried.drained ?_
      rcases final with rfl | requested
      · rw [phase]
        rfl
      · cases unhurried.unrequested.symm.trans requested
  | dismisses | reports | concedes | givesUp | delivers | finishes | sleeps =>
      exact unhurried.ended ended
  | calls => cases uncalled
  | world change => exact (unhurried.ended ended).undergo change
  | begins | hearsReconnect | dials | fails | connects | retries | works | merges | returns | joins
  | redials => cases ended

theorem Unhurried.undergo (unhurried : s.Unhurried accepted) (change : World) :
    Unhurried { s with stage := s.stage.undergo change }
      (accepted ++ s.stage.admitted change) :=
  have performed : Supervised.perform (.world change) s =
      some { s with stage := s.stage.undergo change } := rfl
  unhurried.perform rfl performed

private theorem isRunning_of_begun (begun : s.phase ≠ .idle) (unended : s.phase.isEnded = false) :
    s.isRunning = true := by
  unfold isRunning
  cases phase : s.phase with
  | idle => exact absurd phase begun
  | ended => rw [phase] at unended; cases unended
  | _ => rfl

end Supervised

def PublishingPhase.succeeded : PublishingPhase → Bool
  | finished (.ok _) => true
  | _ => false

private theorem PublishingPhase.finished_of_succeeded {phase : PublishingPhase}
    (succeeded : phase.succeeded = true) : phase = .finished (.ok ()) := by
  cases phase with
  | finished result =>
      cases result with
      | ok => rfl
      | error e => cases succeeded
  | _ => cases succeeded

namespace PublishingSession

inductive Act where
  | own
  | member (pick : Pick) (task : Task)
  | interrupt (pick : Pick)
  | world (move : World)

def perform : Act → PublishingSession → Option PublishingSession
  | .own, s => s.ownStep
  | .member pick task, s => s.memberStep pick task
  | .interrupt pick, s => some (s.interrupt pick)
  | .world move, s =>
    if move.isOutside then some { s with member.stage := s.member.stage.undergo move } else none

/-- How far the messages have come: those that were fed, and those that are left. -/
def Progress (messages accepted : List Outbound) (member : Supervised) : PublishingPhase → Prop
  | .feeding left =>
    accepted ++ left = messages ∧ member.stage.feed.sending = true
  | .draining => accepted = messages
  | .stopping _ => False
  | .finished _ => accepted = messages ∧ member.stage.Drained

structure Replaying (messages accepted : List Outbound) (s : PublishingSession) : Prop where
  unhurried : s.member.Unhurried accepted
  begun : s.member.phase ≠ .idle
  receiving : s.member.stage.feed.receiving = true
  progress : Progress messages accepted s.member s.phase

variable {messages accepted : List Outbound} {s t : PublishingSession}

theorem Progress.posts {member next : Supervised} {phase : PublishingPhase} {more : List Outbound}
    (progress : Progress messages accepted member phase)
    (posts : member.stage.Posts more next.stage) : Progress messages accepted next phase := by
  cases phase with
  | feeding left =>
      refine ⟨progress.1, ?_⟩
      have sending := progress.2
      rw [posts.feed] at sending
      exact sending
  | draining | stopping closer => exact progress
  | finished result => exact progress.imp_right posts.drained

theorem Replaying.member {task : Task} {pick : Pick} (replaying : s.Replaying messages accepted)
    (stepped : s.memberStep pick task = some t) : t.Replaying messages accepted := by
  obtain ⟨member, performed, rfl⟩ := Option.map_eq_some_iff.mp stepped
  have performed : Supervised.perform (.task pick task) s.member = some member := performed
  obtain ⟨unhurried, begun, receiving, progress⟩ := replaying
  have guarded := unhurried.sound.guarded
  obtain ⟨_, more, posts⟩ := unhurried.posting.inner guarded performed rfl
  have next := unhurried.perform rfl performed
  simp only [Supervised.admitted, List.append_nil] at next
  refine ⟨next, Supervised.begun_of_move begun (Supervised.move_of_perform guarded performed), ?_,
    progress.posts posts⟩
  rw [posts.feed] at receiving
  exact receiving

theorem Replaying.world {move : World} (replaying : s.Replaying messages accepted)
    (outside : move.isOutside = true) :
    Replaying messages accepted { s with member.stage := s.member.stage.undergo move } := by
  have feed : (s.member.stage.undergo move).feed = s.member.stage.feed := by
    cases move <;> first | rfl | cases outside
  have refused : s.member.stage.admitted move = [] := by
    cases move <;> first | rfl | cases outside
  obtain ⟨unhurried, begun, receiving, progress⟩ := replaying
  have next := unhurried.undergo move
  rw [refused, List.append_nil] at next
  refine ⟨next, begun, ?_, progress.posts (Stage.posts_nothing ?_ feed)⟩
  · rw [feed]
    exact receiving
  · exact Stage.tells_of_journal (Stage.undergo_journal _ _)

theorem Replaying.endFeed (replaying : s.Replaying messages accepted)
    (complete : accepted = messages) : s.endFeed.Replaying messages accepted := by
  obtain ⟨unhurried, begun, receiving, _⟩ := replaying
  have next := unhurried.undergo .endFeed
  simp only [Stage.admitted, List.append_nil] at next
  exact ⟨next, begun, receiving, complete⟩

theorem Replaying.feed {message : Outbound} {left : List Outbound} {feed : Pipe Outbound}
    (replaying : s.Replaying messages accepted) (phase : s.phase = .feeding (message :: left))
    (sent : s.member.stage.feed.send message = .sent feed) :
    Replaying messages (accepted ++ [message])
      { s with member.stage.feed := feed, phase := .feeding left } := by
  obtain ⟨unhurried, begun, receiving, progress⟩ := replaying
  rw [phase] at progress
  obtain ⟨split, sending⟩ := progress
  have next := unhurried.undergo (.feed message)
  simp only [Stage.undergo, Stage.admitted, sending, sent, if_true] at next
  rw [Pipe.eq_of_send sent] at next ⊢
  refine ⟨next, begun, receiving, ?_, sending⟩
  rw [List.append_assoc]
  exact split

theorem Replaying.feedStep {left : List Outbound} (replaying : s.Replaying messages accepted)
    (phase : s.phase = .feeding left) (stepped : s.feedStep left = some t) :
    ∃ accepted, t.Replaying messages accepted := by
  have progress := replaying.progress
  rw [phase] at progress
  obtain ⟨split, sending⟩ := progress
  cases left with
  | nil =>
      cases stepped
      exact ⟨accepted, replaying.endFeed (by simpa using split)⟩
  | cons message left =>
      have unended : s.member.phase.isEnded = false := by
        cases ended : s.member.phase.isEnded with
        | false => rfl
        | true => cases (replaying.unhurried.ended ended).2.symm.trans sending
      have running := Supervised.isRunning_of_begun replaying.begun unended
      simp only [PublishingSession.feedStep, running, Bool.not_true, Bool.false_eq_true, if_false]
        at stepped
      cases sent : s.member.stage.feed.send message with
      | sent feed =>
          rw [sent] at stepped
          cases stepped
          exact ⟨accepted ++ [message], replaying.feed phase sent⟩
      | full =>
          rw [sent] at stepped
          cases stepped
      | closed =>
          -- the worker keeps its end of the feed over all epochs
          have receiving := replaying.receiving
          unfold Pipe.send at sent
          simp only [receiving, Bool.not_true, Bool.false_eq_true, if_false] at sent
          split at sent <;> cases sent

theorem Replaying.own (replaying : s.Replaying messages accepted) (stepped : s.ownStep = some t) :
    ∃ accepted, t.Replaying messages accepted := by
  unfold ownStep at stepped
  cases phase : s.phase with
  | feeding left =>
      rw [phase] at stepped
      exact replaying.feedStep phase stepped
  | draining =>
      rw [phase] at stepped
      obtain ⟨unhurried, begun, receiving, progress⟩ := replaying
      rw [phase] at progress
      obtain ⟨outcome, concluded, rfl⟩ := Option.map_eq_some_iff.mp stepped
      have ended := unhurried.sound.phased.concluded
      rw [concluded] at ended
      exact ⟨accepted, unhurried, begun, receiving, progress, unhurried.ended ended.symm⟩
  | stopping closer =>
      have progress := replaying.progress
      rw [phase] at progress
      cases progress
  | finished result =>
      rw [phase] at stepped
      cases stepped

def Act.isInterrupt : Act → Bool
  | interrupt _ => true
  | _ => false

theorem Replaying.step {act : Act} (replaying : s.Replaying messages accepted)
    (uninterrupted : act.isInterrupt = false) (performed : perform act s = some t) :
    ∃ accepted, t.Replaying messages accepted := by
  cases act with
  | own => exact replaying.own performed
  | member pick task => exact ⟨accepted, replaying.member performed⟩
  | interrupt pick => cases uninterrupted
  | world move =>
      simp only [PublishingSession.perform] at performed
      split at performed <;> cases performed
      rename_i outside
      exact ⟨accepted, replaying.world outside⟩

theorem Replaying.run {acts : List Act} (replaying : s.Replaying messages accepted)
    (uninterrupted : ∀ act ∈ acts, act.isInterrupt = false)
    (played : play perform acts s = some t) : ∃ accepted, t.Replaying messages accepted := by
  induction acts generalizing s accepted with
  | nil =>
      cases played
      exact ⟨accepted, replaying⟩
  | cons act rest ih =>
      obtain ⟨next, performed, after⟩ := Option.bind_eq_some_iff.mp played
      obtain ⟨accepted, going⟩ :=
        replaying.step (uninterrupted act List.mem_cons_self) performed
      exact ih going (fun act member => uninterrupted act (List.mem_cons_of_mem _ member)) after

private theorem replaying_start (settings : Settings) (broker : Broker) (suffix : Nat → String)
    (messages : List Outbound) :
    (start settings (.initial broker settings.outputBuffer suffix) messages).Replaying messages []
    := by
  have fresh : Supervised.Unhurried
      (.fresh .publish (settings.retryDelay * 1000) broker settings.outputBuffer suffix) [] :=
    ⟨Supervised.sound_fresh _ _ _ _ _, Supervised.epochal_of_empty rfl rfl,
      Supervised.posting_fresh _ _ _ _, rfl, fun ended => (nomatch ended)⟩
  have connected : Supervised.perform .connect
      (.fresh .publish (settings.retryDelay * 1000) broker settings.outputBuffer suffix) =
      some (start settings (.initial broker settings.outputBuffer suffix) messages).member := rfl
  exact ⟨fresh.perform rfl connected, fun idle => (nomatch idle), rfl, rfl, rfl⟩

/-- When a session that nobody has interrupted is over, each of its messages has reached the broker
once, in the order of the list. -/
theorem published_of_finished {settings : Settings} {broker : Broker} {suffix : Nat → String}
    {acts : List Act} {result : Except TapError Unit}
    (uninterrupted : ∀ act ∈ acts, act.isInterrupt = false)
    (played : play perform acts
      (start settings (.initial broker settings.outputBuffer suffix) messages) = some s)
    (finished : s.phase = .finished result) :
    Journal.published s.member.stage.journal = messages := by
  obtain ⟨accepted, replaying⟩ :=
    (replaying_start settings broker suffix messages).run uninterrupted played
  have progress := replaying.progress
  rw [finished] at progress
  obtain ⟨complete, empty, _⟩ := progress
  have posted := replaying.unhurried.posting.posted
  rw [Stage.Posted, empty, List.append_nil, complete] at posted
  exact posted

/-- There is room for one message. The first dial fails, the first message is refused, its channel
cannot be opened again, and the second connection is lost. -/
theorem published_of_finished_in_third_epoch :
    let message (key : String) : Outbound := ⟨"", key, .empty, []⟩
    let messages := ["a", "b", "c"].map message
    let broker := { Broker.initial with
      refusals := [⟨some .publish, none, 0, 1, Broker.channelClosed⟩]
      refusedDials := [some Broker.connectionRefused]
      refusedChannels := [none, some Broker.channelRefused] }
    let settings := { Settings.default with retryDelay := 0, outputBuffer := 1 }
    let main := Act.member .first .main
    let watcher := Act.member .second .watcher
    let acts := .own :: .replicate 7 main ++ [.own, main, main, watcher] ++ .replicate 6 main ++
      [.world .drop, watcher, .own, .own] ++ .replicate 10 main ++ [watcher, main, main, .own]
    ∃ s, play perform acts (start settings (.initial broker 1 fun _ => "") messages) = some s ∧
      s.phase = .finished (.ok ()) ∧ s.member.epochs = 3 ∧
      Journal.published s.member.stage.journal = messages := by
  intro message messages broker settings main watcher acts
  have ran : (play perform acts (start settings (.initial broker 1 fun _ => "") messages)).map
      (fun s => (s.phase.succeeded, s.member.epochs)) = some (true, 3) := by
    decide +kernel
  obtain ⟨s, played, same⟩ := Option.map_eq_some_iff.mp ran
  obtain ⟨succeeded, epochs⟩ := Prod.mk.inj same
  have finished := PublishingPhase.finished_of_succeeded succeeded
  exact ⟨s, played, finished, epochs, published_of_finished (by decide) played finished⟩

end PublishingSession

end ExchangeTap
