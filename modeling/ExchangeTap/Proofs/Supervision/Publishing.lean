import ExchangeTap.Proofs.Supervision.Attention
import ExchangeTap.Proofs.Worker.Publishing

namespace ExchangeTap

def Event.isBeside : Event → Bool
  | executed _ _ _ | epochStarted => false
  | _ => true

private theorem Event.published?_of_beside {e : Event} (beside : e.isBeside = true) :
    e.published? = none := by
  cases e <;> first | rfl | cases beside

private theorem Event.startsEpoch_of_beside {e : Event} (beside : e.isBeside = true) :
    e.startsEpoch = false := by
  cases e <;> first | rfl | cases beside

def Act.isWorld : Act → Bool
  | world _ => true
  | _ => false

def SupervisorPhase.returned? : SupervisorPhase → Option Action
  | working run => run.result?
  | joining action | closing action => some action
  | _ => none

private theorem PublishRun.phase_of_result {run : PublishRun} {action : Action}
    (returned : (Run.publish run).result? = some action) : run = ⟨.finished action⟩ := by
  obtain ⟨phase⟩ := run
  cases phase <;> cases returned
  rfl

namespace Supervised

/-- The worker publishes what its feed has accepted, and when it stops there was a reason. -/
structure Posting (s : Supervised) (accepted : List Outbound) : Prop where
  worker : s.worker = .publish
  equipped : ∀ run, s.phase = .working run → ∃ epoch, run = .publish epoch ∧ epoch.Equipped
  posted : s.stage.Posted accepted
  stopped : s.phase.returned? = some .stop →
    s.stage.Drained ∨ .shutdown ∈ Journal.taken s.epoch

structure Forwards (s t : Supervised) (accepted : List Outbound) : Prop where
  posting : t.Posting accepted
  posts : ∃ messages, s.stage.Posts messages t.stage

variable {s t : Supervised} {act : Act} {accepted : List Outbound}

theorem posting_fresh (retryDelay : Nat) (broker : Broker) (capacity : Nat)
    (suffix : Nat → String) : (fresh .publish retryDelay broker capacity suffix).Posting [] :=
  ⟨rfl, fun _ working => (nomatch working), rfl, fun stopped => (nomatch stopped)⟩

private theorem mem_taken_epoch {signal : Signal} (inner : s.stage.Tells (·.startsEpoch = false) t.stage)
    (taken : signal ∈ Journal.taken s.epoch) : signal ∈ Journal.taken t.epoch := by
  obtain ⟨events, _, epoch⟩ := epoch_of_tells inner
  rw [epoch, Journal.taken_append]
  exact List.mem_append_left _ taken

theorem Posting.beside (posting : s.Posting accepted) (worker : t.worker = s.worker)
    (running : ∀ run, t.phase = .working run → s.phase = .working run)
    (returned : t.phase.returned? = some .stop → s.phase.returned? = some .stop)
    (feed : t.stage.feed = s.stage.feed) (inner : s.stage.Tells (·.isBeside = true) t.stage) :
    s.Forwards t accepted := by
  have posts := Stage.posts_nothing (inner.mono fun _ => Event.published?_of_beside) feed
  refine ⟨⟨worker.trans posting.worker,
    fun run working => posting.equipped run (running run working),
    posts.posted posting.posted, fun stopped => ?_⟩, [], posts⟩
  exact (posting.stopped (returned stopped)).imp posts.drained
    (mem_taken_epoch (inner.mono fun _ => Event.startsEpoch_of_beside))

theorem Posting.rest (posting : s.Posting accepted) (worker : t.worker = s.worker)
    (detached : t.phase.isConnected = false) (feed : t.stage.feed = s.stage.feed)
    (inner : s.stage.Tells (·.isBeside = true) t.stage) : s.Forwards t accepted := by
  refine posting.beside worker ?_ ?_ feed inner
  · intro run working
    rw [working] at detached
    cases detached
  · intro stopped
    cases phase : t.phase with
    | working | joining | closing =>
        rw [phase] at detached
        cases detached
    | _ =>
        rw [phase] at stopped
        cases stopped

theorem Posting.stay (posting : s.Posting accepted) (worker : t.worker = s.worker)
    (phase : t.phase = s.phase) (feed : t.stage.feed = s.stage.feed)
    (inner : s.stage.Tells (·.isBeside = true) t.stage) : s.Forwards t accepted :=
  posting.beside worker (fun _ working => phase ▸ working) (fun stopped => phase ▸ stopped) feed inner

theorem Posting.work {run next : Run} {stage : Stage} {pick : Pick} (posting : s.Posting accepted)
    (alive : s.stage.control.senderAlive = true) (phase : s.phase = .working run)
    (stepped : run.step pick s.stage = some (next, stage)) :
    s.Forwards { s with stage := stage, phase := .working next } accepted := by
  obtain ⟨epoch, rfl, equipped⟩ := posting.equipped run phase
  obtain ⟨⟨later, stage⟩, moved, same⟩ := Option.map_eq_some_iff.mp stepped
  cases same
  obtain ⟨equipped, messages, posts⟩ := PublishRun.step_posts equipped moved
  refine ⟨⟨posting.worker, ?_, posts.posted posting.posted, ?_⟩, messages, posts⟩
  · rintro _ ⟨⟩
    exact ⟨later, rfl, equipped⟩
  · intro returned
    cases PublishRun.phase_of_result returned
    rcases PublishRun.stop_of_step moved with drained | told | ⟨_, gone⟩
    · exact .inl (posts.drained drained)
    · -- the step that stops the worker is the one that takes the shutdown
      refine .inr ?_
      simp only [Supervised.epoch, told, Journal.epoch_cons, Event.startsEpoch]
      exact Journal.mem_taken List.mem_cons_self
    · cases alive.symm.trans gone

theorem Posting.begin (posting : s.Posting accepted) {broker : Broker} :
    s.Forwards { s with
      stage := { s.stage.unlock with broker := broker }.record .dialSucceeded }.beginEpoch
      accepted := by
  have inner : s.stage.Tells (·.published? = none)
      ((({ s.stage.unlock with broker := broker }.record .dialSucceeded).log .connected).record
        .epochStarted) :=
    .trans (Stage.tells_record { s.stage.unlock with broker := broker } rfl)
      (.trans (Stage.tells_log _ rfl) (Stage.tells_record _ rfl))
  have posts := Stage.posts_nothing inner rfl
  refine ⟨⟨posting.worker, ?_, posts.posted posting.posted, ?_⟩, [], posts⟩
  · rintro _ ⟨⟩
    rw [posting.worker]
    exact ⟨.start, rfl, nofun⟩
  · intro returned
    simp only [beginEpoch, posting.worker] at returned
    cases returned

@[simp] theorem feed_close (s : Supervised) (action : Action) :
    (s.close action).stage.feed = s.stage.feed := by
  obtain ⟨_, _, closed⟩ := stage_close s action
  rw [closed]

theorem Posting.close {action : Action} (posting : s.Posting accepted) :
    s.Forwards (s.close action) accepted := by
  have closing : s.stage.Tells (·.isBeside = true) s.stage.closeConnection.2 :=
    Stage.tells_record { s.stage with broker := _ } rfl
  refine posting.rest ?_ (detached_close s action).2.1 (feed_close s action)
    (closing.trans (tells_close (fun _ => rfl) s action))
  unfold Supervised.close
  dsimp only
  split <;> rfl

theorem Posting.undergo (posting : s.Posting accepted) (change : World) :
    Posting { s with stage := s.stage.undergo change } (accepted ++ s.stage.admitted change) := by
  refine ⟨posting.worker, posting.equipped, posting.posted.undergo change, fun stopped => ?_⟩
  rw [Supervised.epoch, Stage.undergo_journal]
  exact (posting.stopped stopped).imp_left fun drained => drained.undergo change

def admitted (s : Supervised) : Act → List Outbound
  | .world change => s.stage.admitted change
  | _ => []

theorem Posting.call (posting : s.Posting accepted) (call : Call s t) :
    s.Forwards t accepted := by
  cases call with
  | refuses | follows => exact posting.stay rfl rfl rfl (.refl _)
  | comesLate | queues => exact posting.stay rfl rfl rfl (Stage.tells_log _ rfl)
  | sends =>
      exact posting.stay rfl rfl rfl (.trans (Stage.tells_log _ rfl) (Stage.tells_put _ rfl))

theorem Posting.inner (guarded : s.Guarded) (posting : s.Posting accepted)
    (performed : perform act s = some t) (inner : act.isWorld = false) :
    s.Forwards t accepted := by
  cases move_of_perform guarded performed with
  | begins => exact posting.rest rfl rfl rfl (.refl _)
  | hearsReconnect => exact posting.rest rfl rfl rfl (Stage.tells_hear _ rfl)
  | hearsShutdown =>
      exact posting.rest rfl rfl rfl (.trans (Stage.tells_hear _ rfl) (Stage.tells_log _ rfl))
  | remembers => exact posting.rest rfl rfl rfl (Stage.tells_log _ rfl)
  | dials => exact posting.rest rfl rfl rfl (Stage.tells_record s.stage.await rfl)
  | fails => exact posting.rest rfl rfl rfl (Stage.tells_log { s.stage.await with broker := _ } rfl)
  | retries => exact posting.rest rfl rfl rfl (.refl _)
  | sleeps | dismisses | givesUp | finishes => exact posting.stay rfl rfl rfl (.refl _)
  | connects => exact posting.begin
  | works phase unfinished =>
      exact posting.work guarded.senderAlive phase (step_of_works phase unfinished performed)
  | merges phase =>
      obtain ⟨epoch, rfl, _⟩ := posting.equipped _ phase
      cases step_of_merges phase performed
  | returns phase returned =>
      refine posting.beside rfl (fun _ working => nomatch working) ?_ rfl
        (Stage.tells_record _ rfl)
      rw [phase]
      rintro ⟨⟩
      exact returned
  | joins phase =>
      refine posting.beside rfl (fun _ working => nomatch working) ?_ rfl (.refl _)
      rw [phase]
      exact id
  | quits phase | redials phase =>
      rw [← close_of_perform phase performed]
      exact posting.close
  | reports =>
      exact posting.stay rfl rfl rfl (.trans (Stage.tells_log _ rfl) (Stage.tells_put _ rfl))
  | concedes =>
      exact posting.stay rfl rfl rfl (.trans (Stage.tells_log _ rfl) (Stage.tells_log _ rfl))
  | delivers => exact posting.stay rfl rfl rfl (Stage.tells_put s.stage rfl)
  | calls call => exact posting.call call
  | world change => cases inner

theorem Posting.perform (guarded : s.Guarded) (posting : s.Posting accepted)
    (performed : perform act s = some t) : t.Posting (accepted ++ s.admitted act) := by
  cases act with
  | world change =>
      cases performed
      exact posting.undergo change
  | connect | close | task =>
      simp only [admitted, List.append_nil]
      exact (posting.inner guarded performed rfl).posting

/-- A supervised publishing worker, with the messages that its feed has accepted. -/
structure Fed where
  supervised : Supervised
  accepted : List Outbound

namespace Fed

def perform (act : Act) (f : Fed) : Option Fed :=
  (performAnew act f.supervised).map fun s => ⟨s, f.accepted ++ f.supervised.admitted act⟩

structure Sound (f : Fed) : Prop where
  guarded : f.supervised.Guarded
  posting : f.supervised.Posting f.accepted

variable {f next : Fed}

theorem Sound.once {u : Supervised} (sound : f.Sound)
    (once : Supervised.perform act f.supervised = some u) :
    Sound ⟨u, f.accepted ++ f.supervised.admitted act⟩ :=
  ⟨sound.guarded.move (move_of_perform sound.guarded once),
    sound.posting.perform sound.guarded once⟩

theorem Sound.perform (sound : f.Sound) (performed : perform act f = some next) : next.Sound := by
  obtain ⟨u, done, rfl⟩ := Option.map_eq_some_iff.mp performed
  cases act with
  | connect =>
      rcases perform_of_performAnew done with once | ⟨phase, rfl⟩
      · exact sound.once once
      · have lock := sound.guarded.lock
        rw [phase] at lock
        refine ⟨⟨lock, sound.guarded.senderAlive⟩, ?_⟩
        simp only [admitted, List.append_nil]
        have rested : f.supervised.Forwards { f.supervised with phase := .draining } f.accepted :=
          sound.posting.rest rfl rfl rfl (.refl _)
        exact rested.posting
  | close | task | world => exact sound.once done

end Fed

end Supervised

open Supervised in
/-- The messages that have reached the broker over all epochs, and those that are still in the feed,
are the messages that the feed has accepted, in its order; and a worker stops only when the feed is
drained, when it has received a shutdown, or when no signal can come any more. That holds of epochs
that come one after another however they may, and of those of a supervisor, where signals can always
come. -/
theorem Publishing.published_once_in_order {broker : Broker} {capacity retryDelay : Nat}
    {suffix : Nat → String} {turns : List Publishing.Turn} {acts : List Act} {p : Publishing}
    {f : Fed}
    (taken : play Publishing.take turns (.start (.initial broker capacity suffix)) = some p)
    (performed : play Fed.perform acts ⟨fresh .publish retryDelay broker capacity suffix, []⟩ =
      some f) :
    (Journal.published p.stage.journal ++ p.stage.feed.items = p.accepted ∧
      ∀ stage, p.run.step p.stage = some (⟨.finished .stop⟩, stage) →
        p.stage.Drained ∨ stage.journal = .signalTaken .shutdown .worker :: p.stage.journal ∨
          p.stage.control.slot = none ∧ p.stage.control.senderAlive = false) ∧
    (Journal.published f.supervised.stage.journal ++ f.supervised.stage.feed.items = f.accepted ∧
      (f.supervised.phase.returned? = some .stop →
        f.supervised.stage.Drained ∨ .shutdown ∈ Journal.taken f.supervised.epoch)) := by
  refine ⟨?_, ?_⟩
  · have sound := play_preserves Publishing.Sound.take
      (Publishing.sound_start broker capacity suffix) taken
    exact ⟨sound.posted, fun _ stepped => PublishRun.stop_of_step stepped⟩
  · have sound := play_preserves Fed.Sound.perform
      ⟨guarded_fresh .publish retryDelay broker capacity suffix,
        posting_fresh retryDelay broker capacity suffix⟩ performed
    exact ⟨sound.posting.posted, sound.posting.stopped⟩

open Supervised in
/-- The first message is refused, and its channel cannot be opened again; the second message waits
for the next epoch, and then the feed ends. -/
theorem Publishing.published_once_in_order_past_a_refusal :
    let message (key : String) : Outbound := ⟨"", key, .empty, []⟩
    let broker := { Broker.initial with
      refusals := [⟨some .publish, none, 0, 1, Broker.channelClosed⟩]
      refusedChannels := [none, some Broker.channelRefused] }
    let feeds : List World := [.feed (message "a"), .feed (message "b"), .endFeed]
    let main := Act.task .first .main
    let turns : List Publishing.Turn :=
      feeds.map .world ++ .replicate 3 .worker ++ [.renew, .worker, .worker]
    let acts := [.connect, main, main] ++ feeds.map .world ++ .replicate 4 main ++
      [.task .second .watcher] ++ .replicate 8 main
    ∃ p stage f, play take turns (start (.initial broker 2 fun _ => "")) = some p ∧
      play Fed.perform acts ⟨fresh .publish 0 broker 2 fun _ => "", []⟩ = some f ∧
      p.run.step p.stage = some (⟨.finished .stop⟩, stage) ∧
      (Journal.published p.stage.journal).map Outbound.routingKey = ["a", "b"] ∧
      Journal.published p.stage.journal ++ p.stage.feed.items = p.accepted ∧
      f.supervised.phase.returned? = some .stop ∧ f.supervised.epochs = 2 ∧
      (Journal.published f.supervised.stage.journal).map Outbound.routingKey = ["a", "b"] ∧
      Journal.published f.supervised.stage.journal ++ f.supervised.stage.feed.items = f.accepted := by
  intro message broker feeds main turns acts
  have ran : (play take turns (start (.initial broker 2 fun _ => ""))).bind (fun p =>
      (p.run.step p.stage).map fun next =>
        ((Run.publish next.1).result?,
          (Journal.published p.stage.journal).map Outbound.routingKey)) =
      some (some .stop, ["a", "b"]) := by
    decide +kernel
  have supervised : (play Fed.perform acts ⟨fresh .publish 0 broker 2 fun _ => "", []⟩).map
      (fun f => (f.supervised.phase.returned?, f.supervised.epochs,
        (Journal.published f.supervised.stage.journal).map Outbound.routingKey)) =
      some (some .stop, 2, ["a", "b"]) := by
    decide +kernel
  obtain ⟨p, taken, stops⟩ := Option.bind_eq_some_iff.mp ran
  obtain ⟨⟨run, stage⟩, stepped, same⟩ := Option.map_eq_some_iff.mp stops
  obtain ⟨stopped, alone⟩ := Prod.mk.inj same
  cases PublishRun.phase_of_result stopped
  obtain ⟨f, performed, same⟩ := Option.map_eq_some_iff.mp supervised
  simp only [Prod.mk.injEq] at same
  obtain ⟨returned, epochs, together⟩ := same
  obtain ⟨⟨posted, _⟩, ⟨postedAll, _⟩⟩ := published_once_in_order taken performed
  exact ⟨p, stage, f, taken, performed, stepped, alone, posted, returned, epochs, together,
    postedAll⟩

end ExchangeTap
