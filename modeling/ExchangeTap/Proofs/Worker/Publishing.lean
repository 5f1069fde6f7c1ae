import ExchangeTap.Proofs.Control.Handing
import ExchangeTap.Proofs.Play
import ExchangeTap.Proofs.Worker.Cleanup
import ExchangeTap.Proofs.Worker.Conduct
import ExchangeTap.Proofs.Worker.Course
import ExchangeTap.Proofs.Worker.Idle
import ExchangeTap.Proofs.Worker.World

/-! A message leaves the feed only to go to the broker, at once and whatever the broker answers, so
that no end of an epoch can come between the two. -/

namespace ExchangeTap

/-- A message that has reached the broker, whether it was accepted there or not. -/
def Event.published? : Event → Option Outbound
  | executed _ (.publish message) _ => some message
  | _ => none

namespace Journal

/-- The messages that have reached the broker, in order. -/
def published (journal : Journal) : List Outbound :=
  (journal.filterMap Event.published?).reverse

@[simp] theorem published_nil : published [] = [] := rfl

@[simp] private theorem published_cons (e : Event) (journal : Journal) :
    published (e :: journal) = published journal ++ e.published?.toList := by
  cases published : e.published? <;> simp [Journal.published, published]

@[simp] private theorem published_append (events journal : Journal) :
    published (events ++ journal) = published journal ++ published events := by
  simp [published]

private theorem published_of_none {events : Journal} (inner : ∀ e ∈ events, e.published? = none) :
    published events = [] := by
  rw [published, List.reverse_eq_nil_iff, List.filterMap_eq_nil_iff]
  exact inner

end Journal

namespace Pipe

variable {pipe after : Pipe α} {item : α}

private theorem eq_of_receive (received : pipe.receive = (.ready (some item), after)) :
    pipe = { after with items := item :: after.items } := by
  obtain ⟨capacity, items, sending, receiving⟩ := pipe
  cases items with
  | nil => cases sending <;> simp [receive] at received
  | cons first rest =>
      cases received
      rfl

private theorem drained_of_receive (received : pipe.receive = (.ready none, after)) :
    pipe.items = [] ∧ pipe.sending = false := by
  obtain ⟨capacity, items, sending, receiving⟩ := pipe
  cases items with
  | nil => cases sending <;> simp [receive] at received ⊢
  | cons first rest => cases received

end Pipe

namespace Stage

/-- These messages have gone from the feed to the broker. -/
structure Posts (before : Stage) (messages : List Outbound) (after : Stage) : Prop where
  published : Journal.published after.journal = Journal.published before.journal ++ messages
  feed : before.feed = { after.feed with items := messages ++ after.feed.items }

def Drained (s : Stage) : Prop :=
  s.feed.items = [] ∧ s.feed.sending = false

/-- All messages that the feed has accepted went to the broker, or are still in the feed. -/
def Posted (s : Stage) (accepted : List Outbound) : Prop :=
  Journal.published s.journal ++ s.feed.items = accepted

def admitted (s : Stage) : World → List Outbound
  | .feed message =>
    if s.feed.sending then
      match s.feed.send message with
      | .sent _ => [message]
      | .full | .closed => []
    else []
  | _ => []

variable {s t u : Stage} {messages more accepted : List Outbound}

theorem Posts.trans (first : s.Posts messages t) (second : t.Posts more u) :
    s.Posts (messages ++ more) u := by
  refine ⟨?_, ?_⟩
  · rw [second.published, first.published, List.append_assoc]
  · rw [first.feed, second.feed, List.append_assoc]

theorem posts_nothing (inner : s.Tells (·.published? = none) t) (feed : t.feed = s.feed) :
    s.Posts [] t := by
  obtain ⟨events, journal, told⟩ := inner
  refine ⟨?_, by rw [feed]; rfl⟩
  rw [journal, Journal.published_append, Journal.published_of_none told]

theorem Posts.posted (posts : s.Posts messages t) (posted : s.Posted accepted) :
    t.Posted accepted := by
  unfold Posted at posted ⊢
  rw [posts.published, ← posted, posts.feed, List.append_assoc]

theorem Posts.drained (posts : s.Posts messages t) (drained : s.Drained) : t.Drained := by
  obtain ⟨empty, ended⟩ := drained
  rw [posts.feed] at empty ended
  exact ⟨(List.append_eq_nil_iff.mp empty).2, ended⟩

private theorem items_undergo (s : Stage) (move : World) :
    (s.undergo move).feed.items = s.feed.items ++ s.admitted move := by
  cases move with
  | feed message =>
      simp only [undergo, admitted]
      split
      · cases sent : s.feed.send message with
        | sent feed => exact Pipe.items_of_send sent
        | full | closed => exact (List.append_nil _).symm
      · exact (List.append_nil _).symm
  | _ => exact (List.append_nil _).symm

theorem Posted.undergo (posted : s.Posted accepted) (move : World) :
    (s.undergo move).Posted (accepted ++ s.admitted move) := by
  unfold Posted at posted ⊢
  rw [undergo_journal, items_undergo, ← posted, List.append_assoc]

theorem Drained.undergo (drained : s.Drained) (move : World) : (s.undergo move).Drained := by
  obtain ⟨empty, ended⟩ := drained
  cases move with
  | feed message =>
      simp only [Stage.undergo, ended, Bool.false_eq_true, if_false]
      exact ⟨empty, ended⟩
  | endFeed => exact ⟨empty, rfl⟩
  | _ => exact ⟨empty, ended⟩

private theorem posts_log (s : Stage) (entry : LogEntry) : s.Posts [] (s.log entry) :=
  posts_nothing (tells_record s rfl) rfl

private theorem posts_cancelControl (s : Stage) (r : Reader) : s.Posts [] (s.cancelControl r) :=
  posts_nothing (tells_of_journal rfl) rfl

private theorem posts_pollControl {r : Reader} {result : Poll (Option Signal)}
    (polled : s.pollControl r = (result, t)) : s.Posts [] t := by
  refine posts_nothing (tells_pollControl (fun _ => rfl) polled) ?_
  rcases pollControl_eq polled with ⟨_, _, _, rfl⟩ | ⟨_, _, rfl⟩ <;> rfl

private theorem gone_of_pollControl_end {r : Reader} (polled : s.pollControl r = (.ready none, t)) :
    s.control.slot = none ∧ s.control.senderAlive = false := by
  refine ControlPath.gone_of_poll_end r ?_
  unfold pollControl at polled
  split at polled <;> rename_i answer
  · cases polled
  · rw [answer]
    exact congrArg Prod.fst polled

private theorem posts_openChannel {result : Except BrokerError Channel}
    (opened : s.openChannel = (result, t)) : s.Posts [] t := by
  refine posts_nothing (tells_openChannel (fun _ => rfl) (fun _ => rfl) opened) ?_
  unfold openChannel at opened
  split at opened <;> cases opened <;> rfl

private theorem posts_execute {channel left : Channel} {message : Outbound} {feed : Pipe Outbound}
    {result : Except BrokerError Unit} (isOpen : channel.closed = false)
    (taken : s.feed = { feed with items := message :: feed.items })
    (executed : { s with feed := feed }.execute channel (.publish message) = (result, left, t)) :
    s.Posts [message] t := by
  refine ⟨?_, ?_⟩
  · rw [journal_of_execute isOpen executed, Journal.published_cons]
    rfl
  · have kept : t.feed = feed := by
      rw [execute, if_neg (by simp [isOpen])] at executed
      cases executed
      rfl
    rw [taken, kept]
    rfl

end Stage

namespace PublishRun

def Equipped (run : PublishRun) : Prop :=
  ∀ channel, run.phase = .ready channel → channel.closed = false

variable {run next : PublishRun} {s t : Stage}

private theorem equipped_finished (action : Action) : (⟨.finished action⟩ : PublishRun).Equipped :=
  nofun

private theorem equipped_ready {channel : Channel} (isOpen : channel.closed = false) :
    (⟨.ready channel⟩ : PublishRun).Equipped := by
  rintro _ ⟨⟩
  exact isOpen

private theorem publish_posts {channel : Channel} {message : Outbound} {feed : Pipe Outbound}
    (isOpen : channel.closed = false)
    (taken : s.feed = { feed with items := message :: feed.items })
    (published : publish channel message { s with feed := feed } = (next, t)) :
    next.Equipped ∧ s.Posts [message] t := by
  unfold publish at published
  split at published <;> rename_i executed <;> cases published <;>
    have posts := Stage.posts_execute isOpen taken executed
  · obtain ⟨_, rfl⟩ := Stage.open_of_execute_ok executed
    exact ⟨equipped_ready isOpen, posts⟩
  · exact ⟨nofun, posts.trans (Stage.posts_log _ _)⟩

private theorem ready_posts {channel : Channel} (isOpen : channel.closed = false)
    (stepped : step ⟨.ready channel⟩ s = some (next, t)) :
    next.Equipped ∧ ∃ messages, s.Posts messages t := by
  cases polled : s.pollControl .worker with
  | mk result after =>
      have heard := Stage.posts_pollControl polled
      simp only [step, polled] at stepped
      cases result with
      | ready answer =>
          split at stepped <;> rename_i answered <;> cases answered <;> cases stepped <;>
            exact ⟨equipped_finished _, [], heard⟩
      | pending =>
          have given := heard.trans (after.posts_cancelControl .worker)
          simp only at stepped
          split at stepped
          · rename_i message feed received
            have taken : (after.cancelControl .worker).feed =
                { feed with items := message :: feed.items } := Pipe.eq_of_receive received
            obtain ⟨equipped, posts⟩ := publish_posts isOpen taken (Option.some.inj stepped)
            exact ⟨equipped, _, given.trans posts⟩
          · cases stepped
            exact ⟨equipped_finished _, [], given.trans (Stage.posts_log _ _)⟩
          · obtain ⟨waiting, awaited, same⟩ := Option.map_eq_some_iff.mp stepped
            cases same
            cases Stage.eq_of_awaiting awaited
            exact ⟨equipped_ready isOpen, [], heard⟩

theorem step_posts (equipped : run.Equipped) (stepped : run.step s = some (next, t)) :
    next.Equipped ∧ ∃ messages, s.Posts messages t := by
  obtain ⟨phase⟩ := run
  cases phase with
  | opening =>
      simp only [step] at stepped
      split at stepped <;> rename_i opened <;> cases stepped <;>
        have posts := Stage.posts_openChannel opened
      · exact ⟨equipped_finished _, [], posts.trans (Stage.posts_log _ _)⟩
      · exact ⟨equipped_ready (Stage.journal_of_openChannel_ok opened).2, [],
          posts.trans (Stage.posts_log _ _)⟩
  | reopening =>
      simp only [step] at stepped
      split at stepped <;> rename_i opened <;> cases stepped <;>
        have posts := Stage.posts_openChannel opened
      · exact ⟨equipped_finished _, [], posts.trans (Stage.posts_log _ _)⟩
      · exact ⟨equipped_ready (Stage.journal_of_openChannel_ok opened).2, [], posts⟩
  | ready channel => exact ready_posts (equipped channel rfl) stepped
  | finished action => cases stepped

theorem stop_of_step (stepped : run.step s = some (⟨.finished .stop⟩, t)) :
    s.Drained ∨ t.journal = .signalTaken .shutdown .worker :: s.journal ∨
      s.control.slot = none ∧ s.control.senderAlive = false := by
  obtain ⟨phase⟩ := run
  cases phase with
  | opening | reopening =>
      simp only [step] at stepped
      split at stepped <;> cases stepped
  | ready channel =>
      cases polled : s.pollControl .worker with
      | mk result after =>
          have heard := Stage.posts_pollControl polled
          simp only [step, polled] at stepped
          cases result with
          | ready answer =>
              rcases Stage.pollControl_eq polled with ⟨signal, control, same, rfl⟩ | ⟨_, silent, _⟩
              · cases same
                cases signal <;> cases stepped
                exact .inr (.inl rfl)
              · cases answer with
                | some signal => cases silent signal rfl
                | none => exact .inr (.inr (Stage.gone_of_pollControl_end polled))
          | pending =>
              simp only at stepped
              split at stepped
              · unfold publish at stepped
                split at stepped <;> cases stepped
              · rename_i received
                obtain ⟨empty, ended⟩ := Pipe.drained_of_receive received
                refine .inl ⟨?_, ?_⟩
                · rw [heard.feed]
                  exact empty
                · rw [heard.feed]
                  exact ended
              · obtain ⟨waiting, awaited, same⟩ := Option.map_eq_some_iff.mp stepped
                cases same
  | finished action => cases stepped

end PublishRun

/-- Epochs of a publishing worker, one after another, with the messages that its feed has accepted. -/
structure Publishing where
  run : PublishRun
  stage : Stage
  accepted : List Outbound

namespace Publishing

inductive Turn where
  | worker
  | renew
  | world (move : World)
  /-- The stage becomes another one, but for the feed. What is told of it is not about channels. -/
  | elsewhere (stage : Stage) (told : List Event)

def start (stage : Stage) : Publishing :=
  ⟨.start, stage, []⟩

def take : Turn → Publishing → Option Publishing
  | .worker, p => (p.run.step p.stage).map fun (run, stage) => { p with run := run, stage := stage }
  | .renew, p =>
    match p.run.phase with
    | .finished _ => some { p with run := .start }
    | _ => none
  | .world move, p =>
    some { p with
      stage := p.stage.undergo move
      accepted := p.accepted ++ p.stage.admitted move }
  | .elsewhere stage told, p =>
    some { p with
      stage := { stage with
        feed := p.stage.feed
        journal := told.filter (!·.isOnChannel) ++ p.stage.journal } }

structure Sound (p : Publishing) : Prop where
  equipped : p.run.Equipped
  posted : p.stage.Posted p.accepted

variable {p next : Publishing}

theorem sound_start (broker : Broker) (capacity : Nat) (suffix : Nat → String) :
    (start (.initial broker capacity suffix)).Sound :=
  ⟨nofun, rfl⟩

theorem Sound.take {turn : Turn} (sound : p.Sound) (taken : take turn p = some next) :
    next.Sound := by
  cases turn with
  | worker =>
      obtain ⟨⟨run, stage⟩, stepped, same⟩ := Option.map_eq_some_iff.mp taken
      cases same
      obtain ⟨equipped, messages, posts⟩ := PublishRun.step_posts sound.equipped stepped
      exact ⟨equipped, posts.posted sound.posted⟩
  | renew =>
      simp only [Publishing.take] at taken
      split at taken <;> cases taken
      exact ⟨nofun, sound.posted⟩
  | world move =>
      cases taken
      exact ⟨sound.equipped, sound.posted.undergo move⟩
  | elsewhere stage told =>
      cases taken
      refine ⟨sound.equipped, ?_⟩
      have silent : ∀ e ∈ told.filter (!·.isOnChannel), e.published? = none := by
        intro e member
        have other := (List.mem_filter.mp member).2
        cases e <;> first | rfl | cases other
      have posted := sound.posted
      unfold Stage.Posted at posted ⊢
      rw [Journal.published_append, Journal.published_of_none silent, List.append_nil]
      exact posted

end Publishing

end ExchangeTap
