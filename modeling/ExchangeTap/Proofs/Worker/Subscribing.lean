import ExchangeTap.Proofs.Worker.Channels
import ExchangeTap.Proofs.Worker.Forwarding
import ExchangeTap.Worker.Run

namespace ExchangeTap

namespace Event

/-- Dials and epochs, channels that are refused, operations, and what goes to the output. -/
def isDealing : Event → Bool
  | dialAttempted | dialSucceeded | epochStarted | epochEnded _ | channelRefused _
  | executed _ _ _ | rebuffed _ _ | handedOver _ _ => true
  | logged _ | channelOpened _ | connectionClosed _ | signalSent _ | signalTaken _ _ | noted _ =>
    false

def isDelivery : Event → Bool
  | handedOver (some _) (.delivered _) => true
  | _ => false

end Event

namespace Journal

def dealings (journal : Journal) : Journal :=
  journal.filter Event.isDealing

variable {events journal : Journal} {e : Event}

theorem dealings_cons_of_dealing (deals : e.isDealing = true) :
    dealings (e :: journal) = e :: dealings journal :=
  List.filter_cons_of_pos deals

theorem mem_dealings (deals : e.isDealing = true) (member : e ∈ journal) : e ∈ dealings journal :=
  List.mem_filter.mpr ⟨member, deals⟩

end Journal

namespace Stage

variable {s t u : Stage} {e : Event}

def Deals (s : Stage) (done : Journal) (t : Stage) : Prop :=
  Journal.dealings t.journal = done ++ Journal.dealings s.journal

theorem deals_nothing (tells : s.Tells (·.isDealing = false) t) : s.Deals [] t := by
  obtain ⟨events, journal, beside⟩ := tells
  have nothing : events.filter Event.isDealing = [] :=
    List.filter_eq_nil_iff.mpr fun e member => by simp [beside e member]
  rw [Deals, journal, Journal.dealings, List.filter_append, nothing]
  rfl

private theorem deals_of_cons (journal : t.journal = e :: s.journal) (deals : e.isDealing = true) :
    s.Deals [e] t := by
  rw [Deals, journal, Journal.dealings_cons_of_dealing deals]
  rfl

theorem Deals.trans {first second : Journal} (before : s.Deals first t)
    (after : t.Deals second u) : s.Deals (second ++ first) u := by
  rw [Deals, after, before, List.append_assoc]

theorem Deals.log {done : Journal} (deals : s.Deals done t) (entry : LogEntry) :
    s.Deals done (t.log entry) :=
  deals.trans (deals_nothing (tells_record t rfl))

private theorem deals_executed {channel after : Channel} {op : Operation}
    {result : Except BrokerError Unit} (isOpen : channel.closed = false)
    (executed : s.execute channel op = (result, after, t)) :
    s.Deals [.executed channel.number op result] t := by
  cases result with
  | ok _ =>
      obtain ⟨_, _, _, rfl⟩ := execute_ok executed
      exact deals_of_cons rfl rfl
  | error e =>
      obtain ⟨closed, _⟩ | ⟨_, rfl⟩ := execute_error executed
      · cases isOpen.symm.trans closed
      · exact deals_of_cons rfl rfl

private theorem deals_handed {input : Option Nat} {envelope : Envelope Received}
    (handed : s.hand input envelope = .done t) : s.Deals [.handedOver input envelope] t := by
  unfold hand at handed
  split at handed <;> cases handed
  exact deals_of_cons rfl rfl

end Stage

private theorem Forward.deals_step {forward : Forward} {f g : FanIn Item} {outcome : Outcome}
    {s t : Stage} (stepped : forward.step f s = some (outcome, g, t)) :
    ∃ done, s.Deals done t ∧ ∀ e ∈ done, e.isDelivery = true := by
  cases forward with
  | waiting =>
      simp only [step] at stepped
      split at stepped <;> cases stepped
      · exact ⟨[], rfl, List.forall_mem_nil _⟩
      · rename_i item _
        refine ⟨[], ?_, List.forall_mem_nil _⟩
        cases item with
        | delivery result =>
            cases result with
            | ok delivery => rfl
            | error e => exact Stage.deals_nothing (Stage.tells_record s rfl)
        | signal value => cases value <;> exact Stage.deals_nothing (Stage.tells_record s rfl)
  | sending input message =>
      simp only [step] at stepped
      split at stepped <;> rename_i handed <;> cases stepped
      · exact ⟨[], Stage.deals_nothing (Stage.tells_record s rfl), List.forall_mem_nil _⟩
      · refine ⟨_, Stage.deals_handed handed, fun e member => ?_⟩
        cases List.mem_singleton.mp member
        rfl

variable {queue : String} {unheard : BrokerError → Prop}

/-- The dealings of an epoch that ends with an action. A refusal that is not reported either means
that the connection is lost, or is one that nobody wanted to hear of. -/
inductive Subscription (queue : String) (unheard : BrokerError → Prop) :
    Action → Journal → Prop where
  | unopened (e : BrokerError) : Subscription queue unheard .reconnect [.channelRefused e]
  | lost (number : Nat) (tag : String) {e : BrokerError} (lost : e.isConnectionClosed = true) :
      Subscription queue unheard .reconnect [.executed number (.consume queue tag) (.error e)]
  | reported (number : Nat) (tag : String) {e : BrokerError}
      (refused : e.isConnectionClosed = false) :
      Subscription queue unheard .stop [.handedOver none (.failed (.consume queue e)),
        .executed number (.consume queue tag) (.error e)]
  | dismissed (number : Nat) (tag : String) {e : BrokerError}
      (refused : e.isConnectionClosed = false) (closed : unheard e) :
      Subscription queue unheard .stop [.executed number (.consume queue tag) (.error e)]
  | served (action : Action) (number : Nat) (tag : String) {deliveries : Journal}
      (delivered : ∀ e ∈ deliveries, e.isDelivery = true) :
      Subscription queue unheard action
        (deliveries ++ [.executed number (.consume queue tag) (.ok ())])

inductive SubscribePhase.Told (queue : String) (unheard : BrokerError → Prop) :
    SubscribePhase → Journal → Prop where
  | opening : Told queue unheard .opening []
  | consuming {channel : Channel} (isOpen : channel.closed = false) :
      Told queue unheard (.consuming channel) []
  | reporting (number : Nat) (tag : String) {e : BrokerError}
      (refused : e.isConnectionClosed = false) :
      Told queue unheard (.reporting (.consume queue e))
        [.executed number (.consume queue tag) (.error e)]
  | forwarding (forward : Forward) (number : Nat) (tag : String) {deliveries : Journal}
      (delivered : ∀ e ∈ deliveries, e.isDelivery = true) :
      Told queue unheard (.forwarding forward)
        (deliveries ++ [.executed number (.consume queue tag) (.ok ())])
  | stopping (action : Action) (number : Nat) (tag : String) {deliveries : Journal}
      (delivered : ∀ e ∈ deliveries, e.isDelivery = true) :
      Told queue unheard (.stopping action)
        (deliveries ++ [.executed number (.consume queue tag) (.ok ())])
  | finished {action : Action} {told : Journal}
      (subscription : Subscription queue unheard action told) :
      Told queue unheard (.finished action) told

namespace SubscribeRun

variable {run next : SubscribeRun} {s t : Stage} {told : Journal}

theorem told_refused {number : Nat} {tag : String} {e : BrokerError} {u : Stage}
    (executed : s.Deals [.executed number (.consume queue tag) (.error e)] u)
    (refused : run.refused queue e u = (next, t)) :
    ∃ done, s.Deals done t ∧ next.phase.Told queue unheard done := by
  unfold SubscribeRun.refused at refused
  split at refused <;> rename_i lost <;> cases refused
  · exact ⟨_, executed.log _, .finished (.lost number tag lost)⟩
  · exact ⟨_, executed.log _, .reporting number tag (Bool.not_eq_true _ ▸ lost)⟩

theorem told_step (before : run.phase.Told queue unheard told)
    (closed : ∀ e, run.phase = .reporting (.consume queue e) → s.output.receiving = false →
      unheard e)
    (stepped : run.step queue s = some (next, t)) :
    ∃ done, s.Deals done t ∧ next.phase.Told queue unheard (done ++ told) := by
  obtain ⟨phase, consumers, fanIn⟩ := run
  cases before with
  | opening =>
      simp only [step] at stepped
      split at stepped <;> rename_i opened <;> cases stepped
      · obtain ⟨_, rfl⟩ := Stage.openChannel_error opened
        exact ⟨_, (Stage.deals_of_cons rfl rfl).log _, .finished (.unopened _)⟩
      · obtain ⟨rfl, _, rfl⟩ := Stage.openChannel_ok opened
        exact ⟨[], Stage.deals_nothing (Stage.tells_record { s with broker := _ } rfl),
          .consuming rfl⟩
  | consuming isOpen =>
      simp only [step] at stepped
      split at stepped <;> rename_i executed
      · have refused : s.Deals _ _ := Stage.deals_executed (s := s.mint.2) isOpen executed
        obtain ⟨done, deals, after⟩ := told_refused refused (Option.some.inj stepped)
        exact ⟨done, deals, (List.append_nil done).symm ▸ after⟩
      · cases stepped
        have accepted : s.Deals _ _ := Stage.deals_executed (s := s.mint.2) isOpen executed
        exact ⟨_, accepted.log _,
          @SubscribePhase.Told.forwarding _ _ .waiting _ _ [] (List.forall_mem_nil _)⟩
  | reporting number tag refused =>
      simp only [step] at stepped
      split at stepped <;> rename_i handed <;> cases stepped
      · exact ⟨[], rfl, .finished (.dismissed number tag refused
          (closed _ rfl (Stage.closed_of_hand handed)))⟩
      · exact ⟨_, Stage.deals_handed handed, .finished (.reported number tag refused)⟩
  | forwarding forward number tag delivered =>
      simp only [step] at stepped
      split at stepped
      · cases stepped
      · split at stepped <;> rename_i forwarded <;> cases stepped <;>
          obtain ⟨done, deals, more⟩ := Forward.deals_step forwarded
        all_goals
          have all : ∀ e ∈ done ++ _, e.isDelivery = true :=
            List.forall_mem_append.mpr ⟨more, delivered⟩
          refine ⟨done, deals, ?_⟩
          rw [← List.append_assoc]
        · exact .forwarding _ number tag all
        · exact .stopping _ number tag all
  | stopping action number tag delivered =>
      simp only [step] at stepped
      split at stepped <;> cases stepped
      exact ⟨[], rfl, .finished (.served action number tag delivered)⟩
  | finished subscription => cases stepped

end SubscribeRun

end ExchangeTap
