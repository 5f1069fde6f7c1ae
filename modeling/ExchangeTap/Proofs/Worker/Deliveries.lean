import ExchangeTap.Proofs.Play
import ExchangeTap.Proofs.Worker.Forwarding

namespace ExchangeTap

namespace Broker

def recipient (b : Broker) (chosen : Consumer → Bool) : Option Nat :=
  b.consumers.findIdx? fun c => c.isLive && chosen c

def addition (b : Broker) (chosen : Consumer → Bool) (item : Except BrokerError Delivery)
    (index : Nat) : List (Except BrokerError Delivery) :=
  if b.recipient chosen = some index then [item] else []

def cancel (b : Broker) (lost : Consumer → Bool) : Broker :=
  { b with consumers := b.consumers.map fun c =>
      if lost c then { c with attached := false } else c }

variable {b : Broker} {chosen : Consumer → Bool} {item : Except BrokerError Delivery}

private theorem length_consumers_deliver :
    (b.deliver chosen item).2.consumers.length = b.consumers.length := by
  unfold deliver
  split
  · rfl
  · simp

private theorem addition_of_length_le {index : Nat} (beyond : b.consumers.length ≤ index) :
    b.addition chosen item index = [] := by
  refine if_neg fun found => ?_
  obtain ⟨inside, _⟩ := List.findIdx?_eq_some_iff_getElem.mp found
  omega

private theorem inbox_deliver (index : Nat) :
    (b.deliver chosen item).2.inbox index = b.inbox index ++ b.addition chosen item index := by
  unfold deliver addition recipient
  cases found : b.consumers.findIdx? fun c => c.isLive && chosen c with
  | none => simp [inbox]
  | some place =>
      obtain ⟨inside, _⟩ := List.findIdx?_eq_some_iff_getElem.mp found
      by_cases same : place = index
      · subst same
        simp [inbox, inside]
      · simp [inbox, same, List.getElem?_modify_ne]

end Broker

/-- An epoch with what was delivered to each consumer, and the signals that the worker took out of
its fan-in. -/
structure Flow where
  run : Run
  stage : Stage
  pushed : Nat → List (Except BrokerError Delivery)
  heard : List Signal

namespace Intake

/-- What the worker is about to take out of its fan-in. -/
def next? : Intake → Option (Nat × Item)
  | ⟨_, some f, .forwarding .waiting⟩ => f.outlet
  | _ => none

/-- The consumers whose deliveries are to be forwarded. A setup that fails gives them up. -/
def consumed : Intake → List Nat
  | ⟨own, _, .preparing⟩ | ⟨own, _, .forwarding _⟩ => own
  | _ => []

def inFlight : Intake → List (Nat × Delivery)
  | ⟨_, some f, .forwarding forward⟩ => forward.inFlight f
  | _ => []

theorem length_inFlight_le (intake : Intake) : intake.inFlight.length ≤ 3 := by
  unfold inFlight
  split
  · exact Forward.length_inFlight_le _ _
  · simp

end Intake

namespace Flow

inductive Turn where
  | worker (pick : Pick)
  | merge
  | deliver (chosen : Consumer → Bool) (item : Except BrokerError Delivery)
  | cancel (lost : Consumer → Bool)
  /-- The stage becomes another one, with the same consumers. An output that is closed stays closed,
  and nothing is forwarded. -/
  | elsewhere (stage : Stage) (told : List Event)

def start (worker : Worker) (number : Nat) (stage : Stage) : Flow :=
  ⟨worker.start number, { stage with journal := [] }, fun _ => [], []⟩

def replace (s stage : Stage) (told : List Event) : Stage :=
  { stage with
    broker.consumers := s.broker.consumers
    output.receiving := stage.output.receiving && s.output.receiving
    journal := told.filter (·.forwarded?.isNone) ++ s.journal }

def take : Turn → Flow → Option Flow
  | .worker pick, f =>
    (f.run.step pick f.stage).map fun (run, stage) =>
      { f with
        run := run
        stage := stage
        heard := f.heard ++ (f.run.intake.next?.bind (·.2.signal?)).toList }
  | .merge, f =>
    (f.run.mergeStep f.stage).map fun (run, stage) => { f with run := run, stage := stage }
  | .deliver chosen item, f =>
    some { f with
      stage.broker := (f.stage.broker.deliver chosen item).2
      pushed := fun index => f.pushed index ++ f.stage.broker.addition chosen item index }
  | .cancel lost, f => some { f with stage.broker := f.stage.broker.cancel lost }
  | .elsewhere stage told, f => some { f with stage := replace f.stage stage told }

def forwarded (f : Flow) : List (Nat × Delivery) :=
  Journal.forwarded f.stage.journal

end Flow

/-- Why an epoch that has forwarded does not go on. -/
inductive Excused (s : Stage) : List Signal → Action → Prop where
  | signalled {signal : Signal} {action : Action}
      (answers : action = .reconnect ↔ signal = .reconnect) : Excused s [signal] action
  | unwanted (closed : s.output.receiving = false) : Excused s [] .stop

/-- What is known of an epoch from where it stands. -/
inductive Flowing (pushed : Nat → List (Except BrokerError Delivery)) (s : Stage) :
    Intake → List Signal → Prop where
  | preparing (silent : Journal.forwarded s.journal = [])
      (balanced : Balanced own [] pushed s.broker) :
      Flowing pushed s ⟨own, none, .preparing⟩ []
  | listening (silent : Journal.forwarded s.journal = []) :
      Flowing pushed s ⟨own, none, .listening⟩ []
  | forwarding (going : f.Going)
      (balanced :
        Balanced own (Journal.forwarded s.journal ++ forward.inFlight f) pushed s.broker) :
      Flowing pushed s ⟨own, some f, .forwarding forward⟩ []
  | leaving (excused : Excused s heard action) :
      Flowing pushed s ⟨own, some f, .leaving action⟩ heard
  | stopping (excused : Excused s heard action) :
      Flowing pushed s ⟨own, some f, .stopping action⟩ heard
  | failed (silent : Journal.forwarded s.journal = []) :
      Flowing pushed s ⟨own, none, .returned action⟩ []
  | returned (excused : Excused s heard action) :
      Flowing pushed s ⟨own, some f, .returned action⟩ heard

variable {pushed pushedAfter : Nat → List (Except BrokerError Delivery)} {s t : Stage}
variable {intake after : Intake} {heard : List Signal} {action : Action}

theorem Excused.keep (excused : Excused s heard action)
    (closed : s.output.receiving = false → t.output.receiving = false) :
    Excused t heard action := by
  cases excused with
  | signalled answers => exact .signalled answers
  | unwanted shut => exact .unwanted (closed shut)

theorem Excused.mute (excused : Excused s heard action) (mute : s.Mute t) :
    Excused t heard action :=
  excused.keep fun shut => mute.receiving.trans shut

theorem Flowing.beside (flowing : Flowing pushed s intake heard)
    (silent : Journal.forwarded t.journal = Journal.forwarded s.journal)
    (closed : s.output.receiving = false → t.output.receiving = false)
    (balanced : ∀ {own emitted}, Balanced own emitted pushed s.broker →
      Balanced own emitted pushedAfter t.broker) :
    Flowing pushedAfter t intake heard := by
  cases flowing with
  | preparing before account => exact .preparing (silent.trans before) (balanced account)
  | listening before => exact .listening (silent.trans before)
  | forwarding going account =>
      refine .forwarding going ?_
      rw [silent]
      exact balanced account
  | leaving excused => exact .leaving (excused.keep closed)
  | stopping excused => exact .stopping (excused.keep closed)
  | failed before => exact .failed (silent.trans before)
  | returned excused => exact .returned (excused.keep closed)

theorem Flowing.merged {f g : FanIn Item} (flowing : Flowing pushed s intake heard)
    (present : intake.fanIn = some f)
    (advanced : f.advance (Item.inputs intake.consumers) s = some (g, t)) :
    Flowing pushed t { intake with fanIn := some g } heard := by
  have mute := Item.mute_advance advanced
  cases flowing with
  | preparing | listening | failed => cases present
  | leaving excused =>
      exact .leaving (excused.mute mute)
  | stopping excused => exact .stopping (excused.mute mute)
  | returned excused => exact .returned (excused.mute mute)
  -- only while it forwards does it matter what the merge takes
  | @forwarding own f forward going balanced =>
      cases present
      obtain ⟨_, still, items, took, held⟩ :=
        going.advance (Item.booked_inputs balanced.distinct) trivial advanced
      have emitted : Journal.forwarded t.journal ++ forward.inFlight g =
          Journal.forwarded s.journal ++ forward.inFlight f ++ deliveries (Item.results items) := by
        rw [took.forwarded, Forward.inFlight, Forward.inFlight, held, Item.results_append,
          deliveries_append]
        simp
      refine .forwarding still ?_
      rw [emitted]
      exact balanced.took took

private theorem unsignalled_of_carries {own : List Nat} {f g : FanIn Item} {forward next : Forward}
    (carries : forward.Carries f s next g t) :
    (Intake.next? ⟨own, some f, .forwarding forward⟩).bind (·.2.signal?) = none := by
  cases forward with
  | sending input message => rfl
  | waiting =>
      rw [Intake.next?]
      cases outlet : f.outlet with
      | none => rfl
      | some item =>
          obtain ⟨input, delivery | signal⟩ := item
          · rfl
          · cases carries.unsignalled rfl input signal outlet

private theorem excused_of_parts {own : List Nat} {f : FanIn Item} {forward : Forward} (mute : s.Mute t)
    (parts : forward.Parts f s action) :
    Excused t ([] ++ ((Intake.next? ⟨own, some f, .forwarding forward⟩).bind (·.2.signal?)).toList)
      action := by
  cases parts with
  | signalled waits received answers =>
      subst waits
      simp only [Intake.next?, received]
      exact .signalled answers
  | unwanted sends closed =>
      subst sends
      exact .unwanted (mute.receiving.trans closed)

namespace Balanced

variable {own : List Nat} {emitted : List (Nat × Delivery)} {b c : Broker}

theorem cancel {lost : Consumer → Bool} (balanced : Balanced own emitted pushed b) :
    Balanced own emitted pushed (b.cancel lost) := by
  refine balanced.same (by simp [Broker.cancel]) (Broker.inbox_map ?_ rfl)
  intro consumer
  split <;> rfl

theorem deliver {chosen : Consumer → Bool} {item : Except BrokerError Delivery}
    (balanced : Balanced own emitted pushed b) :
    Balanced own emitted (fun index => pushed index ++ b.addition chosen item index)
      (b.deliver chosen item).2 := by
  refine ⟨balanced.distinct, ?_, ?_, ?_, balanced.nothing⟩
  · rw [Broker.length_consumers_deliver]
    exact balanced.known
  · rw [Broker.length_consumers_deliver]
    intro index beyond
    rw [balanced.unknown index beyond, Broker.addition_of_length_le beyond]
    rfl
  · intro input index reads
    rw [Broker.inbox_deliver, successes_append, successes_append, ← balanced.kept reads,
      List.append_assoc]

end Balanced

theorem Flowing.moves (flowing : Flowing pushed s intake heard) (moves : intake.Moves s t after) :
    Flowing pushed t after (heard ++ (intake.next?.bind (·.2.signal?)).toList) := by
  cases moves with
  | prepares grows idle =>
      cases flowing with
      | preparing silent balanced =>
          exact .preparing (idle.forwarded.trans silent) (balanced.grows idle grows)
  | begins grows idle =>
      cases flowing with
      | preparing silent balanced =>
          refine .forwarding (FanIn.going_start _) ?_
          rw [idle.forwarded, silent]
          exact balanced.grows idle grows
  | withdraws unhearing =>
      cases flowing with
      | preparing silent balanced => exact .listening (unhearing.forwarded.trans silent)
  | fails mute =>
      cases flowing with
      | preparing silent balanced => exact .failed (mute.forwarded.trans silent)
  | rests unhearing =>
      cases flowing with
      | listening silent => exact .listening (unhearing.forwarded.trans silent)
  | hears mute =>
      cases flowing with
      | listening silent => exact .failed (mute.forwarded.trans silent)
  | forwards stepped =>
      cases flowing with
      | forwarding going balanced =>
          have carries := Forward.carries_of_step going stepped
          rw [unsignalled_of_carries carries]
          refine .forwarding carries.going ?_
          rw [carries.emitted, carries.broker]
          exact balanced
  | leaves stepped =>
      cases flowing with
      | forwarding going balanced =>
          obtain ⟨mute, parts⟩ := Forward.parts_of_step going stepped
          exact .leaving (excused_of_parts mute parts)
  | quits stepped =>
      cases flowing with
      | forwarding going balanced =>
          obtain ⟨mute, parts⟩ := Forward.parts_of_step going stepped
          exact .stopping (excused_of_parts mute parts)
  | winds idle =>
      cases flowing with
      | leaving excused =>
          rw [show Option.toList _ = [] from rfl, List.append_nil]
          exact .leaving (excused.mute idle.toMute)
  | stops idle =>
      cases flowing with
      | leaving excused =>
          rw [show Option.toList _ = [] from rfl, List.append_nil]
          exact .stopping (excused.mute idle.toMute)
  | concludes idle =>
      cases flowing with
      | stopping excused =>
          rw [show Option.toList _ = [] from rfl, List.append_nil]
          exact .returned (excused.mute idle.toMute)

private theorem Flowing.silent_moves {signal : Signal} {rest : List Signal}
    (flowing : Flowing pushed s intake (signal :: rest)) (moves : intake.Moves s t after) :
    intake.next? = none ∧ Journal.forwarded t.journal = Journal.forwarded s.journal := by
  cases moves with
  | winds idle | stops idle | concludes idle => exact ⟨rfl, idle.forwarded⟩
  | _ => cases flowing

theorem Flowing.account (flowing : Flowing pushed s intake []) (open_ : s.output.receiving = true) :
    (∀ input index, intake.consumed[input]? = some index →
      ofInput input (Journal.forwarded s.journal) ++ ofInput input intake.inFlight ++
        successes (s.broker.inbox index) = successes (pushed index)) ∧
    (∀ input, intake.consumed[input]? = none → ofInput input (Journal.forwarded s.journal) = []) ∧
    (intake.fanIn.isSome = true → ∃ forward, intake.standing = .forwarding forward) := by
  cases flowing with
  | preparing silent balanced =>
      refine ⟨?_, ?_, fun same => nomatch same⟩
      · intro input index reads
        rw [silent]
        exact balanced.kept reads
      · intro input _
        rw [silent]
        rfl
  | forwarding going balanced =>
      refine ⟨?_, ?_, fun _ => ⟨_, rfl⟩⟩
      · intro input index reads
        rw [← ofInput_append]
        exact balanced.kept reads
      · intro input absent
        have nothing := balanced.nothing absent
        rw [ofInput_append] at nothing
        exact (List.append_eq_nil_iff.mp nothing).1
  | listening silent | failed silent =>
      refine ⟨fun _ _ reads => (nomatch reads), ?_, fun same => nomatch same⟩
      intro input _
      rw [silent]
      rfl
  | leaving excused | stopping excused | returned excused =>
      cases excused with
      | unwanted closed => cases open_.symm.trans closed

private theorem Flowing.decision (flowing : Flowing pushed s intake heard)
    (present : intake.fanIn.isSome = true) (returned : intake.standing = .returned action) :
    action = .reconnect ↔ heard = [.reconnect] := by
  cases flowing with
  | returned excused =>
      cases returned
      cases excused with
      | signalled answers => simpa using answers
      | unwanted closed => simp
  | failed => cases present
  | _ => cases returned

theorem Flowing.alone {signal : Signal} {rest : List Signal}
    (flowing : Flowing pushed s intake (signal :: rest)) : rest = [] := by
  cases flowing with
  | leaving excused | stopping excused | returned excused =>
      cases excused
      rfl

namespace Flow

variable {f g : Flow}

structure Sound (f : Flow) : Prop where
  unscripted : f.run.isScript = false
  fits : f.run.intake.Fits
  flowing : Flowing f.pushed f.stage f.run.intake f.heard

theorem sound_start {worker : Worker} (number : Nat) (stage : Stage)
    (unscripted : worker.isScript = false) : (start worker number stage).Sound := by
  refine ⟨(worker.isScript_start number).trans unscripted, Run.fits_start worker number, ?_⟩
  have nothing : Balanced [] [] (fun _ => []) stage.broker :=
    ⟨by simp, by simp, fun _ _ => rfl, by simp, fun _ => rfl⟩
  cases worker with
  | tap bindings setupRetry => exact .preparing rfl nothing
  | subscribe queue => exact .preparing rfl nothing
  | publish => exact .listening rfl
  | script epochs => cases unscripted

private theorem forwarded_replace (s stage : Stage) (told : List Event) :
    Journal.forwarded (replace s stage told).journal = Journal.forwarded s.journal := by
  have nothing : Journal.forwarded (told.filter (·.forwarded?.isNone)) = [] := by
    simp [Journal.forwarded, List.filterMap_eq_nil_iff]
  rw [replace, Journal.forwarded_append, nothing, List.append_nil]

private theorem sound_of_take {turn : Turn} (sound : f.Sound) (taken : take turn f = some g) : g.Sound := by
  obtain ⟨unscripted, fits, flowing⟩ := sound
  cases turn with
  | worker pick =>
      obtain ⟨⟨run, stage⟩, stepped, rfl⟩ := Option.map_eq_some_iff.mp taken
      obtain ⟨still, moves⟩ := Run.intake_step unscripted fits stepped
      exact ⟨still, moves.fits, flowing.moves moves⟩
  | merge =>
      obtain ⟨⟨run, stage⟩, stepped, rfl⟩ := Option.map_eq_some_iff.mp taken
      obtain ⟨still, fanIn, merged, present, advanced, same⟩ :=
        Run.intake_mergeStep unscripted fits stepped
      refine ⟨still, Run.fits_mergeStep unscripted fits stepped, ?_⟩
      dsimp only
      rw [same]
      exact flowing.merged present advanced
  | deliver chosen item =>
      cases taken
      exact ⟨unscripted, fits, flowing.beside rfl id fun balanced => balanced.deliver⟩
  | cancel lost =>
      cases taken
      exact ⟨unscripted, fits, flowing.beside rfl id fun balanced => balanced.cancel⟩
  | elsewhere stage told =>
      cases taken
      refine ⟨unscripted, fits, flowing.beside ?_ ?_ fun balanced => ?_⟩
      · exact forwarded_replace f.stage stage told
      · exact fun closed => by simp [replace, closed]
      · exact balanced.same (Nat.le_refl _) fun _ => rfl

private theorem silent_of_take {turn : Turn} {signal : Signal} {rest : List Signal} (sound : f.Sound)
    (heard : f.heard = signal :: rest) (taken : take turn f = some g) :
    g.heard = f.heard ∧ g.forwarded = f.forwarded := by
  obtain ⟨unscripted, fits, flowing⟩ := sound
  cases turn with
  | worker pick =>
      obtain ⟨⟨run, stage⟩, stepped, rfl⟩ := Option.map_eq_some_iff.mp taken
      obtain ⟨_, moves⟩ := Run.intake_step unscripted fits stepped
      rw [heard] at flowing
      obtain ⟨nothing, silent⟩ := flowing.silent_moves moves
      exact ⟨by simp [nothing], silent⟩
  | merge =>
      obtain ⟨⟨run, stage⟩, stepped, rfl⟩ := Option.map_eq_some_iff.mp taken
      obtain ⟨_, _, _, _, advanced, _⟩ := Run.intake_mergeStep unscripted fits stepped
      exact ⟨rfl, (Item.mute_advance advanced).forwarded⟩
  | deliver | cancel =>
      cases taken
      exact ⟨rfl, rfl⟩
  | elsewhere stage told =>
      cases taken
      exact ⟨rfl, forwarded_replace f.stage stage told⟩

private theorem silent_of_play {turns : List Turn} {signal : Signal} {rest : List Signal}
    (sound : f.Sound) (heard : f.heard = signal :: rest)
    (played : play take turns f = some g) :
    g.heard = f.heard ∧ g.forwarded = f.forwarded := by
  have kept := play_preserves
    (P := fun g => g.Sound ∧ g.heard = f.heard ∧ g.forwarded = f.forwarded)
    (fun {turn before after} holds taken => by
      obtain ⟨soundBefore, heardBefore, forwardedBefore⟩ := holds
      obtain ⟨heardAfter, forwardedAfter⟩ :=
        silent_of_take soundBefore (heardBefore.trans heard) taken
      exact ⟨sound_of_take soundBefore taken, heardAfter.trans heardBefore,
        forwardedAfter.trans forwardedBefore⟩)
    ⟨sound, rfl, rfl⟩ played
  exact kept.2

end Flow

private theorem Forward.step_of_error {f : FanIn Item} {input : Nat} {e : BrokerError} (s : Stage)
    (outlet : f.outlet = some (input, .delivery (.error e))) :
    waiting.step f s =
      some (.continue waiting, { f with outlet := none }, s.log (.consumerFailed e)) := by
  simp [step, FanIn.receive, outlet, accept]

private theorem Intake.waits_of_next? {intake : Intake} {item : Nat × Item}
    (next : intake.next? = some item) :
    ∃ f, intake.fanIn = some f ∧ intake.standing = .forwarding .waiting ∧
      f.outlet = some item := by
  unfold next? at next
  split at next
  · exact ⟨_, rfl, rfl, next⟩
  · cases next

private theorem Run.step_of_error {run : Run} {input : Nat} {e : BrokerError} (pick : Pick) (s : Stage)
    (next : run.intake.next? = some (input, .delivery (.error e))) :
    ∃ after, run.step pick s = some (after, s.log (.consumerFailed e)) ∧
      after.intake.standing = .forwarding .waiting := by
  obtain ⟨f, present, waits, outlet⟩ := Intake.waits_of_next? next
  have told := Forward.step_of_error s outlet
  cases run with
  | tap setupRetry run =>
      obtain ⟨phase, ledger, consumers, fanIn, channels⟩ := run
      cases present
      cases phase with
      | forwarding forward =>
          cases waits
          exact ⟨_, by simp only [step, TapRun.step, told]; rfl, rfl⟩
      | removing left channel retried departure => cases departure <;> cases waits
      | _ => cases waits
  | subscribe queue run =>
      obtain ⟨phase, consumers, fanIn⟩ := run
      cases phase with
      | forwarding forward =>
          cases present
          cases waits
          exact ⟨_, by simp only [step, SubscribeRun.step, told]; rfl, rfl⟩
      | _ => cases waits
  | publish run =>
      obtain ⟨phase⟩ := run
      cases phase <;> cases waits
  | script epoch run =>
      obtain ⟨phase⟩ := run
      cases phase <;> cases waits

theorem Run.output_of_step {run next : Run} {forward : Forward} {pick : Pick}
    (unscripted : run.isScript = false) (fits : run.intake.Fits)
    (standing : run.intake.standing = .forwarding forward)
    (stepped : run.step pick s = some (next, t)) :
    ∃ more : List (Nat × Received),
      Journal.forwarded t.journal =
        Journal.forwarded s.journal ++ more.map (fun item => (item.1, item.2.delivery)) ∧
      t.output.items = s.output.items ++ more.map fun item => .delivered item.2 := by
  obtain ⟨_, moves⟩ := Run.intake_step unscripted fits stepped
  generalize run.intake = intake, next.intake = after at moves standing
  cases moves with
  | forwards stepped | leaves stepped | quits stepped => exact Forward.output_of_step stepped
  | _ => cases standing

namespace Flow

/-- As long as the worker has received no signal and the output is open: of the deliveries that were
pushed to a consumer, in their order, the first ones were forwarded, the next ones (three at most over
all consumers) are on their way, and the others still wait at the consumer. The error of a consumer
is no delivery, and the epoch goes on with it. The first signal that is received is the last one;
nothing is forwarded after it, and it decides what the worker returns. -/
theorem delivered_in_order {worker : Worker} {number : Nat} {stage : Stage} {turns : List Turn}
    {f : Flow} (unscripted : worker.isScript = false)
    (played : play take turns (start worker number stage) = some f) :
    f.run.intake.inFlight.length ≤ 3 ∧
    (f.heard = [] → f.stage.output.receiving = true →
      (∀ input index, f.run.intake.consumed[input]? = some index →
        ofInput input f.forwarded ++ ofInput input f.run.intake.inFlight ++
          successes (f.stage.broker.inbox index) = successes (f.pushed index)) ∧
      (∀ input, f.run.intake.consumed[input]? = none → ofInput input f.forwarded = []) ∧
      (f.run.intake.fanIn.isSome = true → f.run.result? = none)) ∧
    (∀ forward pick g, f.run.intake.standing = .forwarding forward →
      take (.worker pick) f = some g →
      ∃ more : List (Nat × Received),
        g.forwarded = f.forwarded ++ more.map (fun item => (item.1, item.2.delivery)) ∧
        g.stage.output.items = f.stage.output.items ++ more.map fun item => .delivered item.2) ∧
    (∀ input e pick, f.run.intake.next? = some (input, .delivery (.error e)) →
      ∃ g, take (.worker pick) f = some g ∧ g.stage.output = f.stage.output ∧
        g.forwarded = f.forwarded ∧ g.heard = f.heard ∧ g.run.result? = none) ∧
    (∀ signal rest, f.heard = signal :: rest → rest = [] ∧
      ∀ more g, play take more f = some g → g.heard = f.heard ∧ g.forwarded = f.forwarded) ∧
    ∀ action, f.run.intake.fanIn.isSome = true → f.run.result? = some action →
      (action = .reconnect ↔ f.heard = [.reconnect]) := by
  have sound : f.Sound :=
    play_preserves sound_of_take (sound_start number stage unscripted) played
  refine ⟨Intake.length_inFlight_le _, ?_, ?_, ?_, ?_, ?_⟩
  · intro unheard open_
    have flowing := sound.flowing
    rw [unheard] at flowing
    obtain ⟨kept, nothing, going⟩ := flowing.account open_
    refine ⟨kept, nothing, fun present => ?_⟩
    obtain ⟨forward, standing⟩ := going present
    rw [Run.result?_of_intake, standing]
  · intro forward pick g standing taken
    obtain ⟨⟨run, after⟩, stepped, rfl⟩ := Option.map_eq_some_iff.mp taken
    exact Run.output_of_step sound.unscripted sound.fits standing stepped
  · intro input e pick next
    obtain ⟨after, stepped, standing⟩ := Run.step_of_error pick f.stage next
    refine ⟨_, Option.map_eq_some_iff.mpr ⟨_, stepped, rfl⟩, rfl, ?_, ?_, ?_⟩
    · exact (Stage.idle_log f.stage _).forwarded
    · simp [next, Item.signal?]
    · rw [Run.result?_of_intake, standing]
  · intro signal rest heard
    have flowing := sound.flowing
    rw [heard] at flowing
    exact ⟨flowing.alone, fun more g => silent_of_play sound heard⟩
  · intro action present returned
    exact sound.flowing.decision present (Run.standing_of_result? returned)

/-- Three deliveries with an error between them, known by their tags: the first was forwarded, the
second is in the hand of the merge, and the third still waits. -/
theorem delivered_in_order_past_an_error :
    let deliver := fun tag => Turn.deliver (fun _ => true) (.ok { (default : Delivery) with tag })
    let fail := Turn.deliver (fun _ => true) (.error Broker.channelClosed)
    let worker := Turn.worker .first
    let turns := [worker, worker, deliver 1, fail, deliver 2, .merge, .merge, worker, worker,
      .merge, .merge, worker, .merge, deliver 3]
    let subscriber := Worker.subscribe "queue"
    let start := start subscriber 0 (.initial .initial 1 fun _ => "")
    subscriber.isScript = false ∧
    ∃ f, play take turns start = some f ∧ f.heard = [] ∧ f.stage.output.receiving = true ∧
      f.run.intake.consumed = [0] ∧
      (ofInput 0 f.forwarded).map (·.tag) = [1] ∧
      (ofInput 0 f.run.intake.inFlight).map (·.tag) = [2] ∧
      (successes (f.stage.broker.inbox 0)).map (·.tag) = [3] ∧
      (successes (f.pushed 0)).map (·.tag) = [1, 2, 3] := by
  intro deliver fail worker turns subscriber start
  have ran : (play take turns start).map (fun f => (f.heard, f.stage.output.receiving,
      f.run.intake.consumed, [ofInput 0 f.forwarded, ofInput 0 f.run.intake.inFlight,
        successes (f.stage.broker.inbox 0)].map (·.map (·.tag)))) =
          some ([], true, [0], [[1], [2], [3]]) := by
    decide +kernel
  obtain ⟨f, played, same⟩ := Option.map_eq_some_iff.mp ran
  simp only [Prod.mk.injEq, List.map_cons, List.map_nil, List.cons.injEq, and_true] at same
  obtain ⟨unheard, open_, consumed, forwarded, inFlight, waiting⟩ := same
  have unscripted : subscriber.isScript = false := rfl
  obtain ⟨_, order, _⟩ := delivered_in_order unscripted played
  obtain ⟨kept, _⟩ := order unheard open_
  have account := kept 0 0 (by rw [consumed]; rfl)
  refine ⟨unscripted, f, played, unheard, open_, consumed, forwarded, inFlight, waiting, ?_⟩
  rw [← account, List.map_append, List.map_append, forwarded, inFlight, waiting]
  rfl

end Flow

end ExchangeTap
