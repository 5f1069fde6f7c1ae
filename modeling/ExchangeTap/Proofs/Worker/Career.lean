import ExchangeTap.Proofs.Worker.Course
import ExchangeTap.Proofs.Worker.RunConduct
import ExchangeTap.Proofs.Worker.Steady

/-! In any epoch of its career the worker and its merge go on in turns, and between any two turns
the rest of the world does what it likes, but for what the worker has to itself: its consumers, its
channels, its suffixes, and during an epoch its place at the lock of the control path. -/

namespace ExchangeTap

structure Career where
  worker : Worker
  run : Option Run
  epochs : Nat
  stage : Stage

namespace Career

inductive Turn where
  /-- An epoch begins while nobody is at the lock of the control path. -/
  | begins
  | worker (pick : Pick)
  | merge
  | ends
  /-- The connection of the last epoch is closed, and the broker gives up its consumers. -/
  | hangUp
  | deliver (chosen : Consumer → Bool) (item : Except BrokerError Delivery)
  /-- The stage becomes another one. What is told of it is not about channels. -/
  | elsewhere (stage : Stage) (told : List Event)

def start (worker : Worker) (stage : Stage) : Career :=
  ⟨worker, none, 0, { stage with journal := [] }⟩

def atLock (during : Bool) (own other : ControlPath Reader) : ControlPath Reader :=
  if during then { other with holder := own.holder, queue := own.queue } else other

def surrounded (c : Career) (stage : Stage) (told : List Event) : Stage :=
  { stage with
    broker := { stage.broker with
      consumers := c.stage.broker.consumers
      deletedWhileConsumed := c.stage.broker.deletedWhileConsumed
      channels := c.stage.broker.channels }
    control := atLock c.run.isSome c.stage.control stage.control
    suffix := c.stage.suffix
    suffixesUsed := c.stage.suffixesUsed
    journal := told.filter (!·.isOnChannel) ++ c.stage.journal }

def goOn (c : Career) (step : Run → Stage → Option (Run × Stage)) : Option Career :=
  c.run.bind fun run =>
    (step run c.stage).map fun (run, stage) => { c with run := some run, stage := stage }

def take : Turn → Career → Option Career
  | .begins, c =>
    if c.run.isNone ∧ c.stage.control.holder = none ∧ c.stage.control.queue = [] then
      some { c with run := some (c.worker.start c.epochs), epochs := c.epochs + 1 }
    else none
  | .worker pick, c => c.goOn (Run.step pick)
  | .merge, c => c.goOn Run.mergeStep
  | .ends, c => (c.run.bind Run.result?).map fun _ => { c with run := none }
  | .hangUp, c =>
    if c.run.isNone then
      some { c with
        stage.broker.consumers :=
          c.stage.broker.consumers.map fun consumer => { consumer with attached := false } }
    else none
  | .deliver chosen item, c =>
    some { c with stage.broker := (c.stage.broker.deliver chosen item).2 }
  | .elsewhere stage told, c => some { c with stage := c.surrounded stage told }

variable {c next : Career}

theorem goOn_eq_some {step : Run → Stage → Option (Run × Stage)} (gone : c.goOn step = some next) :
    ∃ run after stage, c.run = some run ∧ step run c.stage = some (after, stage) ∧
      next = { c with run := some after, stage := stage } := by
  obtain ⟨run, present, stepped⟩ := Option.bind_eq_some_iff.mp gone
  obtain ⟨⟨after, stage⟩, moved, same⟩ := Option.map_eq_some_iff.mp stepped
  exact ⟨run, after, stage, present, moved, same.symm⟩

theorem ends_eq_some (ended : take .ends c = some next) :
    ∃ run action, c.run = some run ∧ run.result? = some action ∧
      next = { c with run := none } := by
  obtain ⟨action, returned, same⟩ := Option.map_eq_some_iff.mp ended
  obtain ⟨run, present, result⟩ := Option.bind_eq_some_iff.mp returned
  exact ⟨run, action, present, result, same.symm⟩

theorem steady_surrounded (c : Career) (stage : Stage) (told : List Event) :
    c.stage.Steady (c.surrounded stage told) := by
  refine ⟨⟨rfl, rfl, rfl, Nat.le_refl _, ⟨_, rfl, fun e member => ?_⟩⟩,
    Broker.retains_of_consumers rfl⟩
  simpa using (List.mem_filter.mp member).2

def Orderly (c : Career) : Prop :=
  ∀ run, c.run = some run → run.Orderly c.stage.control

theorem Orderly.take {turn : Turn} (orderly : c.Orderly) (taken : take turn c = some next) :
    next.Orderly := by
  cases turn with
  | begins =>
      simp only [Career.take] at taken
      split at taken <;> cases taken
      rename_i alone
      rintro _ ⟨⟩
      exact Run.orderly_start c.worker c.epochs ⟨alone.2.2, .inl alone.2.1⟩
  | worker pick =>
      obtain ⟨run, after, stage, present, stepped, rfl⟩ := goOn_eq_some taken
      rintro _ ⟨⟩
      exact (Run.step_spec (orderly run present) stepped).2
  | merge =>
      obtain ⟨run, after, stage, present, stepped, rfl⟩ := goOn_eq_some taken
      rintro _ ⟨⟩
      exact (Run.mergeStep_spec (orderly run present) stepped).2
  | ends =>
      obtain ⟨_, _, _, _, rfl⟩ := ends_eq_some taken
      exact fun _ present => nomatch present
  | hangUp =>
      simp only [Career.take] at taken
      split at taken <;> cases taken
      exact orderly
  | deliver chosen item =>
      cases taken
      exact orderly
  | elsewhere stage told =>
      cases taken
      intro run present
      have during : c.run.isSome = true := by rw [show c.run = some run from present]; rfl
      refine (orderly run present).congr ?_ ?_ <;> simp [surrounded, atLock, during]

/-- What a turn can do in the career of a tapping worker. -/
inductive TapTurn (c : Career) : Career → Prop where
  | begins {bindings : List Binding} {setupRetry : Nat} (resting : c.run = none) :
      TapTurn c ⟨c.worker, some (.tap setupRetry (.start bindings)), c.epochs + 1, c.stage⟩
  | works {setupRetry : Nat} {pick : Pick} {run after : TapRun} {stage : Stage}
      (present : c.run = some (.tap setupRetry run))
      (stepped : run.step setupRetry pick c.stage = some (after, stage)) :
      TapTurn c ⟨c.worker, some (.tap setupRetry after), c.epochs, stage⟩
  | merges {setupRetry : Nat} {run : TapRun} {f g : FanIn Item} {stage : Stage}
      (present : c.run = some (.tap setupRetry run)) (merging : run.fanIn = some f)
      (advanced : f.advance (Item.inputs run.consumers) c.stage = some (g, stage)) :
      TapTurn c ⟨c.worker, some (.tap setupRetry { run with fanIn := some g }), c.epochs, stage⟩
  | ends {setupRetry : Nat} {run : TapRun} (present : c.run = some (.tap setupRetry run)) :
      TapTurn c { c with run := none }
  | hangsUp (resting : c.run = none) :
      TapTurn c { c with
        stage.broker.consumers :=
          c.stage.broker.consumers.map fun consumer => { consumer with attached := false } }
  | stays {stage : Stage} (steady : c.stage.Steady stage) : TapTurn c { c with stage := stage }

theorem tapTurn_of_take {turn : Turn} (tap : ∃ bindings setupRetry, c.worker = .tap bindings setupRetry)
    (running : ∀ run, c.run = some run → ∃ setupRetry tap, run = .tap setupRetry tap)
    (taken : take turn c = some next) : c.TapTurn next := by
  cases turn with
  | begins =>
      simp only [Career.take] at taken
      split at taken <;> cases taken
      rename_i alone
      obtain ⟨bindings, setupRetry, tap⟩ := tap
      have started : c.worker.start c.epochs = .tap setupRetry (.start bindings) := by rw [tap]; rfl
      rw [started]
      exact .begins (Option.isNone_iff_eq_none.mp alone.1)
  | worker pick =>
      obtain ⟨run, after, stage, present, stepped, rfl⟩ := goOn_eq_some taken
      obtain ⟨setupRetry, tap, rfl⟩ := running run present
      obtain ⟨⟨later, stage⟩, moved, same⟩ := Option.map_eq_some_iff.mp stepped
      cases same
      exact .works present moved
  | merge =>
      obtain ⟨run, after, stage, present, stepped, rfl⟩ := goOn_eq_some taken
      obtain ⟨setupRetry, tap, rfl⟩ := running run present
      obtain ⟨fanIn, merging, advancing⟩ := Option.bind_eq_some_iff.mp stepped
      obtain ⟨⟨later, stage⟩, advanced, same⟩ := Option.map_eq_some_iff.mp advancing
      cases same
      exact .merges present merging advanced
  | ends =>
      obtain ⟨run, action, present, _, rfl⟩ := ends_eq_some taken
      obtain ⟨setupRetry, tap, rfl⟩ := running run present
      exact .ends present
  | hangUp =>
      simp only [Career.take] at taken
      split at taken <;> cases taken
      rename_i alone
      exact .hangsUp (Option.isNone_iff_eq_none.mp alone)
  | deliver chosen item =>
      cases taken
      exact .stays (c.stage.steady_deliver chosen item)
  | elsewhere stage told =>
      cases taken
      exact .stays (c.steady_surrounded stage told)

end Career

end ExchangeTap
