import ExchangeTap.Proofs.Supervision.Accounts
import ExchangeTap.Proofs.Supervision.Reserved
import ExchangeTap.Proofs.Worker.Stuck

/-! The worker of an epoch heeds what it takes, and the watcher tells of a loss as soon as it can.
So once nothing can go on by itself, no signal is left for the running epoch in the slot or on its
way there; only a worker whose output is full may keep one waiting. -/

namespace ExchangeTap

private theorem heeding_start (worker : Worker) (number : Nat) :
    Heeding [] (worker.start number).intake := by
  cases worker with
  | tap | subscribe => exact .preparing rfl
  | publish | script => exact .listening rfl

namespace Supervised

variable {s t start : Supervised} {act : Act} {acts : List Act}

private theorem taken_epoch (inner : s.stage.Tells (·.startsEpoch = false) t.stage) (more : List Signal)
    (taken : Journal.taken t.stage.journal = Journal.taken s.stage.journal ++ more) :
    Journal.taken t.epoch = Journal.taken s.epoch ++ more := by
  obtain ⟨events, journal, epoch⟩ := epoch_of_tells inner
  rw [journal, Journal.taken_append] at taken
  rw [epoch, Journal.taken_append, List.append_cancel_left taken]

private theorem untaken_epoch (inner : s.stage.Tells (·.startsEpoch = false) t.stage)
    (untaken : Journal.taken t.stage.journal = Journal.taken s.stage.journal) :
    Journal.taken t.epoch = Journal.taken s.epoch := by
  rw [taken_epoch inner [] (by rw [untaken, List.append_nil]), List.append_nil]

structure Attentive (s : Supervised) : Prop where
  unscripted : s.worker.isScript = false
  listens : ∀ run, s.phase = .working run →
    run.isScript = false ∧ run.intake.Fits ∧ Heeding (Journal.taken s.epoch) run.intake

theorem Attentive.still (attentive : s.Attentive) (worker : t.worker = s.worker)
    (phase : t.phase = s.phase) (inner : s.stage.Tells (·.startsEpoch = false) t.stage)
    (untaken : Journal.taken t.stage.journal = Journal.taken s.stage.journal) : t.Attentive := by
  refine ⟨worker ▸ attentive.unscripted, fun run working => ?_⟩
  rw [untaken_epoch inner untaken]
  exact attentive.listens run (phase ▸ working)

theorem Attentive.rest (attentive : s.Attentive) (worker : t.worker = s.worker)
    (resting : t.phase.isWorking = false) : t.Attentive := by
  refine ⟨worker ▸ attentive.unscripted, fun run working => ?_⟩
  rw [working] at resting
  cases resting

variable {run next : Run} {stage : Stage} {pick : Pick}

theorem step_of_works (phase : s.phase = .working run) (unfinished : run.result? = none)
    (performed : perform (.task pick .main) s =
      some { s with stage := stage, phase := .working next }) :
    run.step pick s.stage = some (next, stage) := by
  simp only [perform, step, mainStep, phase, unfinished] at performed
  obtain ⟨_, stepped, same⟩ := Option.map_eq_some_iff.mp performed
  cases same
  exact stepped

theorem step_of_merges (phase : s.phase = .working run)
    (performed : perform (.task pick .merge) s =
      some { s with stage := stage, phase := .working next }) :
    run.mergeStep s.stage = some (next, stage) := by
  simp only [perform, step, mergeStep, phase] at performed
  obtain ⟨_, stepped, same⟩ := Option.map_eq_some_iff.mp performed
  cases same
  exact stepped

theorem Attentive.work (attentive : s.Attentive) (phase : s.phase = .working run)
    (inner : s.stage.Tells (·.startsEpoch = false) stage)
    (stepped : run.step pick s.stage = some (next, stage)) :
    Attentive { s with stage := stage, phase := .working next } := by
  obtain ⟨unscripted, fits, heeding⟩ := attentive.listens run phase
  obtain ⟨still, moves⟩ := Run.intake_step unscripted fits stepped
  refine ⟨attentive.unscripted, ?_⟩
  rintro _ ⟨⟩
  exact ⟨still, moves.fits, heeding.moves moves
    (untaken_epoch (t := { s with stage := stage, phase := .working next }) inner)⟩

theorem Attentive.merge (attentive : s.Attentive)
    (alive : s.stage.control.senderAlive = true) (phase : s.phase = .working run)
    (inner : s.stage.Tells (·.startsEpoch = false) stage)
    (stepped : run.mergeStep s.stage = some (next, stage)) :
    Attentive { s with stage := stage, phase := .working next } := by
  obtain ⟨unscripted, fits, heeding⟩ := attentive.listens run phase
  obtain ⟨still, f, g, present, advanced, same⟩ := Run.intake_mergeStep unscripted fits stepped
  refine ⟨attentive.unscripted, ?_⟩
  rintro _ ⟨⟩
  refine ⟨still, Run.fits_mergeStep unscripted fits stepped, ?_⟩
  rw [same]
  refine heeding.merged present alive advanced fun signals taken => ?_
  exact taken_epoch (t := { s with stage := stage, phase := .working next }) inner signals taken

theorem Attentive.perform (guarded : s.Guarded) (attentive : s.Attentive)
    (performed : perform act s = some t) : t.Attentive := by
  have move := move_of_perform guarded performed
  have inner := tells_of_move move
  cases move with
  | begins | hearsReconnect | hearsShutdown | remembers | dials | fails | retries | returns
  | joins | quits | redials => exact attentive.rest rfl rfl
  | sleeps phase => exact attentive.rest rfl (by rw [phase]; rfl)
  | connects phase empty answered =>
      refine ⟨attentive.unscripted, ?_⟩
      rintro _ ⟨⟩
      exact ⟨(s.worker.isScript_start s.epochs).trans attentive.unscripted,
        Run.fits_start s.worker s.epochs, heeding_start s.worker s.epochs⟩
  | works phase unfinished =>
      exact attentive.work phase (inner rfl) (step_of_works phase unfinished performed)
  | merges phase =>
      exact attentive.merge guarded.senderAlive phase (inner rfl) (step_of_merges phase performed)
  | dismisses | givesUp | finishes | reports | concedes | delivers =>
      exact attentive.still rfl rfl (inner rfl) rfl
  | calls call => cases call <;> exact attentive.still rfl rfl (inner rfl) rfl
  | world change =>
      have journal := s.stage.undergo_journal change
      exact attentive.still rfl rfl (inner rfl) (congrArg Journal.taken journal)

theorem attentive_fresh {worker : Worker} (unscripted : worker.isScript = false)
    (retryDelay : Nat) (broker : Broker) (capacity : Nat) (suffix : Nat → String) :
    (fresh worker retryDelay broker capacity suffix).Attentive :=
  ⟨unscripted, fun _ working => nomatch working⟩

/-- An epoch began, and its connection reports its loss. -/
def ReportsLoss (start : Supervised) (acts : List Act) (epoch : Nat) : Prop :=
  ∃ before act after s t, acts = before ++ act :: after ∧
    play performAnew before start = some s ∧ performAnew act s = some t ∧
    s.epochs < t.epochs ∧ t.epochs = epoch ∧ s.stage.broker.reportsLoss = true

private theorem ReportsLoss.of_concat {number : Nat} (reached : play performAnew acts start = some s)
    (performed : performAnew act s = some t) (reports : ReportsLoss start (acts ++ [act]) number) :
    ReportsLoss start acts number ∨
      s.epochs < t.epochs ∧ t.epochs = number ∧ s.stage.broker.reportsLoss = true := by
  obtain ⟨before, first, after, u, v, split, earlier, stepped, grown, same, reports⟩ := reports
  rcases List.eq_nil_or_concat after with rfl | ⟨after, last, rfl⟩
  -- the epoch began with the last move, or before it
  · obtain ⟨rfl, alike⟩ := List.append_inj' split rfl
    cases alike
    cases earlier.symm.trans reached
    cases stepped.symm.trans performed
    exact .inr ⟨grown, same, reports⟩
  · rw [List.concat_eq_append, ← List.cons_append, ← List.append_assoc] at split
    obtain ⟨rfl, _⟩ := List.append_inj' split rfl
    exact .inl ⟨before, first, after, u, v, rfl, earlier, stepped, grown, same, reports⟩

theorem epochs_of_move (move : Move s act t) : s.epochs ≤ t.epochs := by
  cases move with
  | connects => exact Nat.le_succ _
  | calls call => exact Nat.le_of_eq call.counted.2.symm
  | _ => exact Nat.le_refl _

theorem isWorking_of_move (move : Move s act t) (same : t.epochs = s.epochs)
    (working : t.phase.isWorking = true) : s.phase.isWorking = true := by
  cases move with
  | connects => exact absurd same (Nat.succ_ne_self _)
  | works phase | merges phase => rw [phase]; rfl
  | sleeps | dismisses | reports | concedes | givesUp | delivers | finishes | world => exact working
  | calls call => cases call <;> exact working
  | _ => cases working

private theorem watching_of_connect (move : Move s act t) (grown : s.epochs < t.epochs) :
    t.watching = s.stage.broker.reportsLoss := by
  cases move with
  | connects phase empty answered =>
      unfold Broker.dial at answered
      split at answered <;> cases answered
      rfl
  | calls call => exact absurd call.counted.2 (Nat.ne_of_gt grown)
  | _ => exact absurd grown (Nat.lt_irrefl _)

private theorem watching_of_move (reserving : s.Reserving) (epochal : s.Epochal) (move : Move s act t)
    (same : t.epochs = s.epochs) (working : t.phase.isWorking = true)
    (watching : s.watching = true) : t.watching = true ∨ Journal.sent t.epoch ≠ [] := by
  have further := sent_of_move move same
  cases move with
  | connects => exact absurd same (Nat.succ_ne_self _)
  | dismisses _ phase =>
      rw [show s.phase = _ from phase] at working
      cases working
  | reports => exact .inr (by simp [epoch, Stage.put, Event.startsEpoch, Event.sent?])
  | concedes _ _ full =>
      refine .inr (further ?_)
      rcases Bool.or_eq_true_iff.mp full with slot | reserved
      · exact epochal.sent_of_slot slot
      · exact (reserving.reserved reserved).2.2 (reserving.watched watching)
  | calls call => cases call <;> exact .inl watching
  | _ => exact .inl watching

/-- What is known of the running epoch: its worker heeds its signals, and its watcher has told of the
loss of a connection that reports it. -/
structure Tended (start : Supervised) (acts : List Act) (s : Supervised) : Prop where
  guarded : s.Guarded
  epochal : s.Epochal
  reserving : s.Reserving
  attentive : s.Attentive
  past : ∀ number, ReportsLoss start acts number → number ≤ s.epochs
  watched : s.phase.isWorking = true → ReportsLoss start acts s.epochs →
    s.watching = true ∨ Journal.sent s.epoch ≠ []

private theorem tended_fresh {worker : Worker} (unscripted : worker.isScript = false) (retryDelay : Nat)
    (broker : Broker) (capacity : Nat) (suffix : Nat → String) (start : Supervised) :
    Tended start [] (fresh worker retryDelay broker capacity suffix) := by
  refine ⟨guarded_fresh worker retryDelay broker capacity suffix, epochal_of_empty rfl rfl,
    reserving_fresh worker retryDelay broker capacity suffix,
    attentive_fresh unscripted retryDelay broker capacity suffix, ?_, fun same => nomatch same⟩
  rintro _ ⟨before, act, after, s, t, split, _⟩
  cases before <;> cases split

theorem Tended.move (reached : play performAnew acts start = some s)
    (tended : Tended start acts s) (anew : performAnew act s = some t)
    (performed : perform act s = some t) : Tended start (acts ++ [act]) t := by
  have move := move_of_perform tended.guarded performed
  refine ⟨tended.guarded.move move, tended.epochal.move move,
    tended.reserving.move tended.epochal move, tended.attentive.perform tended.guarded performed,
    ?_, ?_⟩
  · intro number reports
    rcases reports.of_concat reached anew with before | ⟨_, same, _⟩
    · exact Nat.le_trans (tended.past number before) (epochs_of_move move)
    · exact Nat.le_of_eq same.symm
  · intro working reports
    rcases reports.of_concat reached anew with before | ⟨grown, _, reporting⟩
    -- the epoch that reports is the one that goes on, or it begins with this move
    · have same : t.epochs = s.epochs :=
        Nat.le_antisymm (tended.past _ before) (epochs_of_move move)
      rw [same] at before
      rcases tended.watched (isWorking_of_move move same working) before with watching | sent
      · exact watching_of_move tended.reserving tended.epochal move same working watching
      · exact .inr (sent_of_move move same sent)
    · exact .inl ((watching_of_connect move grown).trans reporting)

theorem Tended.renew (reached : play performAnew acts start = some s)
    (tended : Tended start acts s) (phase : s.phase = .ended)
    (anew : performAnew act s = some { s with phase := .draining }) :
    Tended start (acts ++ [act]) { s with phase := .draining } := by
  have lock := tended.guarded.lock
  rw [phase] at lock
  refine ⟨⟨lock, tended.guarded.senderAlive⟩, tended.epochal.same rfl rfl id,
    tended.reserving.renew phase, tended.attentive.rest rfl rfl, ?_, fun working => nomatch working⟩
  intro number reports
  rcases reports.of_concat reached anew with before | ⟨grown, _⟩
  · exact tended.past number before
  · exact absurd grown (Nat.lt_irrefl _)

theorem Tended.performAnew (reached : play performAnew acts start = some s)
    (tended : Tended start acts s) (performed : performAnew act s = some t) :
    Tended start (acts ++ [act]) t := by
  rcases perform_of_performAnew performed with once | ⟨phase, rfl⟩
  · exact tended.move reached performed once
  · exact tended.renew reached phase performed

/-! Nothing can go on by itself. -/

theorem stuck_of_settled (settled : s.advance = none) :
    s.step .first .main = none ∧ s.step .first .merge = none ∧ s.step .first .watcher = none := by
  have stuck := List.findSome?_eq_none_iff.mp settled
  exact ⟨stuck .main (by simp [tasks]), stuck .merge (by simp [tasks]),
    stuck .watcher (by simp [tasks])⟩

theorem unfinished_of_stuck (phase : s.phase = .working run)
    (stuck : s.step .first .main = none) :
    run.result? = none ∧ run.step .first s.stage = none := by
  simp only [step, mainStep, phase] at stuck
  split at stuck
  · cases stuck
  · rename_i unfinished
    exact ⟨unfinished, Option.map_eq_none_iff.mp stuck⟩

theorem merge_of_stuck (phase : s.phase = .working run) (stuck : s.step .first .merge = none) :
    run.mergeStep s.stage = none := by
  simp only [step, mergeStep, phase] at stuck
  exact Option.map_eq_none_iff.mp stuck

private theorem loss_of_stuck (phase : s.phase = .working run) (watching : s.watching = true)
    (stuck : s.step .first .watcher = none) : s.stage.broker.loss = none := by
  cases lost : s.stage.broker.loss with
  | none => rfl
  | some e =>
      simp only [step, watcherStep, watching, lost, phase, Bool.not_true, Bool.false_eq_true,
        if_false] at stuck
      split at stuck <;> cases stuck

/-- While an epoch goes on and no task can, there is no signal in the slot, and the connection of the
epoch has reported no loss; unless the worker waits for an output that is full. The broker answers
every operation at once here, so no worker is held up by an answer that does not come. -/
theorem no_deaf_worker {worker : Worker} {retryDelay : Nat} {broker : Broker} {capacity : Nat}
    {suffix : Nat → String} (unscripted : worker.isScript = false)
    (reached : play performAnew acts (fresh worker retryDelay broker capacity suffix) = some s)
    (settled : s.advance = none) (working : s.phase = .working run) :
    run.Blocked s.stage ∨
      s.stage.control.slot = none ∧
        (ReportsLoss (fresh worker retryDelay broker capacity suffix) acts s.epochs →
          s.stage.broker.loss = none) := by
  have tended := play_history Tended.performAnew
    (tended_fresh unscripted retryDelay broker capacity suffix _) reached
  obtain ⟨main, merge, watcher⟩ := stuck_of_settled settled
  obtain ⟨unfinished, stuck⟩ := unfinished_of_stuck working main
  obtain ⟨unscripted, fits, heeding⟩ := tended.attentive.listens run working
  have lock := tended.guarded.lock
  rw [working] at lock
  refine (Run.silent_of_stuck unscripted fits lock heeding unfinished stuck
    (merge_of_stuck working merge)).imp_right ?_
  rintro ⟨empty, untaken⟩
  refine ⟨empty, fun reports => ?_⟩
  rcases tended.watched (by rw [working]; rfl) reports with watching | sent
  · exact loss_of_stuck working watching watcher
  · rw [← tended.epochal.balance, untaken, empty] at sent
    exact absurd rfl sent

/-- The connection of the first epoch is lost. The second epoch waits for deliveries, and its
connection would report a loss. -/
theorem no_deaf_worker_in_second_epoch :
    let start := fresh (.subscribe "q") 0 .initial 1 fun _ => ""
    let main := Act.task .first .main
    let merge := Act.task .first .merge
    let dialing := .connect :: .replicate 4 main ++
      [merge, .world .drop, .task .first .watcher, merge, merge, main, merge] ++ .replicate 5 main
    let acts := dialing ++ [main, main, main, merge]
    ∃ s run, play performAnew acts start = some s ∧ s.epochs = 2 ∧ s.phase = .working run ∧
      ReportsLoss start acts 2 ∧ s.stage.control.slot = none ∧ s.stage.broker.loss = none := by
  intro start main merge dialing acts
  have dialed : (play performAnew dialing start).bind (fun s => (performAnew main s).map
      fun t => (s.epochs, t.epochs, s.stage.broker.reportsLoss)) = some (1, 2, true) := by
    decide +kernel
  have ran : (play performAnew acts start).map
      (fun s => (s.epochs, s.advance.isNone, s.phase.isWorking, s.stage.output.items.isEmpty,
        s.stage.output.capacity)) = some (2, true, true, true, 1) := by
    decide +kernel
  obtain ⟨s, reached, same⟩ := Option.map_eq_some_iff.mp ran
  simp only [Prod.mk.injEq, Option.isNone_iff_eq_none, List.isEmpty_iff] at same
  obtain ⟨second, settled, works, room, capacity⟩ := same
  obtain ⟨t, dials, answered⟩ := Option.bind_eq_some_iff.mp dialed
  obtain ⟨u, connected, same⟩ := Option.map_eq_some_iff.mp answered
  simp only [Prod.mk.injEq] at same
  obtain ⟨first, next, reports⟩ := same
  have reporting : ReportsLoss start acts 2 :=
    ⟨dialing, main, _, t, u, rfl, dials, connected, by omega, next, reports⟩
  cases phase : s.phase with
  | working run =>
      refine ⟨s, run, reached, second, phase, reporting, ?_⟩
      rcases no_deaf_worker rfl reached settled phase with ⟨envelope, _, full⟩ | ⟨empty, told⟩
      · unfold Pipe.send at full
        simp only [room, capacity] at full
        split at full <;> cases full
      · exact ⟨empty, told (second ▸ reporting)⟩
  | _ => rw [phase] at works; cases works

end Supervised

end ExchangeTap
