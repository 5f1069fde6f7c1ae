import ExchangeTap.Control.Bench

namespace ExchangeTap

def Poll.signals : Poll (Option Signal) → List Signal
  | .ready signal => signal.toList
  | .pending => []

@[simp] theorem Poll.signals_ready (signal : Option Signal) :
    (Poll.ready signal).signals = signal.toList := rfl

@[simp] theorem Poll.signals_pending : Poll.pending.signals = [] := rfl

private theorem Poll.signals_length_le (result : Poll (Option Signal)) :
    result.signals.length ≤ if result != .pending then 1 else 0 := by
  rcases result with _ | _ <;> simp [Option.length_toList_le]

private theorem Poll.signals_length_eq {result : Poll (Option Signal)} (goes_on : result ≠ .ready none) :
    result.signals.length = if result != .pending then 1 else 0 := by
  cases result with
  | pending => rfl
  | ready signal =>
      cases signal with
      | none => cases goes_on rfl
      | some signal => rfl

namespace ControlPath

/-- Between two states these signals were handed out, and nothing was put into the slot. -/
structure Yields (before : ControlPath ρ) (signals : List Signal) (after : ControlPath ρ) :
    Prop where
  slot : before.slot.toList = signals ++ after.slot.toList
  reserved : after.reserved = before.reserved
  senderAlive : after.senderAlive = before.senderAlive

variable {p q r : ControlPath ρ} {signals more : List Signal}

theorem Yields.refl (p : ControlPath ρ) : p.Yields [] p :=
  ⟨rfl, rfl, rfl⟩

theorem Yields.trans (first : p.Yields signals q) (second : q.Yields more r) :
    p.Yields (signals ++ more) r := by
  refine ⟨?_, second.reserved.trans first.reserved, second.senderAlive.trans first.senderAlive⟩
  rw [first.slot, second.slot, List.append_assoc]

private theorem yields_release (p : ControlPath ρ) : p.Yields [] p.release :=
  ⟨rfl, rfl, rfl⟩

private theorem yields_tryTake (p : ControlPath ρ) : p.Yields p.tryTake.1.toList p.tryTake.2 := by
  unfold tryTake
  split
  · exact ⟨by simp, rfl, rfl⟩
  · exact .refl p

theorem offer_of_free (free : p.reserved = false) (signal : Signal) :
    p.offer signal =
      if p.slot.isSome then (.full, p) else (.accepted, { p with slot := some signal }) := by
  simp only [offer, free, Bool.or_false]

private theorem offer_full_iff (free : p.reserved = false) (signal : Signal) :
    (p.offer signal).1 = .full ↔ p.slot.isSome := by
  rw [offer_of_free free]
  split <;> simp_all

variable [DecidableEq ρ]

private theorem yields_request (p : ControlPath ρ) (reader : ρ) : p.Yields [] (p.request reader) := by
  unfold request
  split
  · exact .refl p
  · split <;> exact ⟨rfl, rfl, rfl⟩

private theorem yields_cancel (p : ControlPath ρ) (reader : ρ) : p.Yields [] (p.cancel reader) := by
  unfold cancel
  split
  · exact yields_release p
  · exact ⟨rfl, rfl, rfl⟩

private theorem yields_poll (p : ControlPath ρ) (reader : ρ) :
    p.Yields (p.poll reader).1.signals (p.poll reader).2 := by
  have requested := yields_request p reader
  unfold poll
  generalize p.request reader = waiting at requested
  dsimp only
  split
  · cases pending : waiting.slot with
    | some signal =>
        refine ⟨?_, requested.reserved, requested.senderAlive⟩
        rw [requested.slot, pending]
        rfl
    | none =>
        cases alive : waiting.senderAlive with
        | true => exact requested
        | false => exact requested.trans (yields_release waiting)
  · exact requested

/-- An attempt ends without a signal only when there is none and no more can come. -/
theorem gone_of_poll_end (reader : ρ) (ended : (p.poll reader).1 = .ready none) :
    p.slot = none ∧ p.senderAlive = false := by
  have requested := yields_request p reader
  unfold poll at ended
  generalize p.request reader = waiting at requested ended
  have same := requested.slot
  rw [← requested.senderAlive]
  dsimp only at ended
  split at ended
  · cases pending : waiting.slot with
    | some signal => simp [pending] at ended
    | none =>
        cases alive : waiting.senderAlive with
        | true => simp [pending, alive] at ended
        | false => exact ⟨by simpa [pending] using same, rfl⟩
  · cases ended

end ControlPath

/-- A control path in use, with the signals that it accepted and those that it handed out, each with
the one who had waited for it, if somebody had. -/
structure Handing (ρ : Type) where
  path : ControlPath ρ
  accepted : List Signal
  handed : List (Option ρ × Signal)

namespace Handing

/-- A task, a stream and an attempt that is given up in time all receive by `poll`, and leave by
`cancel`. -/
inductive Act (ρ : Type) where
  | send (signal : Signal)
  | dropSender
  | tryTake
  | poll (reader : ρ)
  | cancel (reader : ρ)

def start : Handing ρ :=
  ⟨.empty, [], []⟩

def perform [DecidableEq ρ] (t : Handing ρ) : Act ρ → Handing ρ
  | .send signal =>
    if t.path.senderAlive then
      match t.path.offer signal with
      | (.accepted, path) => { t with path := path, accepted := t.accepted ++ [signal] }
      | (.full, path) => { t with path := path }
    else t
  | .dropSender => { t with path := t.path.dropSender }
  | .tryTake =>
    { t with
      path := t.path.tryTake.2
      handed := t.handed ++ t.path.tryTake.1.toList.map (none, ·) }
  | .poll reader =>
    { t with
      path := (t.path.poll reader).2
      handed := t.handed ++ (t.path.poll reader).1.signals.map (some reader, ·) }
  | .cancel reader => { t with path := t.path.cancel reader }

structure Conserved (t : Handing ρ) : Prop where
  signals : t.accepted = t.handed.map Prod.snd ++ t.path.slot.toList
  free : t.path.reserved = false

variable {t : Handing ρ}

theorem Conserved.yields {path : ControlPath ρ} {signals : List Signal} (conserved : t.Conserved)
    (yields : t.path.Yields signals path) (taker : Option ρ) :
    Conserved { t with path := path, handed := t.handed ++ signals.map (taker, ·) } := by
  refine ⟨?_, yields.reserved.trans conserved.free⟩
  rw [conserved.signals, yields.slot]
  simp [Function.comp_def]

theorem Conserved.frame {path : ControlPath ρ} (conserved : t.Conserved)
    (yields : t.path.Yields [] path) : Conserved { t with path := path } := by
  refine ⟨?_, yields.reserved.trans conserved.free⟩
  rw [conserved.signals, yields.slot]
  rfl

variable [DecidableEq ρ]

theorem Conserved.perform (conserved : t.Conserved) (act : Act ρ) : (t.perform act).Conserved := by
  cases act with
  | send signal =>
      rw [Handing.perform, ControlPath.offer_of_free conserved.free]
      split
      · cases pending : t.path.slot with
        | some other => simpa using conserved
        | none => exact ⟨by simp [conserved.signals, pending], conserved.free⟩
      · exact conserved
  | dropSender => exact ⟨conserved.signals, conserved.free⟩
  | tryTake => exact conserved.yields t.path.yields_tryTake none
  | poll reader => exact conserved.yields (t.path.yields_poll reader) (some reader)
  | cancel reader => exact conserved.frame (t.path.yields_cancel reader)

private theorem conserved_of_run (acts : List (Act ρ)) : (acts.foldl perform start).Conserved :=
  List.foldlRecOn acts perform ⟨rfl, rfl⟩ fun _ conserved act _ => conserved.perform act

end Handing

/-- Who receives a signal at a bench: an attempt of its caller, its stream, or one of its tasks. -/
inductive Taker where
  | receive
  | tryTake
  | stream
  | task
  deriving DecidableEq, Repr

namespace ControlBench

def finished (b : ControlBench) : Nat :=
  b.tasks.countP Prod.snd

/-- Between two states the signals of `handed` were handed out, and each of them that did not go to a
task is one of `got`. A task finishes with a signal, unless no more can come. -/
structure Serves (before : ControlBench) (handed got : List (Taker × Signal))
    (after : ControlBench) : Prop where
  got : got = handed.filter (·.1 ≠ .task)
  path : before.path.Yields (handed.map Prod.snd) after.path
  finished_le : before.finished + handed.countP (·.1 = .task) ≤ after.finished
  finished_eq : before.path.senderAlive →
    after.finished = before.finished + handed.countP (·.1 = .task)

def Answers (before : ControlBench) (got : List (Taker × Signal)) (after : ControlBench) : Prop :=
  ∃ handed, before.Serves handed got after

variable {b c d : ControlBench} {handed more got rest : List (Taker × Signal)}

theorem Serves.trans (first : b.Serves handed got c) (second : c.Serves more rest d) :
    b.Serves (handed ++ more) (got ++ rest) d := by
  refine ⟨?_, ?_, ?_, fun alive => ?_⟩
  · rw [first.got, second.got, List.filter_append]
  · rw [List.map_append]
    exact first.path.trans second.path
  · have := first.finished_le
    have := second.finished_le
    rw [List.countP_append]
    omega
  · have := first.finished_eq alive
    have := second.finished_eq (first.path.senderAlive.trans alive)
    rw [List.countP_append]
    omega

theorem Answers.trans (first : b.Answers got c) (second : c.Answers rest d) :
    b.Answers (got ++ rest) d := by
  obtain ⟨handed, first⟩ := first
  obtain ⟨more, second⟩ := second
  exact ⟨handed ++ more, first.trans second⟩

private theorem answers_of_yields {signals : List Signal} (taker : Taker) (caller : taker ≠ .task)
    (yields : b.path.Yields signals c.path) (tasks : c.finished = b.finished) :
    b.Answers (signals.map (taker, ·)) c := by
  have nobody : (signals.map (taker, ·)).countP (·.1 = .task) = 0 := by
    simp [List.countP_eq_zero, caller]
  refine ⟨signals.map (taker, ·), ?_, ?_, ?_, fun _ => ?_⟩
  · symm
    simp [List.filter_eq_self, caller]
  · simpa [Function.comp_def] using yields
  · omega
  · omega

private theorem answers_nothing (yields : b.path.Yields [] c.path) (tasks : c.finished = b.finished) :
    b.Answers [] c :=
  answers_of_yields .receive nofun yields tasks

private theorem answers_refl (b : ControlBench) : b.Answers [] b :=
  answers_nothing (.refl b.path) rfl

private theorem runTasks_spec (path : ControlPath Nat) (tasks : List (Nat × Bool)) :
    ∃ signals, path.Yields signals (runTasks path tasks).2 ∧
      tasks.countP Prod.snd + signals.length ≤ (runTasks path tasks).1.countP Prod.snd ∧
      (path.senderAlive → (runTasks path tasks).1.countP Prod.snd =
        tasks.countP Prod.snd + signals.length) := by
  induction tasks generalizing path with
  | nil => exact ⟨[], .refl path, Nat.le_refl _, fun _ => rfl⟩
  | cons task rest ih =>
      obtain ⟨reader, finished⟩ := task
      cases finished with
      | true =>
          obtain ⟨signals, yields, finished_le, finished_eq⟩ := ih path
          refine ⟨signals, yields, ?_, fun alive => ?_⟩
          · simp only [runTasks, List.countP_cons_of_pos]
            omega
          · have := finished_eq alive
            simp only [runTasks, List.countP_cons_of_pos]
            omega
      | false =>
          have polled := path.yields_poll reader
          have ended := path.gone_of_poll_end reader
          rcases attempt : path.poll reader with ⟨result, after⟩
          rw [attempt] at polled ended
          obtain ⟨signals, yields, finished_le, finished_eq⟩ := ih after
          have run : runTasks path ((reader, false) :: rest) =
              ((reader, result != .pending) :: (runTasks after rest).1, (runTasks after rest).2) := by
            rw [runTasks, attempt]
          rw [run]
          have counted := Poll.signals_length_le result
          refine ⟨result.signals ++ signals, polled.trans yields, ?_, fun alive => ?_⟩
          · simp only [List.countP_cons, List.length_append, Bool.false_eq_true, if_false]
            omega
          · have := finished_eq (polled.senderAlive.trans alive)
            have goes_on : result ≠ .ready none := fun ending => by simp [(ended ending).2] at alive
            have := Poll.signals_length_eq goes_on
            simp only [List.countP_cons, List.length_append, Bool.false_eq_true, if_false]
            omega

private theorem answers_settled (b : ControlBench) : b.Answers [] b.settled := by
  unfold settled
  generalize ample = fuel
  induction fuel generalizing b with
  | zero => exact answers_refl b
  | succ fuel ih =>
      obtain ⟨signals, yields, finished_le, finished_eq⟩ := runTasks_spec b.path b.tasks
      rw [settle]
      generalize runTasks b.path b.tasks = ran at *
      by_cases still : ran.1 = b.tasks ∧ ran.2 = b.path
      · simp only [if_pos still]
        exact answers_refl b
      · simp only [if_neg still]
        have round : b.Answers [] { b with tasks := ran.1, path := ran.2 } := by
          refine ⟨signals.map (.task, ·), ?_, ?_, ?_, ?_⟩
          · simp
          · simpa [Function.comp_def] using yields
          · simpa [finished, List.countP_map, Function.comp_def] using finished_le
          · simpa [finished, List.countP_map, Function.comp_def] using finished_eq
        exact round.trans (ih _)

private theorem answers_tryTake (b : ControlBench) :
    b.Answers (b.tryTake.1.toList.map (.tryTake, ·)) b.tryTake.2 :=
  answers_of_yields .tryTake nofun b.path.yields_tryTake rfl

private theorem answers_poll {reader : Nat} {result : Poll (Option Signal)} {path : ControlPath Nat}
    (polled : b.path.poll reader = (result, path)) (taker : Taker) (caller : taker ≠ .task)
    (stream : Option (Option Nat)) (nextReader : Nat) :
    b.Answers (result.signals.map (taker, ·)) ⟨path, b.tasks, stream, nextReader⟩ := by
  have yields := b.path.yields_poll reader
  rw [polled] at yields
  exact answers_of_yields taker caller yields rfl

private theorem answers_receive (b : ControlBench) :
    b.Answers (b.receive.1.signals.map (.receive, ·)) b.receive.2 := by
  unfold receive
  dsimp only
  generalize b.nextReader = reader
  rcases polled : b.path.poll reader with ⟨result, path⟩
  cases result with
  | ready signal =>
      have answered := answers_poll polled .receive nofun b.stream (reader + 1)
      simpa using answered.trans (answers_settled _)
  | pending =>
      have waiting := answers_poll polled .receive nofun b.stream (reader + 1)
      have rested := waiting.trans (answers_settled _)
      dsimp only
      generalize settled { b with nextReader := reader + 1, path := path } = later at rested ⊢
      rcases again : later.path.poll reader with ⟨result, path⟩
      cases result with
      | ready signal =>
          have answered := answers_poll again .receive nofun later.stream later.nextReader
          simpa using (rested.trans answered).trans (answers_settled _)
      | pending =>
          have waited := answers_poll again .receive nofun later.stream later.nextReader
          have left : Answers { later with path := path } []
              { later with path := path.cancel reader } :=
            answers_nothing (path.yields_cancel reader) rfl
          exact ((rested.trans waited).trans left).trans (answers_settled _)

private theorem answers_wait (b : ControlBench) : b.Answers [] b.wait := by
  have started : b.Answers [] { b with
      tasks := b.tasks ++ [(b.nextReader, false)], nextReader := b.nextReader + 1 } :=
    answers_nothing (.refl b.path) (by simp [finished])
  exact started.trans (answers_settled _)

private theorem yields_cancel (b : ControlBench) : b.path.Yields [] b.cancel.path := by
  unfold cancel
  generalize b.path = path
  induction b.tasks generalizing path with
  | nil => exact .refl path
  | cons task rest ih => exact (path.yields_cancel task.1).trans (ih _)

private theorem answers_dropStream (b : ControlBench) : b.Answers [] b.dropStream := by
  unfold dropStream
  split
  · exact answers_nothing (b.path.yields_cancel _) rfl
  · exact answers_nothing (.refl b.path) rfl

private theorem answers_openStream (b : ControlBench) : b.Answers [] b.openStream :=
  (answers_dropStream b).trans (answers_nothing (.refl _) rfl)

private theorem answers_next (b : ControlBench) :
    b.Answers ((b.next.1.elim [] Poll.signals).map (.stream, ·)) b.next.2 := by
  unfold next
  cases b.stream with
  | none => exact answers_refl b
  | some attempt =>
      dsimp only
      generalize attempt.getD b.nextReader = reader
      generalize max b.nextReader (reader + 1) = nextReader
      rcases polled : b.path.poll reader with ⟨result, path⟩
      cases result with
      | ready signal =>
          have answered := answers_poll polled .stream nofun (some none) nextReader
          simpa using answered.trans (answers_settled _)
      | pending =>
          have waiting := answers_poll polled .stream nofun (some (some reader)) nextReader
          have rested := waiting.trans (answers_settled _)
          dsimp only
          generalize settled _ = later at rested ⊢
          rcases again : later.path.poll reader with ⟨result, path⟩
          cases result with
          | ready signal =>
              have answered := answers_poll again .stream nofun (some none) later.nextReader
              simpa using (rested.trans answered).trans (answers_settled _)
          | pending =>
              have waited := answers_poll again .stream nofun (some (some reader)) later.nextReader
              exact (rested.trans waited).trans (answers_settled _)

end ControlBench

/-- A bench in use, with the signals that its control path accepted, those that its callers and its
stream got, and how many tasks had finished when they were forgotten. -/
structure BenchHanding where
  bench : ControlBench
  accepted : List Signal
  got : List (Taker × Signal)
  forgotten : Nat

namespace BenchHanding

inductive Act where
  | send (signal : Signal)
  | dropSender
  | tryTake
  | receive
  | wait
  | settle
  | cancel
  | openStream
  | next
  | dropStream

def start : BenchHanding :=
  ⟨.start, [], [], 0⟩

def note (t : BenchHanding) (taker : Taker) (signals : List Signal) (bench : ControlBench) :
    BenchHanding :=
  { t with bench := bench, got := t.got ++ signals.map (taker, ·) }

def perform (t : BenchHanding) : Act → BenchHanding
  | .send signal =>
    match t.bench.send signal with
    | (some .accepted, bench) => { t with bench := bench, accepted := t.accepted ++ [signal] }
    | (_, bench) => { t with bench := bench }
  | .dropSender => { t with bench := t.bench.dropSender }
  | .tryTake => t.note .tryTake t.bench.tryTake.1.toList t.bench.tryTake.2
  | .receive => t.note .receive t.bench.receive.1.signals t.bench.receive.2
  | .wait => { t with bench := t.bench.wait }
  | .settle => { t with bench := t.bench.settled }
  | .cancel => { t with bench := t.bench.cancel, forgotten := t.forgotten + t.bench.finished }
  | .openStream => { t with bench := t.bench.openStream }
  | .next => t.note .stream (t.bench.next.1.elim [] Poll.signals) t.bench.next.2
  | .dropStream => { t with bench := t.bench.dropStream }

structure Conserved (t : BenchHanding) (handed : List (Taker × Signal)) : Prop where
  signals : t.accepted = handed.map Prod.snd ++ t.bench.path.slot.toList
  got : t.got = handed.filter (·.1 ≠ .task)
  finished_le : handed.countP (·.1 = .task) ≤ t.forgotten + t.bench.finished
  finished_eq : t.bench.path.senderAlive →
    t.forgotten + t.bench.finished = handed.countP (·.1 = .task)
  free : t.bench.path.reserved = false

variable {t : BenchHanding} {handed : List (Taker × Signal)}

theorem Conserved.answers {bench : ControlBench} {taker : Taker} {signals : List Signal}
    (conserved : t.Conserved handed)
    (answers : t.bench.Answers (signals.map (taker, ·)) bench) :
    ∃ handed, (t.note taker signals bench).Conserved handed := by
  obtain ⟨more, serves⟩ := answers
  have finished_le := conserved.finished_le
  have served_le := serves.finished_le
  refine ⟨handed ++ more, ?_, ?_, ?_, fun alive => ?_, serves.path.reserved.trans conserved.free⟩
  · simp only [note]
    rw [conserved.signals, serves.path.slot, List.map_append, List.append_assoc]
  · simp only [note]
    rw [conserved.got, serves.got, List.filter_append]
  · rw [List.countP_append]
    simp only [note]
    omega
  · have alive := serves.path.senderAlive.symm.trans alive
    have := conserved.finished_eq alive
    have := serves.finished_eq alive
    rw [List.countP_append]
    simp only [note]
    omega

theorem Conserved.frame {bench : ControlBench} (conserved : t.Conserved handed)
    (answers : t.bench.Answers [] bench) :
    ∃ handed, Conserved { t with bench := bench } handed := by
  have nothing : t.bench.Answers (([] : List Signal).map (Taker.task, ·)) bench := answers
  have noted := conserved.answers nothing
  simpa [note] using noted

theorem Conserved.send (conserved : t.Conserved handed) (signal : Signal) :
    (t.perform (.send signal)).Conserved handed := by
  rw [BenchHanding.perform, ControlBench.send, ControlPath.offer_of_free conserved.free]
  cases alive : t.bench.path.senderAlive with
  | false => exact conserved
  | true =>
      cases pending : t.bench.path.slot with
      | some other => exact conserved
      | none =>
          refine ⟨?_, conserved.got, conserved.finished_le, fun _ => conserved.finished_eq alive,
            conserved.free⟩
          simp [conserved.signals, pending]

theorem Conserved.perform (conserved : t.Conserved handed) (act : Act) :
    ∃ handed, (t.perform act).Conserved handed := by
  cases act with
  | send signal => exact ⟨handed, conserved.send signal⟩
  | dropSender =>
      exact ⟨handed, conserved.signals, conserved.got, conserved.finished_le, nofun, conserved.free⟩
  | tryTake => exact conserved.answers t.bench.answers_tryTake
  | receive => exact conserved.answers t.bench.answers_receive
  | wait => exact conserved.frame t.bench.answers_wait
  | settle => exact conserved.frame t.bench.answers_settled
  | cancel =>
      have left := t.bench.yields_cancel
      refine ⟨handed, ?_, conserved.got, ?_, fun alive => ?_, left.reserved.trans conserved.free⟩
      · exact conserved.signals.trans (congrArg _ left.slot)
      · exact conserved.finished_le
      · exact conserved.finished_eq (left.senderAlive.symm.trans alive)
  | openStream => exact conserved.frame t.bench.answers_openStream
  | next => exact conserved.answers t.bench.answers_next
  | dropStream => exact conserved.frame t.bench.answers_dropStream

private theorem conserved_of_run (acts : List Act) :
    ∃ handed, (acts.foldl perform start).Conserved handed :=
  List.foldlRecOn (motive := fun t => ∃ handed, Conserved t handed) acts perform
    ⟨[], rfl, rfl, Nat.le_refl 0, fun _ => rfl, rfl⟩
    fun _ reached act _ => reached.elim fun _ conserved => conserved.perform act

end BenchHanding

/-- However many receivers there are, and in whatever order they come, go on and give up: the accepted
signals are those that were handed out, each to one receiver, and then the pending one, which alone
lets another signal be refused. The same holds of a bench, where the signals that did not go to the
caller or the stream are those that tasks finished with. -/
theorem ControlPath.signals_handed_out_once :
    (∀ {ρ : Type} [DecidableEq ρ] (acts : List (Handing.Act ρ)),
      let t := acts.foldl Handing.perform Handing.start
      t.accepted = t.handed.map Prod.snd ++ t.path.slot.toList ∧
      t.accepted.length ≤ t.handed.length + 1 ∧
      ∀ signal, (t.path.offer signal).1 = .full ↔ t.path.slot.isSome) ∧
    (∀ acts : List BenchHanding.Act,
      let t := acts.foldl BenchHanding.perform BenchHanding.start
      (∃ handed : List (Taker × Signal),
        t.accepted = handed.map Prod.snd ++ t.bench.path.slot.toList ∧
        t.got = handed.filter (·.1 ≠ .task) ∧
        handed.countP (·.1 = .task) ≤ t.forgotten + t.bench.finished ∧
        (t.bench.path.senderAlive →
          t.forgotten + t.bench.finished = handed.countP (·.1 = .task))) ∧
      ∀ signal, (t.bench.send signal).1 = some .full ↔
        t.bench.path.senderAlive ∧ t.bench.path.slot.isSome) := by
  refine ⟨fun acts => ?_, fun acts => ?_⟩
  · have conserved := Handing.conserved_of_run acts
    refine ⟨conserved.signals, ?_, ControlPath.offer_full_iff conserved.free⟩
    rw [conserved.signals, List.length_append, List.length_map]
    exact Nat.add_le_add_left Option.length_toList_le _
  · obtain ⟨handed, conserved⟩ := BenchHanding.conserved_of_run acts
    refine ⟨⟨handed, conserved.signals, conserved.got, conserved.finished_le,
      conserved.finished_eq⟩, fun signal => ?_⟩
    unfold ControlBench.send
    split
    · rename_i alive
      simpa [alive] using ControlPath.offer_full_iff conserved.free signal
    · rename_i gone
      simp [gone]

/-- A task that was given up after the signal had come, but before it went on, leaves the signal to
others. -/
example :
    ([.wait, .wait, .send .shutdown, .cancel, .tryTake].foldl BenchHanding.perform .start).got =
      [(.tryTake, .shutdown)] := by
  decide +kernel

end ExchangeTap
