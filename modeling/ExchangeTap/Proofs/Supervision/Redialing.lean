import ExchangeTap.Proofs.Supervision.Seeking

namespace ExchangeTap.Supervised

variable {s t u start : Supervised} {act : Act} {acts : List Act}

private theorem grows_of_performAnew (guarded : s.Guarded) (performed : performAnew act s = some t) :
    s.epochs ≤ t.epochs ∧ (t.shutdownRequested = false → s.shutdownRequested = false) := by
  rcases perform_of_performAnew performed with once | ⟨_, rfl⟩
  · have move := move_of_perform guarded once
    exact ⟨epochs_of_move move, move.unclosed⟩
  · exact ⟨Nat.le_refl _, id⟩

private theorem draining_of_began (guarded : s.Guarded) (performed : performAnew act s = some t)
    (elsewhere : s.phase.isSeeking = false) (seeking : t.phase.isSeeking = true) :
    t.phase = .draining := by
  rcases perform_of_performAnew performed with once | ⟨_, rfl⟩
  · have move := move_of_perform guarded once
    cases move with
    | begins | redials | hearsReconnect | retries => rfl
    | dials phase | fails phase =>
        rw [phase] at elsewhere
        cases elsewhere
    | hearsShutdown | remembers | connects | works | merges | returns | joins | quits =>
        cases seeking
    | calls call => cases call <;> cases elsewhere.symm.trans seeking
    | _ => cases elsewhere.symm.trans seeking
  · rfl

/-- The redial that began at `s` goes on, in time, and nobody has asked to close. -/
structure Underway (s : Supervised) (acts : List Act) (t : Supervised) : Prop where
  played : play performAnew acts s = some t
  punctual : Punctually acts s
  unclosed : t.shutdownRequested = false
  lasting : t.epochs = s.epochs

theorem Underway.concat (underway : s.Underway acts t) (performed : performAnew act t = some u)
    (timely : t.Punctual act) (unclosed : u.shutdownRequested = false)
    (lasting : u.epochs = t.epochs) : s.Underway (acts ++ [act]) u := by
  refine ⟨?_, ?_, unclosed, lasting.trans underway.lasting⟩
  · rw [play_append, underway.played, Option.bind_some, play_cons, performed]
    rfl
  · exact (punctually_concat underway.played).mpr ⟨underway.punctual, timely⟩

theorem Underway.seeking (configured : Configured start s) (phase : s.phase = .draining)
    (underway : s.Underway acts t) :
    Configured start t ∧ ∃ failed heard, s.Seeking acts failed heard t := by
  have along := play_history
    (P := fun acts t => Configured start t ∧ s.epochs ≤ t.epochs ∧
      (Punctually acts s → t.shutdownRequested = false → t.epochs = s.epochs →
        ∃ failed heard, s.Seeking acts failed heard t))
    (fun {acts act t u} reached known performed => by
      obtain ⟨configuredThen, later, course⟩ := known
      obtain ⟨grown, unasked⟩ := grows_of_performAnew configuredThen.guarded performed
      refine ⟨configuredThen.performAnew performed, Nat.le_trans later grown, ?_⟩
      intro punctual unclosed lasting
      obtain ⟨before, timely⟩ := (punctually_concat reached).mp punctual
      have same : t.epochs = s.epochs := by omega
      obtain ⟨failed, heard, seeking⟩ := course before (unasked unclosed) same
      exact seeking.perform configuredThen
        (configuredThen.retryDelay.trans configured.retryDelay.symm) reached performed timely
        unclosed (lasting.trans same.symm))
    ⟨configured, Nat.le_refl _, fun _ _ _ => ⟨[], [], .begin phase⟩⟩ underway.played
  exact ⟨along.1, along.2.2 underway.punctual underway.unclosed underway.lasting⟩

/-- The redial that began at `s` can end in time with an epoch, and without a change of the broker's
mind. -/
def Ends (s t : Supervised) : Prop :=
  ∃ more u, play performAnew more t = some u ∧ Punctually more t ∧ more.all (!·.replans) ∧
    u.shutdownRequested = false ∧ u.epochs = s.epochs + 1

theorem Ends.cons (ends : s.Ends u) (performed : performAnew act t = some u)
    (timely : t.Punctual act) (kept : act.replans = false) : s.Ends t := by
  obtain ⟨more, last, going, punctual, keeps, settled⟩ := ends
  refine ⟨act :: more, last, ?_, ?_, by simp [kept, keeps], settled⟩
  · rw [play_cons, performed]
    exact going
  · simp only [Punctually, performed, Option.all_some, Bool.and_eq_true, decide_eq_true_eq]
    exact ⟨timely, punctual⟩

theorem Underway.wakes (configured : Configured start s) (phase : s.phase = .draining)
    (underway : s.Underway acts t) (waits : t.Waits) :
    ∃ millis, t.Punctual (.world (.pass millis)) ∧
      s.Underway (acts ++ [.world (.pass millis)])
        { t with stage := t.stage.undergo (.pass millis) } ∧
      ¬ Waits { t with stage := t.stage.undergo (.pass millis) } := by
  obtain ⟨later, failed, heard, seeking⟩ := underway.seeking configured phase
  obtain ⟨asleep, _, early⟩ :=
    seeking.stands.asleep later.guarded (Seeking.empty later underway.unclosed) waits
  have timely : t.Punctual (.world (.pass (s.due failed.length - t.stage.now))) := by
    refine ⟨waits, fun deadline member => ?_⟩
    rw [deadline?, asleep] at member
    cases member
    omega
  have further := underway.concat (u := { t with stage := t.stage.undergo (.pass _) }) rfl timely
    underway.unclosed rfl
  refine ⟨_, timely, further, fun stuck => ?_⟩
  obtain ⟨still, refused, signals, seekingThen⟩ := further.seeking configured phase
  obtain ⟨same, _, before⟩ :=
    seekingThen.stands.asleep still.guarded (Seeking.empty still underway.unclosed) stuck
  have due := SupervisorPhase.retrying.inj (asleep.symm.trans same)
  simp only [Stage.undergo] at before
  omega

private theorem goes_of_awake (awake : ¬ s.Waits) :
    ∃ pick next, perform (.task pick .main) s = some next := by
  cases first : s.mainStep .first with
  | some next => exact ⟨.first, next, first⟩
  | none =>
      cases second : s.mainStep .second with
      | some next => exact ⟨.second, next, second⟩
      | none => exact absurd ⟨by rw [first]; rfl, by rw [second]; rfl⟩ awake

theorem Underway.ends (configured : Configured start s) (phase : s.phase = .draining)
    {errors : List BrokerError} (refuses : s.stage.broker.Refuses errors) (left : Nat) :
    ∀ {acts t}, s.Underway acts t → acts.all (!·.replans) →
      3 * (errors.length + 1) ≤ acts.countP Act.isMain + left → s.Ends t := by
  induction left with
  | zero =>
      intro acts t underway kept enough
      obtain ⟨_, failed, heard, seeking⟩ := underway.seeking configured phase
      obtain ⟨rest, rfl, _⟩ := seeking.plan errors refuses kept
      have few := seeking.steps_lt
      rw [List.length_append] at enough
      omega
  | succ left ih =>
      have goes : ∀ {acts t}, s.Underway acts t → acts.all (!·.replans) →
          3 * (errors.length + 1) ≤ acts.countP Act.isMain + (left + 1) → ¬ t.Waits →
          s.Ends t := by
        intro acts t underway kept enough awake
        obtain ⟨later, failed, heard, seeking⟩ := underway.seeking configured phase
        obtain ⟨pick, next, performed⟩ := goes_of_awake awake
        have unasked := (move_of_perform later.guarded performed).unasked.trans underway.unclosed
        have anew : performAnew (.task pick .main) t = some next := performed
        refine Ends.cons ?_ anew trivial rfl
        by_cases begun : next.epochs = t.epochs
        · refine ih (underway.concat anew trivial unasked begun) ?_ ?_
          · simpa [Act.replans] using kept
          · simp only [List.countP_append, List.countP_singleton, Act.isMain, if_true]
            omega
        · obtain ⟨_, epochs, _⟩ :=
            seeking.connect later underway.played anew begun
          exact ⟨[], next, rfl, rfl, rfl, unasked, epochs⟩
      intro acts t underway kept enough
      -- Time costs no step of the supervisor, so a sleeper is woken up within the same count.
      by_cases waits : t.Waits
      · obtain ⟨millis, timely, further, awake⟩ := underway.wakes configured phase waits
        refine Ends.cons (goes further ?_ ?_ awake) rfl timely rfl
        · simpa [Act.replans, World.replans] using kept
        · simpa [Act.isMain] using enough
      · exact goes underway kept enough waits

/-- From the moment the supervisor looks for a connection, and while nobody asks to close, it dials
at that moment and one delay after each dial that is refused; before the next dial is due it can
only sleep, and it takes three steps a dial. The epoch begins at the time of the last dial, the first
that is answered, and it can begin whenever the broker keeps to its refusals. What was in the slot is
heard before the first dial, and every dial comes to its end. -/
theorem redials_on_schedule {worker : Worker} {retryDelay : Nat} {broker : Broker} {capacity : Nat}
    {suffix : Nat → String} {before acts : List Act} {act : Act} {r s t : Supervised}
    (reached : play performAnew before (fresh worker retryDelay broker capacity suffix) = some r)
    (began : performAnew act r = some s) (elsewhere : r.phase.isSeeking = false)
    (seeks : s.phase.isSeeking = true)
    (played : play performAnew acts s = some t) (punctual : Punctually acts s)
    (unclosed : t.shutdownRequested = false) (lasting : t.epochs = s.epochs) :
    ∃ failed : List BrokerError,
      t.phase.isSeeking = true ∧
      dialTimes acts s = (List.range (failed.length + t.phase.isDialing.toNat)).map
        (fun i => s.stage.now + i * retryDelay) ∧
      acts.countP Act.isMain < 3 * (failed.length + 1) ∧
      (t.Waits →
        t.deadline? = some (s.stage.now + failed.length * retryDelay) ∧
          t.stage.now < s.stage.now + failed.length * retryDelay) ∧
      (∀ errors, s.stage.broker.Refuses errors → acts.all (!·.replans) →
        failed <+: errors ∧ s.Ends t) ∧
      ∀ last u, performAnew last t = some u → u.epochs ≠ s.epochs →
        last.isMain = true ∧ u.epochs = s.epochs + 1 ∧
        u.phase = .working (worker.start s.epochs) ∧
        u.stage.now = s.stage.now + failed.length * retryDelay ∧
        dialTimes (acts ++ [last]) s =
          (List.range (failed.length + 1)).map (fun i => s.stage.now + i * retryDelay) ∧
        u.stage.journal =
          .epochStarted :: .logged .connected :: .dialSucceeded :: .dialAttempted ::
            refusals retryDelay failed ++
            s.stage.control.slot.toList.map (.signalTaken · .supervisor) ++ s.stage.journal ∧
        ∀ errors, s.stage.broker.Refuses errors → acts.all (!·.replans) → failed = errors := by
  have configuredBefore := play_preserves Configured.performAnew
    (configured_fresh worker retryDelay broker capacity suffix) reached
  have configured := configuredBefore.performAnew began
  have phase := draining_of_began configuredBefore.guarded began elsewhere seeks
  have underway : s.Underway acts t := ⟨played, punctual, unclosed, lasting⟩
  obtain ⟨later, failed, heard, seeking⟩ := underway.seeking configured phase
  have delay : s.retryDelay = retryDelay := configured.retryDelay
  have due : s.due = fun i => s.stage.now + i * retryDelay := by
    funext i
    rw [Supervised.due, delay]
  have unlistening := Seeking.empty later unclosed
  refine ⟨failed, seeking.stands.isSeeking, ?_, ?_, ?_, ?_, ?_⟩
  · rw [seeking.dials, dueTimes, due]
  · exact seeking.steps_lt
  · intro waits
    obtain ⟨phase, _, early⟩ := seeking.stands.asleep later.guarded unlistening waits
    rw [due] at phase early
    exact ⟨by rw [deadline?, phase], early⟩
  · intro errors refuses kept
    refine ⟨?_, underway.ends configured phase refuses _ kept (Nat.le_add_left _ _)⟩
    obtain ⟨rest, rfl, _⟩ := seeking.plan errors refuses kept
    exact List.prefix_append failed rest
  · intro last u performed begun
    rw [← lasting] at begun
    have connected := seeking.connect later played performed begun
    rw [dueTimes, due, delay, later.worker] at connected
    exact connected

/-- The second epoch begins after two refusals, and a reconnect signal of the first is still in the
slot when the supervisor begins to dial. -/
theorem redials_on_schedule_in_second_epoch :
    let start := fresh .publish 2000
      { Broker.initial with refusedChannels := [some Broker.channelRefused] } 1 fun _ => ""
    let main := Act.task .first .main
    let pass millis := Act.world (.pass millis)
    let refused := Broker.connectionRefused
    let before := [.connect, main, main, pass 70, .world .drop, .task .first .watcher, main, main,
      main, .world (.plan [] [some refused, some refused] [] none true)]
    let acts := [main, main, main, pass 500, pass 1500, main, main, main, pass 2000, main, main]
    ∃ r s t u, play performAnew before start = some r ∧ performAnew main r = some s ∧
      play performAnew acts s = some t ∧ performAnew main t = some u ∧
      s.stage.control.slot = some .reconnect ∧ s.stage.now = 70 ∧
      dialTimes (acts ++ [main]) s = [70, 2070, 4070] ∧ u.epochs = 2 ∧ u.stage.now = 4070 := by
  intro start main pass refused before acts
  have ran : ((play performAnew before start).bind fun r => (performAnew main r).bind fun s =>
      (play performAnew acts s).bind fun t => (performAnew main t).map fun u =>
        decide (r.phase.isSeeking = false ∧ s.phase.isSeeking = true ∧ Punctually acts s ∧
          t.shutdownRequested = false ∧ s.epochs = 1 ∧ t.epochs = 1 ∧ u.epochs = 2 ∧
          s.stage.broker.refusedDials = [some refused, some refused] ∧
          s.stage.control.slot = some .reconnect ∧ s.stage.now = 70)) = some true := by
    decide +kernel
  obtain ⟨r, reached, ran⟩ := Option.bind_eq_some_iff.mp ran
  obtain ⟨s, began, ran⟩ := Option.bind_eq_some_iff.mp ran
  obtain ⟨t, played, ran⟩ := Option.bind_eq_some_iff.mp ran
  obtain ⟨u, connected, same⟩ := Option.map_eq_some_iff.mp ran
  obtain ⟨elsewhere, seeks, punctual, unclosed, first, lasts, second, plan, stale, now⟩ :=
    of_decide_eq_true same
  obtain ⟨failed, _, _, _, _, _, last⟩ := redials_on_schedule reached began elsewhere seeks played
    punctual unclosed (lasts.trans first.symm)
  obtain ⟨_, _, _, time, dials, _, all⟩ := last main u connected (by omega)
  have refuses : s.stage.broker.Refuses [refused, refused] :=
    ⟨[], plan, fun e same => nomatch same⟩
  rw [all _ refuses (by decide), now] at time dials
  exact ⟨r, s, t, u, reached, began, played, connected, stale, now,
    dials.trans (by decide), second, time.trans (by decide)⟩

end ExchangeTap.Supervised
