import ExchangeTap.Proofs.Supervision.Winding
import ExchangeTap.Session.Receiving

/-! When the consumption has ended nobody reads the output any more, so no worker is held up by it;
the supervisors are closed one after another, and whatever the first of those that are left is at,
it ends, while the others go on. -/

namespace ExchangeTap

/-- How far a session has come with a member. -/
inductive Part where
  | running
  | asked (closer : Nat)
  | gone

def ReceivingPhase.part (index : Nat) : ReceivingPhase → Part
  | consuming => .running
  | closing next => if index < next then .gone else .running
  | awaiting current closer =>
    if index < current then .gone else if index = current then .asked closer else .running
  | finished => .gone

namespace Supervised

variable {s t : Supervised} {part : Part} {output : Pipe (Envelope Received)} {now : Nat} {pick : Pick}
  {task : Task}

/-- The task was given up before there was a connection. -/
structure Abandoned (s : Supervised) : Prop where
  phase : s.phase = .ended
  unwatched : s.watching = false
  uncalled : s.closers = []
  unmade : .dialSucceeded ∉ s.stage.journal

def Plays (s : Supervised) : Part → Prop
  | .running => s.Managed ∧ s.closers = []
  | .asked closer =>
    s.Managed ∧ s.shutdownRequested = true ∧ ∃ call, s.closers[closer]? = some call ∧
      ((∃ result, call = .finished result) → s.phase.isEnded = true)
  | .gone => s.Managed ∧ s.phase.isEnded = true ∨ s.Abandoned

private theorem ended_of_move {act : Act} (phased : s.Phased) (ended : s.phase.isEnded = true)
    (move : Move s act t) : t.phase.isEnded = true := by
  rw [← phased.concluded] at ended
  obtain ⟨outcome, concluded⟩ := Option.isSome_iff_exists.mp ended
  rw [← (phased.move move).concluded, outcome_move phased move concluded]
  rfl

theorem Abandoned.still (abandoned : s.Abandoned) :
    (s.place output now).step pick task = none := by
  obtain ⟨phase, unwatched, uncalled, _⟩ := abandoned
  cases task with
  | main => simp [step, mainStep, place, phase]
  | merge => simp [step, mergeStep, place, phase]
  | watcher => simp [step, watcherStep, place, unwatched]
  | closer index => simp [step, closerStep, place, uncalled]

theorem Plays.managed (plays : s.Plays part)
    (stepped : (s.place output now).step pick task = some t) : s.Managed := by
  cases part with
  | running | asked => exact plays.1
  | gone =>
      refine plays.elim And.left fun abandoned => ?_
      cases abandoned.still.symm.trans stepped

theorem Plays.receiving (plays : s.Plays part)
    (stepped : (s.place output now).step pick task = some t) :
    t.stage.output.receiving = output.receiving := by
  have placed := (plays.managed stepped).place output now
  exact receiving_of_step placed.sound.guarded placed.attentive stepped

theorem Plays.step (plays : s.Plays part)
    (stepped : (s.place output now).step pick task = some t) : t.Plays part := by
  have placed := (plays.managed stepped).place output now
  have performed : perform (.task pick task) (s.place output now) = some t := stepped
  have managed := placed.perform performed
  have move := move_of_perform placed.sound.guarded performed
  have ended (ended : s.phase.isEnded = true) : t.phase.isEnded = true :=
    ended_of_move placed.sound.phased ended move
  cases part with
  | running => exact ⟨managed, closers_of_step placed.sound.guarded plays.2 stepped⟩
  | asked closer =>
      obtain ⟨_, requested, call, found, answers⟩ := plays
      refine ⟨managed, (placed.sound.winds requested move).requested, ?_⟩
      -- the call stands still, or goes on; it is answered only when there is an outcome
      rcases closer_move move found with ⟨same, _⟩ | ⟨next, moved, goes⟩
      · exact ⟨call, same, fun answered => ended (answers answered)⟩
      · refine ⟨next, moved, fun answered => ?_⟩
        cases goes with
        | waits =>
            obtain ⟨_, same⟩ := answered
            cases same
        | finishes concluded =>
            refine ended ?_
            have same := placed.sound.phased.concluded
            rw [concluded] at same
            exact same.symm
  | gone =>
      refine plays.elim (fun plays => .inl ⟨managed, ended plays.2⟩) fun abandoned => ?_
      cases abandoned.still.symm.trans stepped

theorem Plays.undergo (plays : s.Plays part) (change : World) :
    Plays { s with stage := s.stage.undergo change } part := by
  have performed : perform (.world change) s =
      some { s with stage := s.stage.undergo change } := rfl
  have managed := fun managed : s.Managed => managed.perform performed
  cases part with
  | running | asked => exact plays.imp_left managed
  | gone =>
      refine plays.imp (And.imp_left managed) fun abandoned => ?_
      refine ⟨abandoned.phase, abandoned.unwatched, abandoned.uncalled, ?_⟩
      rw [Stage.undergo_journal]
      exact abandoned.unmade

theorem Plays.request (plays : s.Plays .running) (connected : s.everConnected = true)
    (pick : Pick) : (s.requestClose pick).Plays (.asked s.closers.length) := by
  have call := call_requestClose pick s
  have performed : perform (.close pick) s = some (s.requestClose pick) := rfl
  obtain ⟨closer, found, either⟩ := closer_of_call connected call
  refine ⟨plays.1.perform performed, (winds_of_call connected call).requested,
    closer, found, ?_⟩
  rintro ⟨result, rfl⟩
  rcases either with same | same <;> cases same

theorem Plays.abort (plays : s.Plays .running) (unconnected : s.everConnected = false) :
    s.abort.Plays .gone := by
  obtain ⟨managed, uncalled⟩ := plays
  obtain ⟨_, phased, _, recorded⟩ := managed.sound
  refine .inr ⟨rfl, phased.unwatched ?_, uncalled, fun made => ?_⟩
  · cases watched : s.phase.isWatched with
    | false => rfl
    | true =>
        have attached : s.phase.isConnected = true := by
          cases phase : s.phase <;> rw [phase] at watched <;> first | rfl | cases watched
        cases unconnected.symm.trans (phased.attached attached)
  · cases unconnected.symm.trans (recorded.known.mpr made)

theorem Plays.answered {closer : Nat} {result : Except TapError Unit}
    (plays : s.Plays (.asked closer)) (finished : s.closers[closer]? = some (.finished result)) :
    s.Plays .gone := by
  obtain ⟨managed, _, call, found, ended⟩ := plays
  cases finished.symm.trans found
  exact .inl ⟨managed, ended ⟨result, rfl⟩⟩

theorem Plays.answered_of_settled {closer : Nat} (plays : s.Plays (.asked closer))
    (closed : output.receiving = false) (settled : (s.place output now).advance = none) :
    ∃ result, s.closers[closer]? = some (.finished result) := by
  obtain ⟨managed, requested, call, found, _⟩ := plays
  obtain ⟨result, rfl⟩ :=
    (managed.place output now).answered_of_settled requested closed settled found
  exact ⟨result, found⟩

theorem Plays.closed (plays : s.Plays .gone) (made : .dialSucceeded ∈ s.stage.journal) :
    s.phase.isEnded = true ∧ s.connected = false ∧
      s.stage.account.ended = s.stage.account.begun ∧
      s.stage.account.closed = s.stage.account.dialed := by
  rcases plays with ⟨managed, ended⟩ | abandoned
  · obtain ⟨connected, _, closed, returned⟩ := managed.accounted
    have detached : s.phase.isConnected = false := by
      refine Bool.eq_false_iff.mpr fun attached => ?_
      cases (SupervisorPhase.isEnded_of_attached attached).symm.trans ended
    rw [SupervisorPhase.isWorking_of_detached detached] at returned
    rw [detached] at connected closed
    exact ⟨ended, connected, returned.symm, closed.symm⟩
  · exact absurd made abandoned.unmade

end Supervised

private theorem Printer.consume_concat {p q : Printer} {taken : List (Envelope Received)}
    (accepted : p.consume taken = (.ok (), q)) (envelope : Envelope Received) :
    p.consume (taken ++ [envelope]) = q.accept envelope := by
  induction taken generalizing p with
  | nil =>
      cases accepted
      simp only [List.nil_append, consume]
      split <;> rename_i next <;> rw [next]
  | cons first rest ih =>
      simp only [consume, List.cons_append] at accepted ⊢
      split at accepted
      · exact ih accepted
      · cases accepted

namespace ReceivingSession

inductive Act where
  | own (pick : Pick)
  | member (pick : Pick) (index : Nat) (task : Task)
  | interrupt
  | broker (index : Nat) (change : World)
  | pass (millis : Nat)

def perform : Act → ReceivingSession → Option ReceivingSession
  | .own pick, s => s.ownStep pick
  | .member pick index task, s => s.memberStep pick index task
  | .interrupt, s => some s.interrupt
  | .broker index change, s => do
    let member ← s.members[index]?
    guard change.isOutside
    let member := { member with stage := member.stage.undergo change }
    return { s with members := s.members.set index member }
  | .pass millis, s => some { s with now := s.now + millis }

def taking (s : ReceivingSession) : Act → List (Envelope Received)
  | .own _ =>
    match s.phase, s.received with
    | .consuming, (.ready (some envelope), _) => [envelope]
    | _, _ => []
  | _ => []

def Parts (members : List Supervised) (part : Nat → Part) : Prop :=
  ∀ (index : Nat) (member : Supervised), members[index]? = some member →
    member.Plays (part index)

theorem Parts.set {members : List Supervised} {member : Supervised} {before after : Nat → Part}
    {index : Nat} (parts : Parts members before) (plays : member.Plays (after index))
    (others : ∀ other, other ≠ index → after other = before other) :
    Parts (members.set index member) after := by
  intro other standing found
  by_cases same : other = index
  · subst same
    obtain ⟨inside, _⟩ := List.getElem?_eq_some_iff.mp found
    rw [List.length_set] at inside
    cases (List.getElem?_set_self inside).symm.trans found
    exact plays
  · rw [List.getElem?_set_ne (Ne.symm same)] at found
    rw [others other same]
    exact parts other standing found

theorem Parts.keep {members : List Supervised} {member : Supervised} {part : Nat → Part}
    {index : Nat} (parts : Parts members part) (plays : member.Plays (part index)) :
    Parts (members.set index member) part :=
  parts.set plays fun _ _ => rfl

variable {s t : ReceivingSession} {printer : Printer} {taken : List (Envelope Received)}

private theorem member_of_step {pick : Pick} {index : Nat} {task : Task}
    (stepped : s.memberStep pick index task = some t) :
    ∃ member next, s.members[index]? = some member ∧
      (member.place s.output s.now).step pick task = some next ∧
      t = { s with members := s.members.set index next, output := next.stage.output } := by
  obtain ⟨member, found, placed⟩ := Option.bind_eq_some_iff.mp stepped
  obtain ⟨next, performed, same⟩ := Option.bind_eq_some_iff.mp placed
  cases same
  exact ⟨member, next, found, performed, rfl⟩

/-- What is known of a session and of what it has taken from its output. -/
structure Orderly (printer : Printer) (taken : List (Envelope Received)) (s : ReceivingSession) :
    Prop where
  parts : Parts s.members (s.phase.part ·)
  present : ∀ index closer, s.phase = .awaiting index closer → index < s.members.length
  closed : s.phase ≠ .consuming → s.output.receiving = false
  accepted : s.phase = .consuming → printer.consume taken = (.ok (), s.printer)
  result : s.phase ≠ .consuming → s.result = some (printer.consume taken).1

theorem Orderly.member {pick : Pick} {index : Nat} {task : Task}
    (orderly : s.Orderly printer taken) (stepped : s.memberStep pick index task = some t) :
    t.Orderly printer taken := by
  obtain ⟨parts, present, closed, accepted, result⟩ := orderly
  obtain ⟨member, next, found, performed, rfl⟩ := member_of_step stepped
  have plays := parts index member found
  refine ⟨parts.keep (plays.step performed), ?_, ?_, accepted, result⟩
  · intro index closer phase
    rw [List.length_set]
    exact present index closer phase
  · intro concluded
    rw [plays.receiving performed]
    exact closed concluded

theorem Orderly.broker {index : Nat} {change : World} (orderly : s.Orderly printer taken)
    (performed : perform (.broker index change) s = some t) : t.Orderly printer taken := by
  obtain ⟨parts, present, closed, accepted, result⟩ := orderly
  obtain ⟨member, found, guarded⟩ := Option.bind_eq_some_iff.mp performed
  obtain ⟨_, _, same⟩ := Option.bind_eq_some_iff.mp guarded
  cases same
  refine ⟨parts.keep ((parts index member found).undergo change), ?_, closed, accepted, result⟩
  intro index closer phase
  rw [List.length_set]
  exact present index closer phase

private theorem orderly_conclude {result : Except ConsumptionError Unit}
    (parts : Parts s.members fun _ => .running) (ended : (printer.consume taken).1 = result) :
    (s.conclude result).Orderly printer taken :=
  ⟨parts, nofun, fun _ => rfl, nofun, fun _ => congrArg some ended.symm⟩

theorem Orderly.running (orderly : s.Orderly printer taken) (phase : s.phase = .consuming) :
    Parts s.members fun _ => .running := by
  have parts := orderly.parts
  rw [phase] at parts
  exact parts

theorem Orderly.interrupt (orderly : s.Orderly printer taken) :
    s.interrupt.Orderly printer taken := by
  unfold ReceivingSession.interrupt
  cases phase : s.phase with
  | consuming =>
      refine orderly_conclude (orderly.running phase) ?_
      rw [orderly.accepted phase]
  | closing | awaiting | finished => exact orderly

private theorem taking_of_received {pick : Pick} {envelope : Envelope Received}
    {output : Pipe (Envelope Received)} (phase : s.phase = .consuming)
    (received : s.received = (.ready (some envelope), output)) :
    s.taking (.own pick) = [envelope] := by
  simp only [taking, phase, received]

private theorem taking_of_ended {pick : Pick} {output : Pipe (Envelope Received)}
    (phase : s.phase = .consuming) (received : s.received = (.ready none, output)) :
    s.taking (.own pick) = [] := by
  simp only [taking, phase, received]

private theorem taking_of_concluded {act : Act} (concluded : s.phase ≠ .consuming) : s.taking act = [] := by
  cases act with
  | own pick =>
      simp only [taking]
      split
      · exact absurd ‹_› concluded
      · rfl
  | _ => rfl

theorem Orderly.consume {pick : Pick} (orderly : s.Orderly printer taken)
    (phase : s.phase = .consuming) (stepped : s.consumeStep = some t) :
    t.Orderly printer (taken ++ s.taking (.own pick)) := by
  have accepted := orderly.accepted phase
  unfold consumeStep at stepped
  split at stepped
  · cases stepped
  · rename_i received
    cases stepped
    rw [taking_of_ended phase received, List.append_nil]
    refine orderly_conclude (orderly.running phase) ?_
    rw [accepted]
  · rename_i envelope output received
    rw [taking_of_received phase received]
    have next := Printer.consume_concat accepted envelope
    dsimp only at stepped
    split at stepped <;> rename_i printed <;> cases stepped
    · refine ⟨orderly.parts, orderly.present, fun concluded => absurd phase concluded, fun _ => ?_,
        fun concluded => absurd phase concluded⟩
      rw [next]
      exact printed
    · refine orderly_conclude (orderly.running phase) ?_
      rw [next]
      exact congrArg Prod.fst printed

theorem Orderly.advance {members : List Supervised} {phase : ReceivingPhase}
    (orderly : s.Orderly printer taken) (concluded : s.phase ≠ .consuming)
    (later : phase ≠ .consuming) (parts : Parts members (phase.part ·))
    (present : ∀ index closer, phase = .awaiting index closer → index < members.length) :
    Orderly printer taken { s with members := members, phase := phase } :=
  ⟨parts, present, fun _ => orderly.closed concluded, fun consuming => absurd consuming later,
    fun _ => orderly.result concluded⟩

theorem Orderly.finish {index : Nat} (orderly : s.Orderly printer taken)
    (phase : s.phase = .closing index) (missing : s.members[index]? = none) :
    Orderly printer taken { s with phase := .finished } := by
  refine orderly.advance (by simp [phase]) nofun (fun other member found => ?_) nofun
  -- there are no members from this index on
  have inside := (List.getElem?_eq_some_iff.mp found).1
  have before : other < index :=
    Nat.lt_of_lt_of_le inside (List.getElem?_eq_none_iff.mp missing)
  have plays := orderly.parts other member found
  simp only [phase, ReceivingPhase.part, before, if_true] at plays
  exact plays

theorem Orderly.next {index : Nat} {member : Supervised} (orderly : s.Orderly printer taken)
    (phase : s.phase = .closing index) (found : s.members[index]? = some member) :
    member.Plays .running := by
  have plays := orderly.parts index member found
  simp only [phase, ReceivingPhase.part, Nat.lt_irrefl, if_false] at plays
  exact plays

theorem Orderly.request {pick : Pick} {index : Nat} {member : Supervised}
    (orderly : s.Orderly printer taken) (phase : s.phase = .closing index)
    (found : s.members[index]? = some member) (connected : member.everConnected = true) :
    Orderly printer taken { s with
      members := s.members.set index (member.requestClose pick)
      phase := .awaiting index member.closers.length } := by
  refine orderly.advance (by simp [phase]) nofun (orderly.parts.set ?_ ?_) ?_
  · simp only [ReceivingPhase.part, Nat.lt_irrefl, if_false, if_true]
    exact (orderly.next phase found).request connected pick
  · intro other distinct
    simp only [phase, ReceivingPhase.part, distinct, if_false]
  · rintro _ _ ⟨⟩
    rw [List.length_set]
    exact (List.getElem?_eq_some_iff.mp found).1

theorem Orderly.abort {index : Nat} {member : Supervised} (orderly : s.Orderly printer taken)
    (phase : s.phase = .closing index) (found : s.members[index]? = some member)
    (unconnected : member.everConnected = false) :
    Orderly printer taken { s with
      members := s.members.set index member.abort, phase := .closing (index + 1) } := by
  refine orderly.advance (by simp [phase]) nofun (orderly.parts.set ?_ ?_) nofun
  · simp only [ReceivingPhase.part, Nat.lt_succ_self, if_true]
    exact (orderly.next phase found).abort unconnected
  · intro other distinct
    have same : other < index + 1 ↔ other < index := by omega
    simp only [phase, ReceivingPhase.part, same]

theorem Orderly.answer {index closer : Nat} {member : Supervised}
    {answer : Except TapError Unit} (orderly : s.Orderly printer taken)
    (phase : s.phase = .awaiting index closer) (found : s.members[index]? = some member)
    (finished : member.closers[closer]? = some (.finished answer)) :
    Orderly printer taken { s with phase := .closing (index + 1) } := by
  refine orderly.advance (by simp [phase]) nofun (fun other standing here => ?_) nofun
  have plays := orderly.parts other standing here
  by_cases same : other = index
  · subst same
    cases found.symm.trans here
    simp only [phase, ReceivingPhase.part, Nat.lt_irrefl, if_false, if_true] at plays
    simp only [ReceivingPhase.part, Nat.lt_succ_self, if_true]
    exact plays.answered finished
  · have before : other < index + 1 ↔ other < index := by omega
    simp only [phase, ReceivingPhase.part, same, if_false] at plays
    simp only [ReceivingPhase.part, before]
    exact plays

theorem Orderly.own {pick : Pick} (orderly : s.Orderly printer taken)
    (stepped : s.ownStep pick = some t) :
    t.Orderly printer (taken ++ s.taking (.own pick)) := by
  unfold ownStep at stepped
  cases phase : s.phase with
  | consuming =>
      rw [phase] at stepped
      exact orderly.consume phase stepped
  | closing index =>
      rw [taking_of_concluded (by simp [phase]), List.append_nil]
      rw [phase] at stepped
      dsimp only at stepped
      split at stepped <;> rename_i found
      · cases stepped
        exact orderly.finish phase found
      · split at stepped <;> rename_i connected <;> cases stepped
        · exact orderly.request phase found connected
        · exact orderly.abort phase found (Bool.eq_false_iff.mpr connected)
  | awaiting index closer =>
      rw [taking_of_concluded (by simp [phase]), List.append_nil]
      rw [phase] at stepped
      dsimp only at stepped
      split at stepped
      · rename_i answered
        obtain ⟨member, found, finished⟩ := Option.bind_eq_some_iff.mp answered
        cases stepped
        exact orderly.answer phase found finished
      · cases stepped
  | finished =>
      rw [phase] at stepped
      cases stepped

theorem Orderly.perform {act : Act} (orderly : s.Orderly printer taken)
    (performed : perform act s = some t) : t.Orderly printer (taken ++ s.taking act) := by
  cases act with
  | own pick => exact orderly.own performed
  | member pick index task =>
      simp only [taking, List.append_nil]
      exact orderly.member performed
  | interrupt =>
      simp only [taking, List.append_nil]
      cases performed
      exact orderly.interrupt
  | broker index change =>
      simp only [taking, List.append_nil]
      exact orderly.broker performed
  | pass millis =>
      simp only [taking, List.append_nil]
      cases performed
      exact ⟨orderly.parts, orderly.present, orderly.closed, orderly.accepted, orderly.result⟩

private theorem member_settled {index : Nat} {member : Supervised} (settled : s.advance = none)
    (found : s.members[index]? = some member) :
    (member.place s.output s.now).advance = none := by
  have members := List.findSome?_eq_none_iff.mp (Option.or_eq_none_iff.mp settled).2
  have tasks := members (member, index) (List.mk_mem_zipIdx_iff_getElem?.mpr found)
  refine List.findSome?_eq_none_iff.mpr fun task among => ?_
  have still : s.memberStep .first index task = none :=
    List.findSome?_eq_none_iff.mp tasks task among
  cases stepped : (member.place s.output s.now).step .first task with
  | none => rfl
  | some next =>
      have moves : s.memberStep .first index task =
          some { s with members := s.members.set index next, output := next.stage.output } := by
        simp only [memberStep, found]
        exact congrArg (Option.bind · _) stepped
      cases still.symm.trans moves

theorem Orderly.resting (orderly : s.Orderly printer taken) (settled : s.advance = none) :
    s.phase = .consuming ∨ s.phase = .finished := by
  have own := (Option.or_eq_none_iff.mp settled).1
  unfold ownStep at own
  cases phase : s.phase with
  | consuming => exact .inl rfl
  | finished => exact .inr rfl
  | closing index =>
      rw [phase] at own
      dsimp only at own
      split at own
      · cases own
      · split at own <;> cases own
  | awaiting index closer =>
      have inside := orderly.present index closer phase
      have found : s.members[index]? = some s.members[index] := List.getElem?_eq_getElem inside
      have plays := orderly.parts index _ found
      simp only [phase, ReceivingPhase.part, Nat.lt_irrefl, if_false, if_true] at plays
      have closed := orderly.closed (by simp [phase])
      obtain ⟨result, finished⟩ :=
        plays.answered_of_settled closed (member_settled settled found)
      rw [phase] at own
      simp [found, finished] at own

end ReceivingSession

/-- A session, with the envelopes that were taken out of its output. -/
structure Reception where
  session : ReceivingSession
  taken : List (Envelope Received)

namespace Reception

def start (settings : Settings) (sources : List (Worker × Broker × (Nat → String)))
    (printer : Printer) : Reception :=
  ⟨.start settings (sources.map fun (worker, broker, suffix) =>
    (worker, .initial broker settings.outputBuffer suffix)) printer, []⟩

def perform (act : ReceivingSession.Act) (r : Reception) : Option Reception :=
  (r.session.perform act).map fun session => ⟨session, r.taken ++ r.session.taking act⟩

variable {r : Reception} {settings : Settings} {printer : Printer}
  {sources : List (Worker × Broker × (Nat → String))} {acts : List ReceivingSession.Act}

theorem orderly_start (unscripted : ∀ source ∈ sources, source.1.isScript = false) :
    (start settings sources printer).session.Orderly printer [] := by
  refine ⟨fun index member found => ?_, nofun, fun concluded => absurd rfl concluded, fun _ => rfl,
    fun concluded => absurd rfl concluded⟩
  have among := List.mem_of_getElem? found
  simp only [start, ReceivingSession.start, List.map_map, List.mem_map] at among
  obtain ⟨⟨worker, broker, suffix⟩, source, rfl⟩ := among
  exact ⟨Supervised.managed_connect (unscripted _ source) _ _ _ _, rfl⟩

private theorem orderly_of_reached (unscripted : ∀ source ∈ sources, source.1.isScript = false)
    (reached : play perform acts (start settings sources printer) = some r) :
    r.session.Orderly printer r.taken := by
  refine play_preserves (P := fun r => r.session.Orderly printer r.taken) ?_
    (orderly_start unscripted) reached
  intro act r next orderly performed
  obtain ⟨session, moved, rfl⟩ := Option.map_eq_some_iff.mp performed
  exact orderly.perform moved

/-- A session does not come to rest while it closes its supervisors, whatever they are at. Once it is
over, it returns what the consumption did, and of every connection that was made the worker has
returned and the connection was closed. -/
theorem shutdown_completes (unscripted : ∀ source ∈ sources, source.1.isScript = false)
    (reached : play perform acts (start settings sources printer) = some r) :
    (r.session.advance = none → r.session.phase = .consuming ∨ r.session.phase = .finished) ∧
    (r.session.phase = .finished →
      r.session.result = some (printer.consume r.taken).1 ∧
      ∀ member ∈ r.session.members, .dialSucceeded ∈ member.stage.journal →
        member.phase.isEnded = true ∧ member.connected = false ∧
        member.stage.account.ended = member.stage.account.begun ∧
        member.stage.account.closed = member.stage.account.dialed) := by
  have orderly := orderly_of_reached unscripted reached
  refine ⟨orderly.resting, fun finished => ⟨?_, fun member among made => ?_⟩⟩
  · exact orderly.result (by simp [finished])
  · obtain ⟨index, found⟩ := List.getElem?_of_mem among
    have plays := orderly.parts index member found
    rw [finished] at plays
    exact Supervised.Plays.closed plays made

/-- There is room for one envelope. One worker is held up by the output and has read one delivery more;
the other has never been connected, and waits to dial again. -/
theorem shutdown_completes_past_full_output :
    let refusing := { Broker.initial with refusedDials := [some Broker.connectionRefused] }
    let sources : List (Worker × Broker × (Nat → String)) :=
      [(.subscribe "busy", .initial, fun _ => ""), (.subscribe "away", refusing, fun _ => "")]
    let settings := { Settings.default with outputBuffer := 1 }
    let printer : Printer := ⟨.plain, [], none⟩
    let deliver := fun tag => ReceivingSession.Act.broker 0
      (.deliver (fun _ => true) (.ok { (default : Delivery) with tag }))
    let own := ReceivingSession.Act.own .first
    let step := ReceivingSession.Act.member .first 0
    let main := step .main
    let merge := step .merge
    let other := ReceivingSession.Act.member .first 1 .main
    let acts := .replicate 4 main ++ [merge, other, other, deliver 1, deliver 2, deliver 3] ++
      [merge, merge, main, main, own, merge, merge, main, main, merge, merge, main] ++
      [.interrupt, own, main, merge, main, main, step .watcher, main, main, step (.closer 0)] ++
      .replicate 3 own
    (∀ source ∈ sources, source.1.isScript = false) ∧
    ∃ r, play perform acts (start settings sources printer) = some r ∧
      r.session.phase = .finished ∧ r.taken.length = 1 ∧
      r.session.members.map (·.epochs) = [1, 0] ∧
      r.session.result = some (printer.consume r.taken).1 ∧
      ∀ member ∈ r.session.members, .dialSucceeded ∈ member.stage.journal →
        member.phase.isEnded = true ∧ member.connected = false ∧
        member.stage.account.ended = member.stage.account.begun ∧
        member.stage.account.closed = member.stage.account.dialed := by
  intro refusing sources settings printer deliver own step main merge other acts
  have unscripted : ∀ source ∈ sources, source.1.isScript = false := by
    simp [sources, Worker.isScript]
  have ran : (play perform acts (start settings sources printer)).map (fun r =>
      (r.session.phase, r.taken.length, r.session.members.map (·.epochs))) =
        some (.finished, 1, [1, 0]) := by
    decide +kernel
  obtain ⟨r, reached, same⟩ := Option.map_eq_some_iff.mp ran
  simp only [Prod.mk.injEq] at same
  obtain ⟨finished, taken, epochs⟩ := same
  obtain ⟨result, closed⟩ := (shutdown_completes unscripted reached).2 finished
  exact ⟨unscripted, r, reached, finished, taken, epochs, result, closed⟩

end Reception

end ExchangeTap
