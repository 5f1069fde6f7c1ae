import ExchangeTap.Proofs.Worker.Attendance

namespace ExchangeTap

namespace Event

def declared? : Event → Option String
  | executed _ op _ => op.declared?
  | _ => none

private theorem declared?_of_not_onChannel {e : Event} (other : e.isOnChannel = false) :
    e.declared? = none := by
  cases e <;> first | rfl | cases other

end Event

namespace Journal

/-- The exchanges and queues whose creation was asked for, in order, whatever the answers. -/
def declared (journal : Journal) : List String :=
  (journal.filterMap Event.declared?).reverse

@[simp] private theorem declared_cons (e : Event) (journal : Journal) :
    declared (e :: journal) = declared journal ++ e.declared?.toList := by
  cases declared : e.declared? <;> simp [Journal.declared, declared]

@[simp] private theorem declared_append (events journal : Journal) :
    declared (events ++ journal) = declared journal ++ declared events := by
  simp [declared]

end Journal

namespace Stage

/-- The suffixes that were used from one stage to a later one. -/
def drawn (before after : Stage) : List String :=
  (List.range' before.suffixesUsed (after.suffixesUsed - before.suffixesUsed)).map before.suffix

variable {base s t : Stage} {pending less : List String}

private theorem drawn_sublist (used : s.suffixesUsed ≤ t.suffixesUsed) :
    (base.drawn s).Sublist (base.drawn t) :=
  (List.range'_sublist_right.mpr (Nat.sub_le_sub_right used _)).map _

private theorem drawn_mint (suffix : s.suffix = base.suffix) (used : base.suffixesUsed ≤ s.suffixesUsed) :
    base.drawn s.mint.2 = base.drawn s ++ [s.mint.1] := by
  have more : s.suffixesUsed + 1 - base.suffixesUsed = s.suffixesUsed - base.suffixesUsed + 1 :=
    Nat.succ_sub used
  simp only [drawn, mint, more, List.range'_concat, List.map_append, List.map_singleton, Nat.one_mul,
    Nat.add_sub_cancel' used, suffix]

/-- What was declared since a stage, with what is still to be declared, are names of taps, and the suffixes of
these were used since then, each for one of them. -/
structure Names (base : Stage) (pending : List String) (s : Stage) : Prop where
  suffix : s.suffix = base.suffix
  used : base.suffixesUsed ≤ s.suffixesUsed
  named : ∃ (plans : List TapPlan) (events : Journal), s.journal = events ++ base.journal ∧
    (plans.map (·.suffix)).Sublist (base.drawn s) ∧
    (Journal.declared events ++ pending).Sublist (plans.flatMap TapPlan.names)

private theorem names_self (base : Stage) : base.Names [] base :=
  ⟨rfl, Nat.le_refl _, [], [], rfl, List.nil_sublist _, List.nil_sublist _⟩

theorem Names.fewer (names : base.Names pending s) (fewer : less.Sublist pending) :
    base.Names less s := by
  obtain ⟨plans, events, journal, drawn, declared⟩ := names.named
  exact ⟨names.suffix, names.used, plans, events, journal, drawn,
    (fewer.append_left _).trans declared⟩

theorem Names.tells (names : base.Names pending s) (tells : s.Tells (·.declared? = none) t)
    (suffix : t.suffix = s.suffix) (used : s.suffixesUsed ≤ t.suffixesUsed) :
    base.Names pending t := by
  obtain ⟨plans, events, journal, drawn, declared⟩ := names.named
  obtain ⟨more, further, nothing⟩ := tells
  refine ⟨suffix.trans names.suffix, Nat.le_trans names.used used, plans, more ++ events, ?_,
    drawn.trans (drawn_sublist used), ?_⟩
  · rw [further, journal, List.append_assoc]
  · have none : Journal.declared more = [] :=
      List.reverse_eq_nil_iff.mpr (List.filterMap_eq_nil_iff.mpr nothing)
    rw [Journal.declared_append, none, List.append_nil]
    exact declared

theorem Names.aloof (names : base.Names pending s) (aloof : s.Aloof t) : base.Names pending t :=
  names.tells (aloof.tells.mono fun _ => Event.declared?_of_not_onChannel) aloof.suffix aloof.used

theorem Names.log (names : base.Names pending s) (entry : LogEntry) :
    base.Names pending (s.log entry) :=
  names.aloof (steady_log s entry).toAloof

theorem Names.opened {result : Except BrokerError Channel} (names : base.Names pending s)
    (opened : s.openChannel = (result, t)) : base.Names pending t := by
  have tells : s.Tells (·.declared? = none) t :=
    tells_openChannel (fun _ => rfl) (fun _ => rfl) opened
  unfold openChannel at opened
  split at opened <;> cases opened <;> exact names.tells tells rfl (Nat.le_refl _)

theorem Names.executed {channel after : Channel} {op : Operation} {result : Except BrokerError Unit}
    (names : base.Names (op.declared?.toList ++ pending) s)
    (executed : s.execute channel op = (result, after, t)) : base.Names pending t := by
  unfold execute at executed
  split at executed <;> cases executed
  · exact (names.fewer (List.sublist_append_right _ _)).tells (tells_record s rfl) rfl (Nat.le_refl _)
  · obtain ⟨plans, events, journal, drawn, declared⟩ := names.named
    refine ⟨names.suffix, names.used, plans, _ :: events, congrArg (List.cons _) journal, drawn, ?_⟩
    rw [Journal.declared_cons, List.append_assoc]
    exact declared

theorem Names.mint (names : base.Names [] s) (binding : Binding) :
    base.Names (TapPlan.names ⟨binding, s.mint.1⟩) s.mint.2 := by
  obtain ⟨plans, events, journal, drawn, declared⟩ := names.named
  refine ⟨names.suffix, Nat.le_trans names.used (Nat.le_succ _), plans ++ [⟨binding, s.mint.1⟩], events,
    journal, ?_, ?_⟩
  · rw [drawn_mint names.suffix names.used, List.map_append]
    exact drawn.append (.refl _)
  · rw [List.append_nil] at declared
    rw [List.flatMap_append, List.flatMap_singleton]
    exact declared.append (.refl _)

end Stage

namespace TapRun

def undeclared (run : TapRun) : List String :=
  match run.phase with
  | .creating _ _ lacking _ => lacking.filterMap (·.creation.declared?)
  | _ => []

variable {setupRetry : Nat} {pick : Pick} {run next : TapRun} {base s t : Stage}

private theorem undeclared_creating {plan : TapPlan} {channel : Channel} {lacking : List Resource}
    {left : List Binding} (phase : run.phase = .creating plan channel lacking left) :
    run.undeclared = lacking.filterMap (·.creation.declared?) := by
  rw [undeclared, phase]

private theorem declared?_removal (resource : Resource) : resource.removal.declared? = none := by
  cases resource <;> rfl

private theorem undeclared_demand (plan : TapPlan) (lacking : List Resource) :
    (plan.demand lacking).declared?.toList ++ lacking.tail.filterMap (·.creation.declared?) =
      lacking.filterMap (·.creation.declared?) := by
  cases lacking with
  | nil => rfl
  | cons resource lacking =>
      cases declared : resource.creation.declared? <;> simp [TapPlan.demand, declared]

private theorem names_demanded {plan : TapPlan} {channel after : Channel} {lacking : List Resource}
    {left : List Binding} {result : Except BrokerError Unit} (names : base.Names run.undeclared s)
    (phase : run.phase = .creating plan channel lacking left)
    (executed : s.execute channel (plan.demand lacking) = (result, after, t)) :
    base.Names (lacking.tail.filterMap (·.creation.declared?)) t := by
  rw [undeclared_creating phase, ← undeclared_demand plan lacking] at names
  exact names.executed executed

private theorem names_removed {channel after : Option Channel} {resource : Resource}
    {result : Except BrokerError Unit} (names : base.Names [] s)
    (removed : remove s channel resource = (result, after, t)) : base.Names [] t := by
  rcases remove_cases removed with ⟨e, _, refused, _⟩ | ⟨c, _, u, tried, executed, _⟩
  · exact names.opened refused
  · have ready : base.Names [] u := by
      rcases tried with ⟨_, rfl⟩ | ⟨_, opened⟩
      · exact names
      · exact names.opened opened
    have nothing : resource.removal.declared?.toList ++ [] = [] := by rw [declared?_removal]; rfl
    rw [← nothing] at ready
    exact ready.executed executed

private theorem names_step (names : base.Names run.undeclared s)
    (stepped : run.step setupRetry pick s = some (next, t)) : base.Names next.undeclared t := by
  -- in most phases nothing is left to declare
  have settled : base.Names [] s := names.fewer (List.nil_sublist _)
  cases step_of_step stepped with
  | establishes => exact settled.log _
  | opens phase opened => exact (settled.opened opened).mint _
  | creates phase executed => exact names_demanded names phase executed
  | consumes phase executed => exact (names_demanded names phase executed).log _
  | findsNoChannel phase refused => exact (settled.opened refused).log _
  | isRefused phase executed =>
      exact ((names_demanded names phase executed).fewer (List.nil_sublist _)).log _
  | reports phase handed =>
      rcases handed with handed | ⟨_, rfl⟩
      · exact settled.aloof (Stage.steady_hand handed).toAloof
      · exact settled
  | forwards phase fanIn forwarded | leaves phase fanIn forwarded =>
      exact settled.aloof (Forward.steady_step forwarded).toAloof
  | removes phase removed | retries phase removed | givesUp phase removed =>
      exact (names_removed settled removed).log _
  | departs phase departed =>
      rename_i departure
      cases departure <;> cases departed
      · exact settled.aloof (Stage.aloof_stopReadings s run.consumers)
      · exact settled
  | waits phase steady => exact names.aloof steady.toAloof
  | resumes phase steady => exact settled.aloof steady.toAloof
  | stops => exact settled

end TapRun

namespace Career

variable {c next : Career} {base : Stage} {turns : List Turn}

/-- A tapping worker gives names, in its epochs and between them. -/
structure Naming (base : Stage) (c : Career) : Prop where
  tap : ∃ bindings setupRetry, c.worker = .tap bindings setupRetry
  resting : c.run = none → base.Names [] c.stage
  running : ∀ run, c.run = some run →
    ∃ setupRetry tap, run = .tap setupRetry tap ∧ base.Names tap.undeclared c.stage

private theorem naming_resting {bindings : List Binding} {setupRetry : Nat}
    (tap : c.worker = .tap bindings setupRetry) (resting : c.run = none) : Naming c.stage c := by
  refine ⟨⟨_, _, tap⟩, fun _ => Stage.names_self _, fun run present => ?_⟩
  cases resting.symm.trans present

theorem Naming.goOn {setupRetry epochs : Nat} {run : TapRun} {stage : Stage} (naming : Naming base c)
    (names : base.Names run.undeclared stage) :
    Naming base ⟨c.worker, some (.tap setupRetry run), epochs, stage⟩ := by
  refine ⟨naming.tap, fun resting => (nomatch resting), ?_⟩
  rintro _ ⟨⟩
  exact ⟨setupRetry, run, rfl, names⟩

theorem Naming.aloof {stage : Stage} (naming : Naming base c) (aloof : c.stage.Aloof stage) :
    Naming base { c with stage := stage } := by
  refine ⟨naming.tap, fun resting => (naming.resting resting).aloof aloof, fun run present => ?_⟩
  obtain ⟨setupRetry, tap, same, names⟩ := naming.running run present
  exact ⟨setupRetry, tap, same, names.aloof aloof⟩

theorem Naming.names (naming : Naming base c) : base.Names [] c.stage := by
  cases present : c.run with
  | none => exact naming.resting present
  | some run =>
      obtain ⟨_, _, _, names⟩ := naming.running run present
      exact names.fewer (List.nil_sublist _)

theorem Naming.take {turn : Turn} (naming : Naming base c) (taken : Career.take turn c = some next) :
    Naming base next := by
  have running : ∀ run, c.run = some run → ∃ setupRetry tap, run = .tap setupRetry tap := by
    intro run present
    obtain ⟨setupRetry, tap, same, _⟩ := naming.running run present
    exact ⟨setupRetry, tap, same⟩
  cases tapTurn_of_take naming.tap running taken with
  | begins resting => exact naming.goOn (naming.resting resting)
  | works present stepped =>
      obtain ⟨_, _, ⟨⟩, names⟩ := naming.running _ present
      exact naming.goOn (TapRun.names_step names stepped)
  | merges present merging advanced =>
      obtain ⟨_, _, ⟨⟩, names⟩ := naming.running _ present
      exact naming.goOn (names.aloof (FanIn.aloof_advance advanced))
  | ends present => exact ⟨naming.tap, fun _ => naming.names, fun _ => nofun⟩
  | hangsUp resting => exact naming.aloof ⟨rfl, rfl, rfl, Nat.le_refl _, Stage.tells_of_journal rfl⟩
  | stays steady => exact naming.aloof steady.toAloof

private theorem nodup_declared {bindings : List Binding} {setupRetry : Nat} {events : Journal}
    (tap : c.worker = .tap bindings setupRetry) (resting : c.run = none)
    (taken : play Career.take turns c = some next)
    (journal : next.stage.journal = events ++ c.stage.journal)
    (unlike : Tap.Unlike (c.stage.drawn next.stage)) : (Journal.declared events).Nodup := by
  have naming : Naming c.stage next := play_preserves (P := Naming c.stage)
    (fun naming taken => naming.take taken) (naming_resting tap resting) taken
  obtain ⟨plans, others, same, drawn, declared⟩ := naming.names.named
  cases List.append_cancel_right (journal.symm.trans same)
  rw [List.append_nil] at declared
  exact declared.nodup (TapPlan.nodup_names (unlike.sublist drawn))

end Career

namespace Tap

/-- A name tells its exchange, its suffix and what it is the name of, if suffixes have no dashes. So whatever
exchanges are tapped, and however often the same one, in an epoch no two of the exchanges and queues that are
created get the same name if no two of the suffixes are the same; nor do they in several epochs. -/
theorem names_never_clash :
    (∀ exchange exchange' suffix suffix' : String,
      '-' ∉ suffix.toList → '-' ∉ suffix'.toList →
        (exchangeName exchange suffix = exchangeName exchange' suffix' ↔
          exchange = exchange' ∧ suffix = suffix') ∧
        (queueName exchange suffix = queueName exchange' suffix' ↔
          exchange = exchange' ∧ suffix = suffix')) ∧
    (∀ exchange exchange' suffix suffix' : String,
      exchangeName exchange suffix ≠ queueName exchange' suffix') ∧
    ∀ (bindings : List Binding) (setupRetry : Nat) (c next : Career) (turns : List Career.Turn)
      (events : Journal),
      c.worker = .tap bindings setupRetry → c.run = none → play Career.take turns c = some next →
        next.stage.journal = events ++ c.stage.journal → Unlike (c.stage.drawn next.stage) →
          (Journal.declared events).Nodup := by
  refine ⟨?_, ?_, ?_⟩
  · intro exchange exchange' suffix suffix' plain plain'
    exact ⟨exchangeName_inj plain plain', queueName_inj plain plain'⟩
  · intro exchange exchange' suffix suffix'
    exact exchangeName_ne_queueName exchange suffix exchange' suffix'
  · intro bindings setupRetry c next turns events tap resting taken journal unlike
    exact Career.nodup_declared tap resting taken journal unlike

/-- One exchange is tapped twice, and its name has a dash in it. -/
theorem names_never_clash_on_one_exchange :
    let suffix number := String.ofList (.replicate number 'x')
    let c := Career.start (.tap [⟨"a-b", "#"⟩, ⟨"a-b", "k"⟩] 0) (.initial .initial 1 suffix)
    (∃ next, play Career.take (.begins :: .replicate 13 (.worker .first)) c = some next ∧
      c.stage.drawn next.stage = ["", "x"] ∧
      Journal.declared next.stage.journal = ["__tap-exchange-for-a-b-", "__tap-queue-for-a-b-",
        "__tap-exchange-for-a-b-x", "__tap-queue-for-a-b-x"] ∧
      (Journal.declared next.stage.journal).Nodup) ∧
    exchangeName "a-b" "x" ≠ exchangeName "a" "b" := by
  intro suffix c
  have ran : (play Career.take (.begins :: .replicate 13 (.worker .first)) c).map
      (fun next => (c.stage.drawn next.stage, Journal.declared next.stage.journal)) =
      some (["", "x"], ["__tap-exchange-for-a-b-", "__tap-queue-for-a-b-",
        "__tap-exchange-for-a-b-x", "__tap-queue-for-a-b-x"]) := by
    decide +kernel
  obtain ⟨next, taken, same⟩ := Option.map_eq_some_iff.mp ran
  obtain ⟨drawn, declared⟩ := Prod.mk.inj same
  have unlike : Unlike (c.stage.drawn next.stage) := by
    rw [drawn]
    exact ⟨by decide, by decide⟩
  refine ⟨⟨next, taken, drawn, declared, ?_⟩, fun same => ?_⟩
  · exact names_never_clash.2.2 _ _ c next _ _ rfl rfl taken (List.append_nil _).symm unlike
  · have alike := (names_never_clash.1 "a-b" "a" "x" "b" (by decide) (by decide)).1.mp same
    exact absurd alike.1 (by decide)

end Tap

end ExchangeTap
