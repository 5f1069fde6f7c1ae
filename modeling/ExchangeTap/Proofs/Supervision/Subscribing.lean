import ExchangeTap.Proofs.Supervision.Publishing
import ExchangeTap.Proofs.Worker.Chapters

namespace ExchangeTap

variable {queue : String} {unheard heard : BrokerError → Prop}

/-- The dealings of a subscription while no epoch goes on, if the supervisor has always redialed. -/
inductive Redialed (queue : String) : Journal → Prop where
  | nothing : Redialed queue []
  | dialing {e : Event} {before : Journal} (dials : e.isDial = true)
      (redialed : Redialed queue before) : Redialed queue (e :: before)
  | epoch {done before : Journal}
      (subscription : Subscription queue (fun _ => False) .reconnect done)
      (redialed : Redialed queue before) :
      Redialed queue (.epochEnded .reconnect :: (done ++ .epochStarted :: before))

/-- The dealings of a subscription whose latest epoch has ended with an action. -/
inductive Returned (queue : String) (unheard : BrokerError → Prop) (action : Action) :
    Journal → Prop where
  | intro {done before : Journal} (subscription : Subscription queue unheard action done)
      (redialed : Redialed queue before) :
      Returned queue unheard action (.epochEnded action :: (done ++ .epochStarted :: before))

theorem Returned.mono {action : Action} {journal : Journal} (wider : ∀ e, unheard e → heard e)
    (returned : Returned queue unheard action journal) : Returned queue heard action journal := by
  obtain ⟨subscription, redialed⟩ := returned
  exact ⟨subscription.mono wider, redialed⟩

private theorem Returned.redialed {journal : Journal}
    (returned : Returned queue unheard .reconnect journal) : Redialed queue journal := by
  obtain ⟨subscription, redialed⟩ := returned
  exact .epoch subscription.again redialed

namespace SupervisorPhase

def Recounts (queue : String) (unheard : BrokerError → Prop) (phase : SupervisorPhase)
    (journal : Journal) : Prop :=
  match phase with
  | idle | draining | dialing | retrying _ => Redialed queue journal
  | working run => ∃ subscribing done before, run = .subscribe queue subscribing ∧
      subscribing.phase.Told queue unheard done ∧ Redialed queue before ∧
      journal = done ++ .epochStarted :: before
  | joining action | closing action => Returned queue unheard action journal
  | ended => Redialed queue journal ∨ ∃ action, Returned queue unheard action journal

variable {phase : SupervisorPhase} {journal : Journal}

theorem Recounts.mono (wider : ∀ e, unheard e → heard e)
    (recounts : phase.Recounts queue unheard journal) : phase.Recounts queue heard journal := by
  cases phase with
  | idle | draining | dialing | retrying => exact recounts
  | working run =>
      obtain ⟨subscribing, done, before, same, told, redialed, split⟩ := recounts
      exact ⟨subscribing, done, before, same, told.mono wider, redialed, split⟩
  | joining action | closing action => exact Returned.mono wider recounts
  | ended => exact Or.imp_right (Exists.imp fun _ => Returned.mono wider) recounts

private theorem Recounts.redialed (recounts : phase.Recounts queue unheard journal)
    (seeking : phase.isSeeking = true) : Redialed queue journal := by
  cases phase with
  | draining | dialing | retrying => exact recounts
  | _ => cases seeking

end SupervisorPhase

namespace Supervised

/-- The worker has a refusal to report that the output has not taken yet. -/
def Reports (s : Supervised) (queue : String) (e : BrokerError) : Prop :=
  ∃ run, s.phase = .working (.subscribe queue run) ∧ run.phase = .reporting (.consume queue e)

structure Subscribing (queue : String) (unheard : BrokerError → Prop) (s : Supervised) : Prop where
  worker : s.worker = .subscribe queue
  recounts : s.phase.Recounts queue unheard (Journal.dealings s.stage.journal)

variable {s t : Supervised} {act : Act}

private theorem subscribing_fresh (queue : String) (unheard : BrokerError → Prop) (retryDelay : Nat)
    (broker : Broker) (capacity : Nat) (suffix : Nat → String) :
    (fresh (.subscribe queue) retryDelay broker capacity suffix).Subscribing queue unheard :=
  ⟨rfl, .nothing⟩

namespace Subscribing

theorem mono (wider : ∀ e, unheard e → heard e) (subscribing : s.Subscribing queue unheard) :
    s.Subscribing queue heard :=
  ⟨subscribing.worker, subscribing.recounts.mono wider⟩

theorem beside (subscribing : s.Subscribing queue unheard) (worker : t.worker = s.worker)
    (phase : ∀ {journal}, s.phase.Recounts queue unheard journal →
      t.phase.Recounts queue unheard journal)
    (tells : s.stage.Tells (·.isDealing = false) t.stage) : t.Subscribing queue unheard := by
  refine ⟨worker.trans subscribing.worker, phase ?_⟩
  rw [Stage.deals_nothing tells]
  exact subscribing.recounts

theorem stay (subscribing : s.Subscribing queue unheard) (worker : t.worker = s.worker)
    (phase : t.phase = s.phase) (tells : s.stage.Tells (·.isDealing = false) t.stage) :
    t.Subscribing queue unheard :=
  subscribing.beside worker (fun recounts => phase ▸ recounts) tells

theorem work {run next : Run} {stage : Stage} {pick : Pick}
    (subscribing : s.Subscribing queue unheard)
    (closed : ∀ e, s.Reports queue e → s.stage.output.receiving = false → unheard e)
    (phase : s.phase = .working run) (stepped : run.step pick s.stage = some (next, stage)) :
    Subscribing queue unheard { s with stage := stage, phase := .working next } := by
  have recounts := subscribing.recounts
  rw [phase] at recounts
  obtain ⟨running, done, before, rfl, told, redialed, split⟩ := recounts
  obtain ⟨⟨later, stage⟩, moved, same⟩ := Option.map_eq_some_iff.mp stepped
  cases same
  obtain ⟨more, deals, after⟩ := SubscribeRun.told_step told
    (fun e reporting => closed e ⟨running, phase, reporting⟩) moved
  refine ⟨subscribing.worker, later, more ++ done, before, rfl, after, redialed, ?_⟩
  rw [deals, split, List.append_assoc]

theorem merge {run next : Run} {stage : Stage} (subscribing : s.Subscribing queue unheard)
    (phase : s.phase = .working run) (stepped : run.mergeStep s.stage = some (next, stage)) :
    Subscribing queue unheard { s with stage := stage, phase := .working next } := by
  have recounts := subscribing.recounts
  rw [phase] at recounts
  obtain ⟨running, done, before, rfl, told, redialed, split⟩ := recounts
  obtain ⟨fanIn, merging, advancing⟩ := Option.bind_eq_some_iff.mp stepped
  obtain ⟨⟨later, stage⟩, advanced, same⟩ := Option.map_eq_some_iff.mp advancing
  cases same
  refine ⟨subscribing.worker, _, done, before, rfl, told, redialed, ?_⟩
  rw [Stage.deals_nothing (FanIn.tells_advance (fun _ => rfl) advanced), List.nil_append, split]

theorem leave {run : Run} {action : Action} (subscribing : s.Subscribing queue unheard)
    (phase : s.phase = .working run) (returned : run.result? = some action) :
    Subscribing queue unheard
      { s with stage := s.stage.record (.epochEnded action), phase := .joining action } := by
  have recounts := subscribing.recounts
  rw [phase] at recounts
  obtain ⟨⟨phase, consumers, fanIn⟩, done, before, rfl, told, redialed, split⟩ := recounts
  refine ⟨subscribing.worker, ?_⟩
  rw [Stage.record, Journal.dealings_cons_of_dealing rfl, split]
  cases told with
  | finished subscription =>
      cases returned
      exact .intro subscription redialed
  | _ => cases returned

theorem begin (subscribing : s.Subscribing queue unheard) (phase : s.phase = .dialing)
    {broker : Broker} : Subscribing queue unheard { s with
      stage := { s.stage.unlock with broker := broker }.record .dialSucceeded }.beginEpoch := by
  have redialed := subscribing.recounts.redialed (by rw [phase]; rfl)
  exact ⟨subscribing.worker, .start, [], _, congrArg (Worker.start s.epochs) subscribing.worker,
    .opening, .dialing rfl redialed, rfl⟩

theorem close {action : Action} (subscribing : s.Subscribing queue unheard)
    (phase : s.phase = .closing action) : (s.close action).Subscribing queue unheard := by
  have returned := subscribing.recounts
  rw [phase] at returned
  have tells : s.stage.Tells (·.isDealing = false) (s.close action).stage :=
    .trans (Stage.tells_record { s.stage with broker := _ } rfl) (tells_close (fun _ => rfl) s action)
  refine ⟨?_, ?_⟩
  · rw [← subscribing.worker, Supervised.close]
    dsimp only
    split <;> rfl
  · rw [Stage.deals_nothing tells]
    unfold Supervised.close
    dsimp only
    split
    · exact .inr ⟨action, returned⟩
    · rename_i further
      cases action with
      | stop => exact absurd (.inl rfl) further
      | reconnect => exact Returned.redialed returned

theorem perform (guarded : s.Guarded) (subscribing : s.Subscribing queue unheard)
    (closed : ∀ pick e, act = .task pick .main → s.Reports queue e →
      s.stage.output.receiving = false → unheard e)
    (performed : perform act s = some t) : t.Subscribing queue unheard := by
  have recounts := subscribing.recounts
  have seek : s.phase.isSeeking = true → ∀ {journal},
      s.phase.Recounts queue unheard journal → Redialed queue journal :=
    fun seeking => fun recounts => recounts.redialed seeking
  cases move_of_perform guarded performed with
  | begins phase =>
      refine subscribing.beside rfl ?_ (.refl _)
      rw [phase]
      exact id
  | hearsReconnect seeking =>
      exact subscribing.beside rfl (seek seeking) (Stage.tells_hear _ rfl)
  | hearsShutdown seeking =>
      refine subscribing.beside rfl (fun recounts => .inl (seek seeking recounts)) ?_
      exact .trans (Stage.tells_hear _ rfl) (Stage.tells_log _ rfl)
  | remembers phase =>
      have seeking : s.phase.isSeeking = true := by rw [phase]; rfl
      exact subscribing.beside rfl (fun recounts => .inl (seek seeking recounts))
        (Stage.tells_log _ rfl)
  | dials phase => exact ⟨subscribing.worker, .dialing rfl (recounts.redialed (by rw [phase]; rfl))⟩
  | fails phase =>
      exact subscribing.beside rfl (seek (by rw [phase]; rfl))
        (Stage.tells_log { s.stage.await with broker := _ } rfl)
  | connects phase => exact subscribing.begin phase
  | retries phase => exact subscribing.beside rfl (seek (by rw [phase]; rfl)) (.refl _)
  | works phase unfinished =>
      exact subscribing.work (fun e => closed _ e rfl) phase
        (step_of_works phase unfinished performed)
  | merges phase => exact subscribing.merge phase (step_of_merges phase performed)
  | returns phase returned => exact subscribing.leave phase returned
  | joins phase =>
      refine subscribing.beside rfl ?_ (.refl _)
      rw [phase]
      exact id
  | quits phase | redials phase =>
      rw [← close_of_perform phase performed]
      exact subscribing.close phase
  | sleeps | dismisses | givesUp | finishes => exact subscribing.stay rfl rfl (.refl _)
  | reports =>
      exact subscribing.stay rfl rfl (.trans (Stage.tells_log _ rfl) (Stage.tells_put _ rfl))
  | concedes =>
      exact subscribing.stay rfl rfl (.trans (Stage.tells_log _ rfl) (Stage.tells_log _ rfl))
  | delivers => exact subscribing.stay rfl rfl (Stage.tells_put s.stage rfl)
  | calls call =>
      cases call with
      | refuses | follows => exact subscribing.stay rfl rfl (.refl _)
      | comesLate | queues => exact subscribing.stay rfl rfl (Stage.tells_log _ rfl)
      | sends =>
          exact subscribing.stay rfl rfl (.trans (Stage.tells_log _ rfl) (Stage.tells_put _ rfl))
  | world change =>
      exact subscribing.stay rfl rfl (Stage.tells_of_journal (s.stage.undergo_journal change))

end Subscribing

end Supervised

section Chapters

variable {action : Action} {journal done epoch : Journal}

namespace Redialed

private theorem chapters (redialed : Redialed queue journal) (returned : Option Action) :
    ∀ epoch ∈ Journal.epochs journal, Chapter queue returned epoch := by
  induction redialed with
  | nothing =>
      intro epoch member
      cases List.mem_singleton.mp member
      exact chapter_nil
  | dialing dials before ih =>
      rename_i e earlier
      have starts : e.startsEpoch = false := by
        obtain rfl | rfl := Event.eq_of_dial dials <;> rfl
      rw [Journal.epochs_cons, starts, Journal.epochs_eq]
      rw [Journal.epochs_eq] at ih
      intro epoch member
      rcases List.mem_cons.mp member with rfl | past
      · exact (ih _ List.mem_cons_self).dial dials
      · exact ih epoch (List.mem_cons_of_mem _ past)
  | epoch subscription before ih =>
      rw [← List.cons_append, Journal.epochs_append]
      · exact List.forall_mem_cons.mpr ⟨subscription.chapter_ended, ih⟩
      · exact List.forall_mem_cons.mpr ⟨rfl, subscription.startsEpoch⟩

private theorem unfailed (redialed : Redialed queue journal) (input : Option Nat) (error : TapError) :
    .handedOver input (.failed error) ∉ journal := by
  induction redialed with
  | nothing => exact List.not_mem_nil
  | dialing dials before ih =>
      obtain rfl | rfl := Event.eq_of_dial dials <;> simpa using ih
  | epoch subscription before ih =>
      intro member
      simp only [List.mem_cons, List.mem_append, reduceCtorEq, false_or] at member
      rcases member with among | past
      · obtain ⟨later, earlier, split⟩ := List.append_of_mem among
        cases (subscription.of_failure split).1
      · exact ih past

private theorem lost_of_refusal (redialed : Redialed queue journal) {number : Nat} {op : Operation}
    {e : BrokerError} (member : .executed number op (.error e) ∈ journal) :
    e.isConnectionClosed = true := by
  induction redialed with
  | nothing => cases member
  | dialing dials before ih =>
      obtain rfl | rfl := Event.eq_of_dial dials <;> exact ih (by simpa using member)
  | epoch subscription before ih =>
      simp only [List.mem_cons, List.mem_append, reduceCtorEq, false_or] at member
      rcases member with among | past
      · cases lost : e.isConnectionClosed with
        | true => rfl
        | false =>
            obtain reported | ⟨⟨⟩⟩ := subscription.of_refusal among lost
            obtain ⟨later, earlier, split⟩ := List.append_of_mem reported
            cases (subscription.of_failure split).1
      · exact ih past

variable {before later earlier : Journal} {input : Option Nat} {error : TapError}

private theorem split_of_failure (redialed : Redialed queue before)
    (split : done ++ .epochStarted :: before =
      later ++ .handedOver input (.failed error) :: earlier) :
    ∃ rest, done = later ++ .handedOver input (.failed error) :: rest ∧
      earlier = rest ++ .epochStarted :: before := by
  rcases Journal.split_block split with inside | ⟨between, _, after⟩
  · exact inside
  · refine absurd ?_ (redialed.unfailed input error)
    cases between with
    | nil => cases after
    | cons first rest =>
        obtain ⟨_, rfl⟩ := List.cons.inj after
        simp

private theorem mem_of_refusal {number : Nat} {op : Operation} {e : BrokerError}
    (redialed : Redialed queue before) (refused : e.isConnectionClosed = false)
    (member : .executed number op (.error e) ∈ done ++ .epochStarted :: before) :
    .executed number op (.error e) ∈ done := by
  simp only [List.mem_append, List.mem_cons, reduceCtorEq, false_or] at member
  rcases member with among | past
  · exact among
  · cases refused.symm.trans (redialed.lost_of_refusal past)

end Redialed

namespace Returned

private theorem chapters (concluded : Returned queue unheard action journal) (returned : Option Action) :
    ∃ now past, Journal.epochs journal = now :: past ∧ Chapter queue returned now ∧
      ∀ epoch ∈ past, Chapter queue none epoch := by
  obtain ⟨subscription, redialed⟩ := concluded
  refine ⟨_, _, ?_, subscription.chapter_ended, redialed.chapters none⟩
  rw [← List.cons_append, Journal.epochs_append]
  exact List.forall_mem_cons.mpr ⟨rfl, subscription.startsEpoch⟩

theorem of_failure {later earlier : Journal} {input : Option Nat} {error : TapError}
    (concluded : Returned queue unheard action journal)
    (split : journal = later ++ .handedOver input (.failed error) :: earlier) :
    (∀ e ∈ later, e = .epochEnded .stop) ∧ ∃ number tag e before,
      e.isConnectionClosed = false ∧ error = .consume queue e ∧
        earlier = .executed number (.consume queue tag) (.error e) :: .epochStarted :: before := by
  obtain ⟨subscription, redialed⟩ := concluded
  rw [← List.cons_append] at split
  obtain ⟨rest, inside, rfl⟩ := redialed.split_of_failure split
  cases later with
  | nil => cases inside
  | cons first later =>
      obtain ⟨rfl, below⟩ := List.cons.inj inside
      obtain ⟨rfl, rfl, number, tag, e, refused, named, rfl⟩ := subscription.of_failure below
      exact ⟨List.forall_mem_singleton.mpr rfl, number, tag, e, _, refused, named, rfl⟩

theorem of_refusal {number : Nat} {op : Operation} {e : BrokerError}
    (concluded : Returned queue unheard action journal)
    (member : .executed number op (.error e) ∈ journal) (refused : e.isConnectionClosed = false) :
    ∃ now past, Journal.epochs journal = now :: past ∧
      (.handedOver none (.failed (.consume queue e)) ∈ now ∨ unheard e) := by
  obtain ⟨subscription, redialed⟩ := concluded
  rw [← List.cons_append] at member ⊢
  rw [Journal.epochs_append (List.forall_mem_cons.mpr ⟨rfl, subscription.startsEpoch⟩)]
  refine ⟨_, _, rfl, ?_⟩
  have among := redialed.mem_of_refusal refused member
  simp only [List.mem_cons, reduceCtorEq, false_or] at among
  exact (subscription.of_refusal among refused).imp_left (List.mem_cons_of_mem _)

end Returned

namespace SupervisorPhase.Recounts

variable {phase : SupervisorPhase}

private theorem chapters (recounts : phase.Recounts queue unheard journal) :
    ∃ now past, Journal.epochs journal = now :: past ∧ Chapter queue phase.returned? now ∧
      ∀ epoch ∈ past, Chapter queue none epoch := by
  have sought : Redialed queue journal → ∃ now past, Journal.epochs journal = now :: past ∧
      Chapter queue none now ∧ ∀ epoch ∈ past, Chapter queue none epoch := fun redialed =>
    ⟨_, _, Journal.epochs_eq journal,
      List.forall_mem_cons.mp (Journal.epochs_eq journal ▸ redialed.chapters none)⟩
  cases phase with
  | idle | draining | dialing | retrying => exact sought recounts
  | working run =>
      obtain ⟨⟨phase, consumers, fanIn⟩, done, before, rfl, told, redialed, rfl⟩ := recounts
      exact ⟨done, _, Journal.epochs_append told.startsEpoch, told.chapter, redialed.chapters none⟩
  | joining action | closing action => exact Returned.chapters recounts _
  | ended =>
      rcases recounts with redialed | ⟨action, concluded⟩
      · exact sought redialed
      · exact concluded.chapters none

theorem of_failure {later earlier : Journal} {input : Option Nat} {error : TapError}
    (recounts : phase.Recounts queue unheard journal)
    (split : journal = later ++ .handedOver input (.failed error) :: earlier) :
    (∀ e ∈ later, e = .epochEnded .stop) ∧ ∃ number tag e before,
      e.isConnectionClosed = false ∧ error = .consume queue e ∧
        earlier = .executed number (.consume queue tag) (.error e) :: .epochStarted :: before := by
  have member : .handedOver input (.failed error) ∈ journal := by simp [split]
  cases phase with
  | idle | draining | dialing | retrying => exact absurd member (recounts.unfailed input error)
  | working run =>
      obtain ⟨running, done, before, rfl, told, redialed, rfl⟩ := recounts
      obtain ⟨rest, inside, rfl⟩ := redialed.split_of_failure split
      obtain ⟨rfl, number, tag, e, refused, named, rfl⟩ := told.of_failure inside
      exact ⟨List.forall_mem_nil _, number, tag, e, before, refused, named, rfl⟩
  | joining action | closing action => exact Returned.of_failure recounts split
  | ended =>
      rcases recounts with redialed | ⟨action, concluded⟩
      · exact absurd member (redialed.unfailed input error)
      · exact concluded.of_failure split

theorem of_refusal {number : Nat} {op : Operation} {e : BrokerError}
    (recounts : phase.Recounts queue unheard journal)
    (member : .executed number op (.error e) ∈ journal) (refused : e.isConnectionClosed = false) :
    ∃ now past, Journal.epochs journal = now :: past ∧
      (.handedOver none (.failed (.consume queue e)) ∈ now ∨
        (∃ run, phase = .working (.subscribe queue run) ∧
          run.phase = .reporting (.consume queue e)) ∨
        unheard e) := by
  have absent : Redialed queue journal → .executed number op (.error e) ∉ journal :=
    fun redialed among => nomatch refused.symm.trans (redialed.lost_of_refusal among)
  have returned : ∀ {action}, Returned queue unheard action journal →
      ∃ now past, Journal.epochs journal = now :: past ∧
        (.handedOver none (.failed (.consume queue e)) ∈ now ∨
          (∃ run, phase = .working (.subscribe queue run) ∧
            run.phase = .reporting (.consume queue e)) ∨
          unheard e) := by
    intro action concluded
    obtain ⟨now, past, same, heard⟩ := concluded.of_refusal member refused
    exact ⟨now, past, same, heard.imp_right .inr⟩
  cases phase with
  | idle | draining | dialing | retrying => exact absurd member (absent recounts)
  | working run =>
      obtain ⟨running, done, before, rfl, told, redialed, rfl⟩ := recounts
      refine ⟨done, _, Journal.epochs_append told.startsEpoch, ?_⟩
      refine (told.of_refusal (redialed.mem_of_refusal refused member) refused).imp_right ?_
      exact Or.imp_left fun reporting => ⟨running, rfl, reporting⟩
  | joining action | closing action => exact returned recounts
  | ended =>
      rcases recounts with redialed | ⟨action, concluded⟩
      · exact absurd member (absent redialed)
      · exact returned concluded

end SupervisorPhase.Recounts

end Chapters

namespace Supervised

variable {s u : Supervised} {queue : String} {acts : List Act} {e : BrokerError}

/-- In a run the worker has gone on with the refusal to report while the output was closed. -/
def Unheard (start : Supervised) (queue : String) (acts : List Act) (e : BrokerError) : Prop :=
  ∃ before pick after s, acts = before ++ .task pick .main :: after ∧
    play perform before start = some s ∧ s.Reports queue e ∧ s.stage.output.receiving = false

private theorem subscribing_play {retryDelay capacity : Nat} {broker : Broker} {suffix : Nat → String}
    (performed : play perform acts (fresh (.subscribe queue) retryDelay broker capacity suffix) =
      some s) :
    s.Subscribing queue
      (Unheard (fresh (.subscribe queue) retryDelay broker capacity suffix) queue acts) := by
  have sound : s.Guarded ∧ s.Subscribing queue
      (Unheard (fresh (.subscribe queue) retryDelay broker capacity suffix) queue acts) := by
    refine play_history (P := fun acts s => s.Guarded ∧ s.Subscribing queue
      (Unheard (fresh (.subscribe queue) retryDelay broker capacity suffix) queue acts))
      ?_ ⟨guarded_fresh _ _ _ _ _, subscribing_fresh _ _ _ _ _ _⟩ performed
    intro before act s t reached ⟨guarded, subscribing⟩ done
    refine ⟨guarded.move (move_of_perform guarded done), ?_⟩
    refine (subscribing.mono ?_).perform guarded ?_ done
    · rintro e ⟨early, pick, late, moment, rfl, came, reports, closed⟩
      exact ⟨early, pick, late ++ [act], moment, List.append_assoc .., came, reports, closed⟩
    · rintro pick e rfl reports closed
      exact ⟨before, pick, [], s, rfl, reached, reports, closed⟩
  exact sound.2

theorem Reports.perform (reports : s.Reports queue e) (pick : Pick) :
    (∀ output, s.stage.output.send (.failed (.consume queue e)) = .sent output →
      ∃ t, Supervised.perform (.task pick .main) s = some t ∧
        t.stage.journal = .handedOver none (.failed (.consume queue e)) :: s.stage.journal) ∧
    (s.stage.output.send (.failed (.consume queue e)) = .full →
      Supervised.perform (.task pick .main) s = none) := by
  obtain ⟨⟨phase, consumers, fanIn⟩, working, rfl⟩ := reports
  refine ⟨fun output sent => ?_, fun full => ?_⟩
  · simp [Supervised.perform, Supervised.step, mainStep, working, Run.result?, Run.step,
      SubscribeRun.step, Stage.hand, sent]
  · simp [Supervised.perform, Supervised.step, mainStep, working, Run.result?, Run.step,
      SubscribeRun.step, Stage.hand, full]

end Supervised

open Supervised in
/-- The broker is only asked to have the queue consumed, once in an epoch at most. When it refuses
that and the connection is not lost, the refusal is reported as soon as the output has room for it,
unless the output is closed by then; nothing else is reported as a failure, and no envelope and no
dial follows. When the channel is refused or the connection is lost before the queue is consumed,
there is no envelope, and the epoch ends with a reconnect. -/
theorem Supervised.subscribing_reports_refusals {queue : String} {retryDelay capacity : Nat}
    {broker : Broker} {suffix : Nat → String} {acts : List Act} {s : Supervised}
    (performed : play perform acts (fresh (.subscribe queue) retryDelay broker capacity suffix) =
      some s) :
    (∀ epoch ∈ Journal.epochs s.stage.journal,
      (Journal.operations epoch = [] ∨ ∃ tag, Journal.operations epoch = [.consume queue tag]) ∧
      ∀ e ∈ epoch, e.isLoss = true →
        (∀ input envelope, .handedOver input envelope ∉ epoch) ∧
        (∀ action, .epochEnded action ∈ epoch → action = .reconnect) ∧
        (.epochEnded .reconnect ∈ epoch ∨
          epoch = s.epoch ∧ s.phase.returned? = some .reconnect)) ∧
    (∀ later input error earlier,
      s.stage.journal = later ++ .handedOver input (.failed error) :: earlier →
        (∃ number tag e, e.isConnectionClosed = false ∧ error = .consume queue e ∧
          .executed number (.consume queue tag) (.error e) ∈ Journal.epoch earlier) ∧
        (∀ input envelope, .handedOver input envelope ∉ later) ∧ .dialAttempted ∉ later) ∧
    (∀ number op e, .executed number op (.error e) ∈ s.stage.journal →
      e.isConnectionClosed = false →
        .handedOver none (.failed (.consume queue e)) ∈ s.epoch ∨ s.Reports queue e ∨
          Unheard (fresh (.subscribe queue) retryDelay broker capacity suffix) queue acts e) ∧
    ∀ e pick, s.Reports queue e →
      (∀ output, s.stage.output.send (.failed (.consume queue e)) = .sent output →
        ∃ t, perform (.task pick .main) s = some t ∧
          t.stage.journal = .handedOver none (.failed (.consume queue e)) :: s.stage.journal) ∧
      (s.stage.output.send (.failed (.consume queue e)) = .full →
        perform (.task pick .main) s = none) := by
  have recounts := (subscribing_play performed).recounts
  refine ⟨?_, ?_, ?_, ?_⟩
  · obtain ⟨now, past, split, going, ended⟩ := recounts.chapters
    rw [Journal.epochs_dealings, Journal.epochs_eq, List.map_cons] at split
    obtain ⟨rfl, rfl⟩ := List.cons.inj split
    intro epoch member
    rw [Journal.epochs_eq] at member
    rcases List.mem_cons.mp member with rfl | among
    · have chapter := going.of_dealings
      refine ⟨chapter.operations, fun e member lost => ?_⟩
      obtain ⟨silent, asked, again⟩ := chapter.losses e member lost
      exact ⟨fun input envelope given => (nomatch silent _ given), asked,
        again.imp_right fun returned => ⟨rfl, returned⟩⟩
    · have chapter := (ended _ (List.mem_map_of_mem among)).of_dealings
      refine ⟨chapter.operations, fun e member lost => ?_⟩
      obtain ⟨silent, asked, again⟩ := chapter.losses e member lost
      exact ⟨fun input envelope given => (nomatch silent _ given), asked,
        .inl (again.resolve_right nofun)⟩
  · intro later input error earlier split
    have dealt : Journal.dealings s.stage.journal =
        Journal.dealings later ++ .handedOver input (.failed error) :: Journal.dealings earlier := by
      rw [split, Journal.dealings, List.filter_append]
      rfl
    obtain ⟨last, number, tag, e, before, refused, named, first⟩ := recounts.of_failure dealt
    refine ⟨⟨number, tag, e, refused, named, ?_⟩, fun input envelope given => ?_, fun dialed => ?_⟩
    · have dealing : .executed number (.consume queue tag) (.error e) ∈
          Journal.epoch (Journal.dealings earlier) := by
        rw [first]
        exact List.mem_cons_self
      rw [Journal.epoch_dealings] at dealing
      exact (List.mem_filter.mp dealing).1
    · cases last _ (Journal.mem_dealings rfl given)
    · cases last _ (Journal.mem_dealings rfl dialed)
  · intro number op e member refused
    obtain ⟨now, past, split, heard⟩ :=
      recounts.of_refusal (Journal.mem_dealings rfl member) refused
    rw [Journal.epochs_dealings, Journal.epochs_eq, List.map_cons] at split
    obtain ⟨rfl, rfl⟩ := List.cons.inj split
    exact heard.imp_left fun given => (List.mem_filter.mp given).1
  · exact fun e pick reports => reports.perform pick

open Supervised in
/-- A dial fails, then a channel is refused, then the connection is found lost; in the third epoch
the consumption is refused. -/
theorem Supervised.subscribing_reports_refusals_in_third_epoch :
    let broker := { Broker.initial with
      refusals := [⟨some .consume, none, 0, 1, .connectionClosed "lost"⟩,
        ⟨some .consume, none, 0, 1, .operation "refused"⟩]
      refusedDials := [some (.dial "down")]
      refusedChannels := [some Broker.channelRefused] }
    let main := Act.task .second .main
    let watcher := Act.task .second .watcher
    let acts := .connect :: .replicate 7 main ++ [watcher] ++ .replicate 7 main ++ [watcher] ++
      .replicate 8 main ++ [watcher, main, main]
    ∃ s later input earlier number tag,
      play perform acts (fresh (.subscribe "orders") 0 broker 2 fun _ => "x") = some s ∧
      ((Journal.epochs s.stage.journal).map fun epoch =>
        (Journal.operations epoch).map Operation.kind) = [[.consume], [.consume], [], []] ∧
      s.stage.journal = later ++
        .handedOver input (.failed (.consume "orders" (.operation "refused"))) :: earlier ∧
      .executed number (.consume "orders" tag) (.error (.operation "refused")) ∈
        Journal.epoch earlier ∧
      (∀ input envelope, .handedOver input envelope ∉ later) ∧ .dialAttempted ∉ later := by
  intro broker main watcher acts
  have ran : (play perform acts (fresh (.subscribe "orders") 0 broker 2 fun _ => "x")).map
      (fun s => ((Journal.epochs s.stage.journal).map fun epoch =>
          (Journal.operations epoch).map Operation.kind,
        s.stage.journal.filterMap Event.failure?)) =
      some ([[.consume], [.consume], [], []], [.consume "orders" (.operation "refused")]) := by
    decide +kernel
  obtain ⟨s, performed, same⟩ := Option.map_eq_some_iff.mp ran
  obtain ⟨operations, failures⟩ := Prod.mk.inj same
  have failed : .consume "orders" (.operation "refused") ∈
      s.stage.journal.filterMap Event.failure? := by
    rw [failures]
    exact List.mem_cons_self
  obtain ⟨event, member, failure⟩ := List.mem_filterMap.mp failed
  obtain ⟨input, rfl⟩ := Event.eq_of_failure failure
  obtain ⟨later, earlier, split⟩ := List.append_of_mem member
  obtain ⟨_, last, _⟩ := subscribing_reports_refusals performed
  obtain ⟨⟨number, tag, e, _, named, refused⟩, silent, undialed⟩ := last later input _ earlier split
  cases named
  exact ⟨s, later, input, earlier, number, tag, performed, operations, split, refused, silent,
    undialed⟩

end ExchangeTap
