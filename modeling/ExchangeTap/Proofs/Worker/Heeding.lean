import ExchangeTap.Proofs.FanIn.Listening
import ExchangeTap.Proofs.Worker.Forwarding
import ExchangeTap.Proofs.Worker.RunConduct

/-! As long as a worker prepares or listens it has taken no signal; while it forwards, every signal
that was taken is on its way through the fan-in. So a worker that cannot go on has left no signal
unheard, unless its output is full. -/

namespace ExchangeTap

private theorem ControlPath.alive_poll {ρ : Type} [DecidableEq ρ] {p q : ControlPath ρ} {r : ρ}
    {result : Poll (Option Signal)} (alive : p.senderAlive = true)
    (polled : p.poll r = (result, q)) : result ≠ .ready none ∧ q.senderAlive = true := by
  have kept : (p.request r).senderAlive = true := by
    unfold request
    split
    · exact alive
    · split <;> exact alive
  unfold poll at polled
  generalize p.request r = waiting at kept polled
  obtain ⟨slot, reserved, senderAlive, holder, queue⟩ := waiting
  cases kept
  simp only [if_true] at polled
  split at polled
  · split at polled <;> cases polled <;> exact ⟨fun same => (nomatch same), rfl⟩
  · cases polled
    exact ⟨fun same => (nomatch same), rfl⟩

private theorem Stage.alive_pollControl {s t : Stage} {r : Reader} {result : Poll (Option Signal)}
    (alive : s.control.senderAlive = true) (polled : s.pollControl r = (result, t)) :
    result ≠ .ready none ∧ t.control.senderAlive = true := by
  unfold pollControl at polled
  split at polled <;> rename_i answer <;> cases polled <;>
    exact ControlPath.alive_poll alive answer

namespace Item

variable {consumers : List Nat} {s t : Stage} {input : Nat}

private theorem alive_look {glance : Glance Item} (alive : s.control.senderAlive = true)
    (looked : (inputs consumers).look s input = (glance, t)) : t.control.senderAlive = true := by
  cases look_cases looked with
  | reads | waits | misses => exact alive
  | hears _ polled | listens _ polled | ends _ polled =>
      exact (Stage.alive_pollControl alive polled).2

private theorem lasting_control (control : consumers[input]? = none) :
    (inputs consumers).Lasting (fun s => s.control.senderAlive = true) input := by
  refine ⟨alive_look, ?_, ?_⟩
  · intro s t alive looked
    cases look_cases looked with
    | misses present => cases control.symm.trans present
    | ends _ polled => exact (Stage.alive_pollControl alive polled).1 rfl
  · intro s t other alive looked
    cases look_cases looked

theorem slot_of_scan {order : List Nat} (control : consumers[input]? = none)
    (member : input ∈ order) (used : s.control.UsedBy (some .merge))
    (scanned : Merge.scan (inputs consumers) s order = (none, t)) : s.control.slot = none := by
  induction order with
  | nil => cases member
  | cons first rest ih =>
      cases looked : (inputs consumers).look s first with
      | mk glance after =>
          rw [Merge.scan, looked] at scanned
          cases look_cases looked with
          | waits present =>
              rcases List.mem_cons.mp member with rfl | later
              · cases control.symm.trans present
              · exact ih later scanned
          | listens absent polled =>
              rcases Stage.pollControl_cases used polled with
                ⟨_, same, _⟩ | ⟨_, slot, _⟩ | ⟨same, _⟩
              · cases same
              · exact slot
              · cases same
          | reads | misses | hears | ends => cases scanned

end Item

/-- The signals that were taken in an epoch and not yet heeded. -/
inductive Heeding (taken : List Signal) : Intake → Prop where
  | preparing (untaken : taken = []) : Heeding taken ⟨own, none, .preparing⟩
  | listening (untaken : taken = []) : Heeding taken ⟨own, none, .listening⟩
  | forwarding (going : f.Going) (hears : f.Hears own.length)
      (held : Item.signals f.held = taken) : Heeding taken ⟨own, some f, .forwarding forward⟩
  | leaving : Heeding taken ⟨own, some f, .leaving action⟩
  | stopping (stopped : f.stopRequested = true) : Heeding taken ⟨own, some f, .stopping action⟩
  | returned : Heeding taken ⟨own, fanIn, .returned action⟩

namespace Heeding

variable {taken later : List Signal} {intake after : Intake} {s t : Stage}

theorem moves (heeding : Heeding taken intake) (moves : intake.Moves s t after)
    (untaken : Journal.taken t.journal = Journal.taken s.journal → later = taken) :
    Heeding later after := by
  cases moves with
  | prepares grows idle =>
      cases heeding with
      | preparing nothing => exact .preparing ((untaken idle.taken).trans nothing)
  | begins grows idle =>
      cases heeding with
      | preparing nothing =>
          refine .forwarding (FanIn.going_start _) (FanIn.hears_start (Nat.lt_succ_self _)) ?_
          exact ((untaken idle.taken).trans nothing).symm
  | withdraws unhearing =>
      cases heeding with
      | preparing nothing => exact .listening ((untaken unhearing.taken).trans nothing)
  | rests unhearing =>
      cases heeding with
      | listening nothing => exact .listening ((untaken unhearing.taken).trans nothing)
  | fails | hears | concludes => exact .returned
  | leaves | winds => exact .leaving
  | quits | stops => exact .stopping rfl
  | forwards stepped =>
      cases heeding with
      | forwarding going hears held =>
          have carries := Forward.carries_of_step going stepped
          refine .forwarding carries.going (hears.congr carries.merge) ?_
          rw [carries.signals, held, untaken carries.taken]

theorem merged {f g : FanIn Item} (heeding : Heeding taken intake)
    (present : intake.fanIn = some f) (alive : s.control.senderAlive = true)
    (advanced : f.advance (Item.inputs intake.consumers) s = some (g, t))
    (more : ∀ signals, Journal.taken t.journal = Journal.taken s.journal ++ signals →
      later = taken ++ signals) :
    Heeding later { intake with fanIn := some g } := by
  cases heeding with
  | preparing | listening => cases present
  | leaving => exact .leaving
  | returned => exact .returned
  | stopping stopped =>
      cases present
      exact .stopping ((FanIn.stopRequested_advance advanced).trans stopped)
  | @forwarding own f forward going hears held =>
      cases present
      obtain ⟨_, still, items, heard, sum⟩ :=
        going.advance (Item.booked_signals own) trivial advanced
      have lasting : (Item.inputs own).Lasting (fun s => s.control.senderAlive = true) own.length :=
        Item.lasting_control (List.getElem?_eq_none (Nat.le_refl _))
      refine .forwarding still (hears.advance lasting alive going advanced) ?_
      rw [sum, Item.signals_append, held, more _ heard]

end Heeding

end ExchangeTap
