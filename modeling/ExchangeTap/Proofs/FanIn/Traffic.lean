import ExchangeTap.Proofs.FanIn.Giving
import ExchangeTap.Proofs.Play

namespace ExchangeTap

namespace FanInBench

structure Sound (b : FanInBench T) : Prop where
  going : b.fanIn.Going
  reliable : Source.Reliable b.sources

/-- What came in by an input and was not received yet. -/
def unreceived (b : FanInBench T) (input : Nat) : List T :=
  ofInput input b.fanIn.held ++ (Source.ofSources b.sources input).waiting

structure Yields (before : FanInBench T) (items : List (Nat × T)) (after : FanInBench T) :
    Prop where
  sound : after.Sound
  unreceived : ∀ input, before.unreceived input = ofInput input items ++ after.unreceived input
  isOpen : ∀ input, (Source.ofSources after.sources input).isOpen =
    (Source.ofSources before.sources input).isOpen

variable {b c d : FanInBench T} {items : List (Nat × T)}

private theorem Sound.yields_nothing (sound : b.Sound) : b.Yields [] b :=
  ⟨sound, fun _ => rfl, fun _ => rfl⟩

theorem Yields.trans (first : b.Yields [] c) (second : c.Yields items d) : b.Yields items d :=
  ⟨second.sound, fun input => (first.unreceived input).trans (second.unreceived input),
    fun input => (second.isOpen input).trans (first.isOpen input)⟩

theorem Sound.advance (sound : b.Sound) (advanced : b.advance = some c) : b.Yields [] c := by
  obtain ⟨⟨fanIn, sources⟩, moved, rfl⟩ := Option.map_eq_some_iff.mp advanced
  obtain ⟨reliable, going, taken, gave, held⟩ :=
    sound.going.advance Source.booked_inputs sound.reliable moved
  refine ⟨⟨going, reliable⟩, fun input => ?_, fun input => (gave input).2⟩
  simp only [FanInBench.unreceived, held, ofInput_append, (gave input).1]
  simp

private theorem push_sources (b : FanInBench T) (input : Nat) (item : T) :
    (b.push input item).2 = { b with
      sources := b.sources.set input ((Source.ofSources b.sources input).push item).2 } := by
  cases found : b.sources[input]? with
  | some source => simp [push, Source.ofSources, found]
  | none =>
      have outside := List.getElem?_eq_none_iff.mp found
      simp [push, found, List.set_eq_of_length_le outside]

private theorem close_sources (b : FanInBench T) (input : Nat) :
    (b.close input).2 = { b with
      sources := b.sources.set input (Source.ofSources b.sources input).close.2 } := by
  cases found : b.sources[input]? with
  | some source => simp [close, Source.ofSources, found]
  | none =>
      have outside := List.getElem?_eq_none_iff.mp found
      simp [close, found, List.set_eq_of_length_le outside]

theorem Sound.push (sound : b.Sound) (input : Nat) (item : T) : (b.push input item).2.Sound := by
  rw [push_sources]
  exact ⟨sound.going, sound.reliable.set (fun source => (source.push item).2) rfl
    (Source.push_spec (sound.reliable input)).2.2⟩

theorem Sound.close (sound : b.Sound) (input : Nat) : (b.close input).2.Sound := by
  rw [close_sources]
  exact ⟨sound.going, sound.reliable.set (fun source => source.close.2) rfl
    (Source.isReliable_close (sound.reliable input))⟩

theorem Sound.settle (sound : b.Sound) (fuel : Nat) :
    b.Yields [] (ExchangeTap.settle FanInBench.advance fuel b) := by
  induction fuel generalizing b with
  | zero => exact sound.yields_nothing
  | succ fuel ih =>
      rw [ExchangeTap.settle]
      cases advanced : b.advance with
      | none => exact sound.yields_nothing
      | some next =>
          have yields := sound.advance advanced
          exact yields.trans (ih yields.sound)

def got : Poll (Option α) → List α
  | .ready item => item.toList
  | .pending => []

theorem Sound.tryReceive (sound : b.Sound) : b.Yields (got b.tryReceive.1) b.tryReceive.2 := by
  cases received : b.fanIn.receive with
  | mk result after =>
      have going := sound.going.receive received
      have tried : b.tryReceive = (result, { b with fanIn := after }) := by
        rw [FanInBench.tryReceive, received]
      rw [tried]
      refine ⟨⟨going, sound.reliable⟩, fun input => ?_, fun _ => rfl⟩
      cases result with
      | pending =>
          cases FanIn.eq_of_receive_pending received
          rfl
      | ready item =>
          cases item with
          | none => cases sound.going.receive_ne_end received
          | some item => simp [FanInBench.unreceived, FanIn.held_of_receive received, got]

theorem Sound.receive (sound : b.Sound) : b.Yields (got b.receive.1) b.receive.2 := by
  have first := sound.tryReceive
  unfold FanInBench.receive
  split
  · rename_i waited tried
    rw [tried] at first
    have settled := first.sound.settle ample
    exact first.trans (settled.trans settled.sound.tryReceive)
  · exact first

end FanInBench

/-- A fan-in at work, with what was received from it. -/
structure Traffic (T : Type) where
  bench : FanInBench T
  received : List (Nat × T)

namespace Traffic

inductive Act (T : Type) where
  | push (input : Nat) (item : T)
  | close (input : Nat)
  | merge
  /-- An attempt to receive that is given up if nothing is there yet. -/
  | poll
  /-- An attempt to receive that waits until nothing moves any more. -/
  | receive

def start (sources : List (Source T)) : Traffic T :=
  ⟨.start sources, []⟩

def note (t : Traffic T) (attempt : Poll (Option (Nat × T)) × FanInBench T) : Traffic T :=
  ⟨attempt.2, t.received ++ FanInBench.got attempt.1⟩

def perform : Act T → Traffic T → Option (Traffic T)
  | .push input item, t => some { t with bench := (t.bench.push input item).2 }
  | .close input, t => some { t with bench := (t.bench.close input).2 }
  | .merge, t => t.bench.advance.map fun bench => { t with bench := bench }
  | .poll, t => some (t.note t.bench.tryReceive)
  | .receive, t => some (t.note t.bench.receive)

def pushed (input : Nat) : List (Act T) → List T
  | [] => []
  | .push other item :: rest =>
    if other = input then item :: pushed input rest else pushed input rest
  | .close other :: rest => if other = input then [] else pushed input rest
  | .merge :: rest | .poll :: rest | .receive :: rest => pushed input rest

end Traffic

/-- All that is put into a source: what is in it from the beginning, and what is pushed into it
until it is closed. -/
def Source.put (source : Source T) (input : Nat) (acts : List (Traffic.Act T)) : List T :=
  source.waiting ++ if source.isOpen then Traffic.pushed input acts else []

namespace Traffic

def account (t : Traffic T) (input : Nat) (acts : List (Act T)) : List T :=
  ofInput input t.received ++ (t.bench.unreceived input ++
    if (Source.ofSources t.bench.sources input).isOpen then pushed input acts else [])

variable {t next last : Traffic T}

private theorem account_of_yields {attempt : Poll (Option (Nat × T)) × FanInBench T} {rest : List (Act T)}
    (yields : t.bench.Yields (FanInBench.got attempt.1) attempt.2) (input : Nat) :
    (t.note attempt).account input rest = t.account input rest := by
  simp only [account, note, ofInput_append, yields.unreceived input, yields.isOpen input,
    List.append_assoc]

private theorem account_of_push {input : Nat} {item : T} {rest : List (Act T)} (sound : t.bench.Sound)
    (other : Nat) :
    account { t with bench := (t.bench.push input item).2 } other rest =
      t.account other (.push input item :: rest) := by
  have reliable := sound.reliable input
  rw [FanInBench.push_sources]
  simp only [account, FanInBench.unreceived, pushed,
    Source.ofSources_set (fun source => (source.push item).2) rfl]
  by_cases here : input = other
  · subst here
    cases isOpen : (Source.ofSources t.bench.sources input).isOpen <;>
      simp [Source.push_spec reliable, isOpen]
  · simp [here]

private theorem account_of_close {input : Nat} {rest : List (Act T)} (other : Nat) :
    account { t with bench := (t.bench.close input).2 } other rest =
      t.account other (.close input :: rest) := by
  rw [FanInBench.close_sources]
  simp only [account, FanInBench.unreceived, pushed,
    Source.ofSources_set (fun source => source.close.2) rfl]
  by_cases here : input = other
  · subst here
    simp [Source.close_spec]
  · simp [here]

/-- Whatever is done, what was received and what is still to be received stay the same together. -/
private theorem perform_account {act : Act T} (rest : List (Act T)) (sound : t.bench.Sound)
    (performed : perform act t = some next) :
    next.bench.Sound ∧ ∀ input, next.account input rest = t.account input (act :: rest) := by
  cases act with
  | push input item =>
      cases performed
      exact ⟨sound.push input item, account_of_push sound⟩
  | close input =>
      cases performed
      exact ⟨sound.close input, account_of_close⟩
  | merge =>
      obtain ⟨bench, advanced, rfl⟩ := Option.map_eq_some_iff.mp performed
      have yields := sound.advance advanced
      refine ⟨yields.sound, fun input => ?_⟩
      simp only [account, pushed, yields.unreceived input, yields.isOpen input, ofInput_nil,
        List.nil_append]
  | poll =>
      cases performed
      exact ⟨sound.tryReceive.sound, account_of_yields sound.tryReceive⟩
  | receive =>
      cases performed
      exact ⟨sound.receive.sound, account_of_yields sound.receive⟩

private theorem play_account {acts : List (Act T)} (sound : t.bench.Sound)
    (played : play perform acts t = some last) (input : Nat) :
    last.account input [] = t.account input acts := by
  induction acts generalizing t with
  | nil =>
      cases played
      rfl
  | cons act rest ih =>
      obtain ⟨next, performed, after⟩ := Option.bind_eq_some_iff.mp played
      obtain ⟨soundNext, same⟩ := perform_account rest sound performed
      rw [ih soundNext after, same]

/-- Of the items put into an input, in their order, the first ones were received, the next ones (two
at most over all inputs) are held by the merge, and the others still wait in the input. -/
theorem conserved {sources : List (Source T)} {acts : List (Act T)}
    (reliable : ∀ source ∈ sources, source.isReliable = true)
    (played : play perform acts (start sources) = some t) :
    t.bench.fanIn.held.length ≤ 2 ∧
    ∀ input,
      ofInput input t.received ++ ofInput input t.bench.fanIn.held ++
          (Source.ofSources t.bench.sources input).waiting =
        (Source.ofSources sources input).put input acts := by
  refine ⟨FanIn.length_held_le _, fun input => ?_⟩
  have sound : (start sources).bench.Sound :=
    ⟨FanIn.going_start sources.length, Source.reliable_of_all reliable⟩
  calc ofInput input t.received ++ ofInput input t.bench.fanIn.held ++
        (Source.ofSources t.bench.sources input).waiting
      = t.account input [] := by simp [account, FanInBench.unreceived, pushed]
    _ = (start sources).account input acts := play_account sound played input
    _ = (Source.ofSources sources input).put input acts := rfl

/-- Two items come in by an open input and wait behind those of two other inputs. One attempt to
receive is given up, and the last push comes too late. -/
theorem conserved_of_three_sources :
    let sources : List (Source Nat) :=
      [.channel [] true true, .fixed [10, 20], .channel [100] false true]
    let acts : List (Act Nat) := [.poll, .receive, .push 0 1, .push 0 2, .receive, .close 0,
      .push 0 3, .merge, .merge]
    (∀ source ∈ sources, source.isReliable = true) ∧
    ∃ t, play perform acts (start sources) = some t ∧
      t.received = [(1, 10), (1, 20)] ∧ t.bench.fanIn.held = [(2, 100), (0, 1)] ∧
      (Source.ofSources sources 0).put 0 acts = [1, 2] ∧
      t.bench.fanIn.held.length ≤ 2 ∧
      ∀ input,
        ofInput input t.received ++ ofInput input t.bench.fanIn.held ++
            (Source.ofSources t.bench.sources input).waiting =
          (Source.ofSources sources input).put input acts := by
  intro sources acts
  have reliable : ∀ source ∈ sources, source.isReliable = true := by decide
  have ran : (play perform acts (start sources)).map (fun t => (t.received, t.bench.fanIn.held)) =
      some ([(1, 10), (1, 20)], [(2, 100), (0, 1)]) := by
    decide +kernel
  obtain ⟨t, played, same⟩ := Option.map_eq_some_iff.mp ran
  have received : t.received = [(1, 10), (1, 20)] := congrArg Prod.fst same
  have held : t.bench.fanIn.held = [(2, 100), (0, 1)] := congrArg Prod.snd same
  exact ⟨reliable, t, played, received, held, rfl, conserved reliable played⟩

end Traffic

end ExchangeTap
