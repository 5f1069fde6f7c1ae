import ExchangeTap.Output.Consumption
import ExchangeTap.Proofs.Output.Filing

namespace ExchangeTap

def messages (arrivals : List Arrival) : List Received :=
  arrivals.filterMap fun arrival =>
    match arrival.envelope with
    | .delivered message => some message
    | .failed _ => none

/-- The message gets a file of its own beside all that is there. -/
def Directory.Saves (message : Received) (before after : Directory) : Prop :=
  before.save message = .ok after ∧
    ∃ files files' number, before.files = some files ∧ after = { before with files := some files' } ∧
      Filed message files files' number

/-- Arrivals that go by, with the directory before and after them: the failures are transient, and every
message is saved if there is a directory for that. -/
inductive Passing : List Arrival → Option Directory → Option Directory → Prop where
  | done {directory} : Passing [] directory directory
  | transient {others e rest directory last} (recovers : e.isTransient = true)
      (passing : Passing rest (directory.map (·.disturbed others)) last) :
      Passing (⟨others, .failed e⟩ :: rest) directory last
  | printed {others message rest last} (passing : Passing rest none last) :
      Passing (⟨others, .delivered message⟩ :: rest) none last
  | saved {others message rest directory after last}
      (saves : Directory.Saves message (directory.disturbed others) after)
      (passing : Passing rest (some after) last) :
      Passing (⟨others, .delivered message⟩ :: rest) (some directory) last

/-- What stops a consumption that has come as far as that directory. -/
inductive Stops : Option Directory → Arrival → Prop where
  | failed {directory others e} (fatal : e.isTransient = false) : Stops directory ⟨others, .failed e⟩
  | unsaved {directory others message reason}
      (refused : (directory.disturbed others).save message = .error reason) :
      Stops (some directory) ⟨others, .delivered message⟩

namespace Printer

def following (p : Printer) (messages : List Received) (directory : Option Directory) : Printer :=
  { p with
    printed := p.printed ++ messages.map fun message => p.format.render message
    directory := directory }

/-- How a consumption ends: with the output, with a failure, or with a message that is printed and cannot
be saved. -/
inductive Ending (p : Printer) : List Arrival → Except ConsumptionError Unit × Printer → Prop where
  | finished {arrivals directory} (passing : Passing arrivals p.directory directory) :
      Ending p arrivals (.ok (), p.following (messages arrivals) directory)
  | failed {others e passed left directory} (passing : Passing passed p.directory directory)
      (fatal : e.isTransient = false) :
      Ending p (passed ++ ⟨others, .failed e⟩ :: left)
        (.error (.worker e), p.following (messages passed) (directory.map (·.disturbed others)))
  | unsaved {others message passed left directory reason}
      (passing : Passing passed p.directory (some directory))
      (refused : (directory.disturbed others).save message = .error reason) :
      Ending p (passed ++ ⟨others, .delivered message⟩ :: left)
        (.error (.output reason),
          p.following (messages passed ++ [message]) (some (directory.disturbed others)))

end Printer

variable {arrival : Arrival} {arrivals passed left : List Arrival} {others : Interference}
  {directory directory' last : Option Directory} {message : Received}

@[simp] theorem messages_nil : messages [] = [] := rfl

private theorem Directory.saves_or_refuses (d : Directory) (message : Received) :
    (∃ after, d.Saves message after) ∨ ∃ reason, d.save message = .error reason := by
  cases there : d.files with
  | none => exact .inr ⟨_, by rw [save, there]⟩
  | some files =>
      obtain ⟨number, files', saved, filed⟩ := filed_save there message
      exact .inl ⟨_, saved, files, files', number, there, rfl, filed⟩

private theorem Passing.not_stops (passing : Passing (passed ++ arrival :: left) directory last)
    (reached : Passing passed directory directory') : ¬Stops directory' arrival := by
  induction reached with
  | done =>
      intro stops
      cases stops with
      | failed fatal =>
          cases passing with
          | transient recovers => cases recovers.symm.trans fatal
      | unsaved refused =>
          cases passing with
          | saved saves => cases saves.1.symm.trans refused
  | transient _ _ ih => cases passing with | transient _ rest => exact ih rest
  | printed _ ih => cases passing with | printed rest => exact ih rest
  | saved saves _ ih =>
      cases passing with
      | saved saves' rest =>
          cases saves.1.symm.trans saves'.1
          exact ih rest

namespace Printer

variable {p : Printer} {ending : Except ConsumptionError Unit × Printer}

@[simp] theorem following_following (p : Printer) (first second : List Received)
    (directory directory' : Option Directory) :
    (p.following first directory).following second directory' =
      p.following (first ++ second) directory' := by
  simp [following]

@[simp] private theorem following_nil (p : Printer) : p.following [] p.directory = p := by
  simp [following]

private theorem meets_eq (p : Printer) (arrival : Arrival) :
    p.meets arrival = p.following [] (p.directory.map (·.disturbed arrival.others)) := by
  simp [meets, following]

private theorem accept_printed (chosen : p.directory = none) :
    (p.meets ⟨others, .delivered message⟩).accept (.delivered message) =
      (.ok (), p.following [message] none) := by
  simp [meets, accept, print, chosen, following]

private theorem accept_saved {d after : Directory} (chosen : p.directory = some d)
    (saved : (d.disturbed others).save message = .ok after) :
    (p.meets ⟨others, .delivered message⟩).accept (.delivered message) =
      (.ok (), p.following [message] (some after)) := by
  simp [meets, accept, print, chosen, saved, following]

private theorem accept_refused {d : Directory} {reason : String} (chosen : p.directory = some d)
    (refused : (d.disturbed others).save message = .error reason) :
    (p.meets ⟨others, .delivered message⟩).accept (.delivered message) =
      (.error (.output reason), p.following [message] (some (d.disturbed others))) := by
  simp [meets, accept, print, chosen, refused, following]

theorem Ending.cons {printed : List Received} (ends : Ending (p.following printed directory) arrivals ending)
    (goesBy : ∀ {passed last}, Passing passed directory last → Passing (arrival :: passed) p.directory last)
    (holds : ∀ passed, messages (arrival :: passed) = printed ++ messages passed) :
    Ending p (arrival :: arrivals) ending := by
  cases ends with
  | finished passing =>
      rw [following_following, ← holds]
      exact .finished (goesBy passing)
  | failed passing fatal =>
      rw [following_following, ← holds]
      exact .failed (goesBy passing) fatal
  | unsaved passing refused =>
      rw [following_following, ← List.append_assoc, ← holds]
      exact .unsaved (goesBy passing) refused

private theorem ending_consumeBeside (p : Printer) (arrivals : List Arrival) :
    Ending p arrivals (p.consumeBeside arrivals) := by
  induction arrivals generalizing p with
  | nil =>
      have ends := Ending.finished (p := p) .done
      rwa [messages_nil, following_nil] at ends
  | cons arrival rest ih =>
      obtain ⟨others, envelope⟩ := arrival
      cases envelope with
      | failed e =>
          rw [consumeBeside, meets_eq, accept]
          cases transient : e.isTransient with
          | true => exact (ih _).cons (.transient transient) fun _ => rfl
          | false => exact .failed .done transient
      | delivered message =>
          rw [consumeBeside]
          cases chosen : p.directory with
          | none =>
              rw [accept_printed chosen]
              exact (ih _).cons (fun passing => chosen ▸ .printed passing) fun _ => rfl
          | some d =>
              rcases (d.disturbed others).saves_or_refuses message with ⟨after, saves⟩ | ⟨reason, refused⟩
              · rw [accept_saved chosen saves.1]
                exact (ih _).cons (fun passing => chosen ▸ .saved saves passing) fun _ => rfl
              · rw [accept_refused chosen refused]
                have passing : Passing [] p.directory (some d) := chosen ▸ .done
                exact .unsaved passing refused

private theorem meets_alone (p : Printer) (envelope : Envelope Received) : p.meets (.alone envelope) = p := by
  have same : (fun d : Directory => d.disturbed id) = id := rfl
  simp [meets, Arrival.alone, same]

private theorem consumeBeside_alone (p : Printer) (envelopes : List (Envelope Received)) :
    p.consumeBeside (envelopes.map .alone) = p.consume envelopes := by
  induction envelopes generalizing p with
  | nil => rfl
  | cons envelope rest ih =>
      rw [List.map_cons, consumeBeside, consume, meets_alone]
      have envelope_alone : (Arrival.alone envelope).envelope = envelope := rfl
      rw [envelope_alone]
      split
      · exact ih _
      · rfl

/-- A consumption ends well exactly if nothing that it reaches stops it; and `consume` is the case in which
nobody else uses the directory. -/
theorem consumes_until_stopped (p : Printer) (arrivals : List Arrival) :
    Ending p arrivals (p.consumeBeside arrivals) ∧
      ((p.consumeBeside arrivals).1 = .ok () ↔
        ∀ passed arrival left directory, arrivals = passed ++ arrival :: left →
          Passing passed p.directory directory → ¬Stops directory arrival) ∧
      ∀ envelopes : List (Envelope Received),
        p.consumeBeside (envelopes.map .alone) = p.consume envelopes := by
  have ends := ending_consumeBeside p arrivals
  refine ⟨ends, ?_, consumeBeside_alone p⟩
  generalize p.consumeBeside arrivals = ending at ends
  constructor
  · intro well passed arrival left directory whole reached
    cases ends with
    | finished passing =>
        rw [whole] at passing
        exact passing.not_stops reached
    | failed => cases well
    | unsaved => cases well
  · intro unstopped
    cases ends with
    | finished => rfl
    | failed passing fatal => exact absurd (.failed fatal) (unstopped _ _ _ _ rfl passing)
    | unsaved passing refused => exact absurd (.unsaved refused) (unstopped _ _ _ _ rfl passing)

/-- The directory is gone when the second message comes, and the third is not reached. -/
theorem consumes_until_stopped_by_missing_directory :
    let p : Printer := ⟨.jsonLines, [], some ⟨"saved", some [("amqptap-0.json", "old")]⟩⟩
    let message (key : String) : Envelope Received :=
      .delivered ⟨{ (default : Delivery) with routingKey := key }, ⟨0, 0⟩⟩
    let arrivals : List Arrival :=
      [.alone (.failed (.setup "a" (.operation "b"))), .alone (message "first"),
        ⟨fun _ => none, message "second"⟩, .alone (message "third")]
    ∃ q, p.consumeBeside arrivals = (.error (.output "Failed to create saved/amqptap-0.json"), q) ∧
      q.printed.length = 2 ∧ Ending p arrivals (p.consumeBeside arrivals) ∧
      ¬∀ passed arrival left directory, arrivals = passed ++ arrival :: left →
          Passing passed p.directory directory → ¬Stops directory arrival := by
  intro p message arrivals
  obtain ⟨ends, well, -⟩ := consumes_until_stopped p arrivals
  have result : (p.consumeBeside arrivals).1 = .error (.output "Failed to create saved/amqptap-0.json") := by
    decide +kernel
  refine ⟨_, Prod.ext result rfl, by decide +kernel, ends, fun unstopped => ?_⟩
  rw [well.mpr unstopped] at result
  cases result

end Printer

end ExchangeTap
