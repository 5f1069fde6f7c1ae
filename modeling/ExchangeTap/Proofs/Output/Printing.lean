import ExchangeTap.Output.Consumption

namespace ExchangeTap

private theorem Directory.save_of_files {d : Directory} (there : d.files ≠ none) (message : Received) :
    ∃ saved : Directory, d.save message = .ok saved ∧ saved.files ≠ none := by
  unfold Directory.save
  cases found : d.files with
  | none => exact absurd found there
  | some files => exact ⟨_, rfl, nofun⟩

namespace Printer

def Ready (p : Printer) : Prop :=
  ∀ directory ∈ p.directory, directory.files ≠ none

variable {p : Printer}

theorem ready_of_create {format : OutputFormat} {directory : Option Directory}
    (created : create format directory = .ok p) : p.Ready ∧ p.format = format ∧ p.printed = [] := by
  unfold create at created
  split at created
  next => cases created
  next clear =>
    cases created
    refine ⟨?_, rfl, rfl⟩
    rintro ⟨path, files⟩ chosen missing
    exact clear path (by rw [← show files = none from missing]; exact chosen)

theorem Ready.print (ready : p.Ready) (message : Received) :
    ∃ q : Printer, p.print message = (.ok (), q) ∧ q.Ready ∧ q.format = p.format ∧
      q.printed = p.printed ++ [p.format.render message] := by
  unfold Printer.print
  dsimp only
  cases chosen : p.directory with
  | none => exact ⟨_, rfl, nofun, rfl, rfl⟩
  | some directory =>
      obtain ⟨saved, save, there⟩ := Directory.save_of_files (ready directory chosen) message
      simp only [save]
      exact ⟨_, rfl, fun other here => Option.some.inj here ▸ there, rfl, rfl⟩

theorem Ready.consume (ready : p.Ready) (messages : List Received) :
    ∃ q : Printer, p.consume (messages.map .delivered) = (.ok (), q) ∧
      q.printed = p.printed ++ messages.map fun message => p.format.render message := by
  induction messages generalizing p with
  | nil => exact ⟨p, rfl, (List.append_nil _).symm⟩
  | cons message rest ih =>
      obtain ⟨next, printed, ready, format, text⟩ := ready.print message
      obtain ⟨last, consumed, texts⟩ := ih ready
      refine ⟨last, ?_, ?_⟩
      · simp only [List.map_cons, Printer.consume, accept, printed]
        exact consumed
      · rw [texts, text, format, List.append_assoc]
        rfl

end Printer

end ExchangeTap
