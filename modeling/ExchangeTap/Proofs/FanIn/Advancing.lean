import ExchangeTap.FanIn.Merge

namespace ExchangeTap

variable {inputs : Inputs σ T} {s t : σ} {P : σ → Prop}

namespace Merge

theorem mem_order {m : Merge T} {input : Nat} : input ∈ m.order ↔ input ∈ m.openInputs := by
  have parts := List.take_append_drop (m.round % m.openInputs.length) m.openInputs
  rw [order, List.mem_append, or_comm, ← List.mem_append, parts]

private theorem glance_of_scan {order : List Nat} {input : Nat} {glance : Glance T}
    (scanned : scan inputs s order = (some (input, glance), t)) : glance ≠ .nothing := by
  induction order generalizing s with
  | nil => cases scanned
  | cons first rest ih =>
      cases looked : inputs.look s first with
      | mk seen after =>
          rw [scan, looked] at scanned
          cases seen with
          | nothing => exact ih scanned
          | item | closed | failure =>
              cases scanned
              exact fun same => nomatch same

theorem mem_of_scan {order : List Nat} {input : Nat} {glance : Glance T}
    (scanned : scan inputs s order = (some (input, glance), t)) : input ∈ order := by
  induction order generalizing s with
  | nil => cases scanned
  | cons first rest ih =>
      rw [scan] at scanned
      split at scanned
      · exact List.mem_cons_of_mem _ (ih scanned)
      · cases scanned
        exact List.mem_cons_self

private theorem scan_keeps {order : List Nat} {found : Option (Nat × Glance T)}
    (looks : ∀ {s t input glance}, P s → inputs.look s input = (glance, t) → P t) (holds : P s)
    (scanned : scan inputs s order = (found, t)) : P t := by
  induction order generalizing s with
  | nil =>
      cases scanned
      exact holds
  | cons input rest ih =>
      rw [scan] at scanned
      split at scanned <;> rename_i looked
      · exact ih (looks holds looked) scanned
      · cases scanned
        exact looks holds looked

private theorem releaseAll_keeps (m : Merge T)
    (releases : ∀ {s input}, P s → P (inputs.release s input)) (holds : P s) :
    P (m.releaseAll inputs s) := by
  unfold releaseAll
  induction m.openInputs generalizing s with
  | nil => exact holds
  | cons input rest ih => exact ih (releases holds)

end Merge

namespace FanIn

variable {f g : FanIn T}

inductive Advances (inputs : Inputs σ T) (f : FanIn T) (s : σ) : FanIn T → σ → Prop where
  | finishes (running : f.merge.isRunning = true) (stopped : f.stopRequested = true) :
      Advances inputs f s (f.finish inputs s).1 (f.finish inputs s).2
  | waits {round : Nat} {after : σ} (phase : f.merge.phase = .choosing none)
      (unstopped : f.stopRequested = false)
      (scanned : Merge.scan inputs s f.merge.order = (none, after)) :
      Advances inputs f s
        { f with merge := { f.merge with
            round := round
            phase := .choosing (some f.merge.order) } } after
  | takes {kept : Option (List Nat)} {input round : Nat} {value : T} {after : σ}
      (phase : f.merge.phase = .choosing kept) (unstopped : f.stopRequested = false)
      (scanned : Merge.scan inputs s (kept.getD f.merge.order) =
        (some (input, .item value), after)) :
      Advances inputs f s
        { f with merge := { f.merge with round := round, phase := .sending input value } } after
  | closes {kept : Option (List Nat)} {input round : Nat} {after : σ}
      (phase : f.merge.phase = .choosing kept) (unstopped : f.stopRequested = false)
      (scanned : Merge.scan inputs s (kept.getD f.merge.order) = (some (input, .closed), after)) :
      Advances inputs f s
        { f with merge := ⟨f.merge.openInputs.filter (· ≠ input), round, .choosing none⟩ }
        (inputs.release after input)
  | crashes {kept : Option (List Nat)} {input round : Nat} {after : σ}
      (phase : f.merge.phase = .choosing kept) (unstopped : f.stopRequested = false)
      (scanned : Merge.scan inputs s (kept.getD f.merge.order) = (some (input, .failure), after)) :
      Advances inputs f s
        { f with merge := ⟨[], round, .crashed⟩ } (f.merge.releaseAll inputs after)
  | gives {input : Nat} {item : T} (phase : f.merge.phase = .sending input item)
      (unstopped : f.stopRequested = false) (room : f.outlet = none) :
      Advances inputs f s
        { f with
          merge := { f.merge with phase := .choosing none }
          outlet := some (input, item) } s

theorem advances_of_advance (advanced : f.advance inputs s = some (g, t)) :
    f.Advances inputs s g t := by
  unfold advance at advanced
  dsimp only at advanced
  split at advanced
  · cases advanced
  · cases advanced
  · rename_i kept phase
    have running : f.merge.isRunning = true := by simp [Merge.isRunning, phase]
    split at advanced
    · rename_i stopped
      cases advanced
      exact .finishes running stopped
    · rename_i going
      have unstopped := Bool.eq_false_iff.mpr going
      split at advanced
      · cases advanced
      · split at advanced <;> rename_i scanned
        · cases kept with
          | none =>
              cases advanced
              exact .waits phase unstopped scanned
          | some order => cases advanced
        · cases advanced
          exact .takes phase unstopped scanned
        · cases advanced
          exact .crashes phase unstopped scanned
        · rename_i input glance after noItem noFailure
          cases advanced
          cases glance with
          | closed => exact .closes phase unstopped scanned
          -- no round stops at an input that has nothing
          | nothing => exact absurd rfl (Merge.glance_of_scan scanned)
          | item value => cases noItem value rfl
          | failure => cases noFailure rfl
  · rename_i input item phase
    have running : f.merge.isRunning = true := by simp [Merge.isRunning, phase]
    split at advanced
    · rename_i stopped
      cases advanced
      exact .finishes running stopped
    · rename_i going
      split at advanced <;> rename_i room <;> cases advanced
      exact .gives phase (Bool.eq_false_iff.mpr going) room

theorem running_of_advance (advanced : f.advance inputs s = some (g, t)) :
    f.merge.isRunning = true := by
  cases advances_of_advance advanced with
  | finishes running => exact running
  | waits phase | takes phase | closes phase | crashes phase | gives phase =>
      simp [Merge.isRunning, phase]

theorem stopRequested_advance (advanced : f.advance inputs s = some (g, t)) :
    g.stopRequested = f.stopRequested := by
  cases advances_of_advance advanced <;> rfl

theorem advance_keeps (looks : ∀ {s t input glance}, P s → inputs.look s input = (glance, t) → P t)
    (releases : ∀ {s input}, P s → P (inputs.release s input)) (holds : P s)
    (advanced : f.advance inputs s = some (g, t)) : P t := by
  cases advances_of_advance advanced with
  | finishes => exact f.merge.releaseAll_keeps releases holds
  | waits _ _ scanned | takes _ _ scanned => exact Merge.scan_keeps looks holds scanned
  | closes _ _ scanned => exact releases (Merge.scan_keeps looks holds scanned)
  | crashes _ _ scanned =>
      exact f.merge.releaseAll_keeps releases (Merge.scan_keeps looks holds scanned)
  | gives => exact holds

inductive Receives (f : FanIn T) : Poll (Option (Nat × T)) → FanIn T → Prop where
  | gives {item : Nat × T} (outlet : f.outlet = some item) :
      Receives f (.ready (some item)) { f with outlet := none }
  | ends (empty : f.outlet = none)
      (ending : f.stopRequested = true ∨ f.merge.isRunning = false) : Receives f (.ready none) f
  | waits (empty : f.outlet = none) : Receives f .pending f

theorem receives_of_receive {result : Poll (Option (Nat × T))}
    (received : f.receive = (result, g)) : f.Receives result g := by
  unfold receive at received
  split at received
  · rename_i outlet
    cases received
    exact .gives outlet
  · rename_i empty
    split at received <;> rename_i ending <;> cases received
    · exact .ends empty (by simpa using ending)
    · exact .waits empty

theorem merge_receive {result : Poll (Option (Nat × T))} (received : f.receive = (result, g)) :
    g.merge = f.merge := by
  cases receives_of_receive received <;> rfl

theorem outlet_of_receive {item : Nat × T} (received : f.receive = (.ready (some item), g)) :
    f.outlet = some item := by
  cases receives_of_receive received with
  | gives outlet => exact outlet

theorem outlet_of_pending (pending : f.receive = (.pending, g)) : f.outlet = none := by
  cases receives_of_receive pending with
  | waits empty => exact empty

end FanIn

end ExchangeTap
