import ExchangeTap.Proofs.FanIn.Advancing
import ExchangeTap.Proofs.Worker.Conduct
import ExchangeTap.Worker.Forward

namespace ExchangeTap

namespace FanIn

/-- A merge that has ended listens to nothing, and one that waits has looked at open inputs only. -/
structure Tidy (f : FanIn T) : Prop where
  ended : f.merge.isRunning = false → f.merge.openInputs = []
  kept : ∀ order, f.merge.phase = .choosing (some order) → ∀ input ∈ order,
    input ∈ f.merge.openInputs

theorem tidy_start (count : Nat) : (start count : FanIn T).Tidy :=
  ⟨fun ended => (nomatch ended), fun _ kept => (nomatch kept)⟩

theorem Tidy.congr {f g : FanIn T} (tidy : f.Tidy) (merge : g.merge = f.merge) : g.Tidy := by
  refine ⟨?_, ?_⟩
  · rw [merge]
    exact tidy.ended
  · rw [merge]
    exact tidy.kept

end FanIn

namespace Item

def isControl (consumers : List Nat) (input : Nat) : Bool :=
  consumers[input]?.isNone

def listener (consumers inputs : List Nat) : Option Reader :=
  if inputs.any (isControl consumers) then some .merge else none

theorem listener_of_mem {consumers inputs : List Nat} {input : Nat} (member : input ∈ inputs)
    (control : isControl consumers input = true) :
    listener consumers inputs = some .merge :=
  if_pos (List.any_eq_true.mpr ⟨input, member, control⟩)

variable {consumers : List Nat} {s t : Stage} {user : Option Reader}

private theorem look_spec {input : Nat} {glance : Glance Item}
    (hears : isControl consumers input = true → user = some .merge)
    (used : s.control.UsedBy user) (looked : (inputs consumers).look s input = (glance, t)) :
    s.Worked t ∧ t.control.UsedBy user := by
  simp only [inputs] at looked
  split at looked
  · split at looked
    · cases looked
      exact ⟨Stage.Worked.refl s, used⟩
    · split at looked
      · cases looked
        exact ⟨(Stage.quiet_broker s (by rfl)).worked, used⟩
      · cases looked
        exact ⟨Stage.Worked.refl s, used⟩
  · rename_i absent
    cases hears (by simp [isControl, absent])
    cases polled : s.pollControl .merge with
    | mk result after =>
        have worked := Stage.worked_pollControl used (by decide) polled
        have usedAfter : after.control.UsedBy (some .merge) := by
          have either := Stage.usedBy_pollControl used polled
          split at either
          · exact either
          · exact either.weaken _
        rw [polled] at looked
        split at looked <;> rename_i answer <;> cases answer <;> cases looked <;>
          exact ⟨worked, usedAfter⟩

private theorem scan_spec {order : List Nat} {found : Option (Nat × Glance Item)}
    (hears : ∀ input ∈ order, isControl consumers input = true → user = some .merge)
    (used : s.control.UsedBy user)
    (scanned : Merge.scan (inputs consumers) s order = (found, t)) :
    s.Worked t ∧ t.control.UsedBy user := by
  induction order generalizing s with
  | nil =>
      cases scanned
      exact ⟨Stage.Worked.refl _, used⟩
  | cons input rest ih =>
      cases looked : (inputs consumers).look s input with
      | mk glance after =>
          obtain ⟨worked, usedAfter⟩ :=
            look_spec (hears input List.mem_cons_self) used looked
          rw [Merge.scan, looked] at scanned
          split at scanned
          · rename_i nothing
            cases nothing
            obtain ⟨further, usedLast⟩ :=
              ih (fun other member => hears other (List.mem_cons_of_mem _ member))
                usedAfter scanned
            exact ⟨worked.trans further, usedLast⟩
          · rename_i glance after _ something
            cases something
            cases scanned
            exact ⟨worked, usedAfter⟩

private theorem release_spec {input : Nat}
    (hears : isControl consumers input = true → user = some .merge)
    (used : s.control.UsedBy user) :
    s.Worked ((inputs consumers).release s input) ∧
      ((inputs consumers).release s input).control.UsedBy
        (if isControl consumers input then none else user) := by
  simp only [inputs]
  cases present : consumers[input]? with
  | some index =>
      simp only [isControl, present]
      exact ⟨(Stage.quiet_stopReading s index).worked, used⟩
  | none =>
      have control : isControl consumers input = true := by simp [isControl, present]
      cases hears control
      simp only [control]
      exact ⟨Stage.worked_cancelControl used, ControlPath.usedBy_cancel used⟩

private theorem releases_spec {open_ : List Nat} (used : s.control.UsedBy (listener consumers open_)) :
    s.Worked (open_.foldl (inputs consumers).release s) ∧
      (open_.foldl (inputs consumers).release s).control.UsedBy none := by
  induction open_ generalizing s with
  | nil => exact ⟨Stage.Worked.refl s, used⟩
  | cons input rest ih =>
      obtain ⟨worked, usedAfter⟩ :=
        release_spec (listener_of_mem List.mem_cons_self) used
      have usedByRest :
          ((inputs consumers).release s input).control.UsedBy (listener consumers rest) := by
        cases control : isControl consumers input with
        | true =>
            rw [control] at usedAfter
            exact usedAfter.weaken _
        | false => simpa [control, listener] using usedAfter
      obtain ⟨further, usedLast⟩ := ih usedByRest
      exact ⟨worked.trans further, usedLast⟩

end Item

namespace FanIn

variable {consumers : List Nat} {f g : FanIn Item} {s t : Stage}

private theorem finish_spec
    (used : s.control.UsedBy (Item.listener consumers f.merge.openInputs))
    (finished : f.finish (Item.inputs consumers) s = (g, t)) :
    s.Worked t ∧ g.Tidy ∧
      t.control.UsedBy (Item.listener consumers g.merge.openInputs) := by
  cases finished
  obtain ⟨worked, usedAfter⟩ := Item.releases_spec used
  exact ⟨worked, ⟨fun _ => rfl, fun _ kept => (nomatch kept)⟩, usedAfter⟩

/-- Closing one input takes the place at the lock away only with the control path. -/
private theorem listener_without {open_ : List Nat} {input : Nat}
    (used : t.control.UsedBy
      (if Item.isControl consumers input then none else Item.listener consumers open_)) :
    t.control.UsedBy (Item.listener consumers (open_.filter (· ≠ input))) := by
  cases control : Item.isControl consumers input with
  | true =>
      rw [control] at used
      exact used.weaken _
  | false =>
      rw [control] at used
      have same : Item.listener consumers (open_.filter (· ≠ input)) =
          Item.listener consumers open_ := by
        unfold Item.listener
        congr 1
        rw [List.any_filter, eq_iff_iff]
        simp only [List.any_eq_true]
        constructor
        · rintro ⟨other, member, both⟩
          exact ⟨other, member, (Bool.and_eq_true_iff.mp both).2⟩
        · rintro ⟨other, member, hears⟩
          refine ⟨other, member, Bool.and_eq_true_iff.mpr ⟨?_, hears⟩⟩
          rw [decide_eq_true_iff]
          rintro rfl
          rw [control] at hears
          cases hears
      rw [same]
      exact used

private theorem Tidy.open_of_kept {kept : Option (List Nat)} (tidy : f.Tidy)
    (phase : f.merge.phase = .choosing kept) :
    ∀ input ∈ kept.getD f.merge.order, input ∈ f.merge.openInputs := by
  intro input member
  cases kept with
  | none => exact Merge.mem_order.mp member
  | some order => exact tidy.kept order phase input member

private theorem Tidy.scan_spec {kept : Option (List Nat)} {found : Option (Nat × Glance Item)}
    (tidy : f.Tidy) (phase : f.merge.phase = .choosing kept)
    (used : s.control.UsedBy (Item.listener consumers f.merge.openInputs))
    (scanned : Merge.scan (Item.inputs consumers) s (kept.getD f.merge.order) = (found, t)) :
    s.Worked t ∧ t.control.UsedBy (Item.listener consumers f.merge.openInputs) :=
  Item.scan_spec
    (fun input member => Item.listener_of_mem (tidy.open_of_kept phase input member)) used scanned

private theorem advance_spec (tidy : f.Tidy)
    (used : s.control.UsedBy (Item.listener consumers f.merge.openInputs))
    (advanced : f.advance (Item.inputs consumers) s = some (g, t)) :
    s.Worked t ∧ g.Tidy ∧
      t.control.UsedBy (Item.listener consumers g.merge.openInputs) := by
  cases advances_of_advance advanced with
  | finishes => exact finish_spec used rfl
  | waits phase _ scanned =>
      obtain ⟨worked, usedAfter⟩ := tidy.scan_spec phase used scanned
      refine ⟨worked, ⟨fun ended => (nomatch ended), ?_⟩, usedAfter⟩
      rintro order ⟨⟩
      exact tidy.open_of_kept phase
  | takes phase _ scanned =>
      obtain ⟨worked, usedAfter⟩ := tidy.scan_spec phase used scanned
      exact ⟨worked, ⟨fun ended => (nomatch ended), fun _ kept => (nomatch kept)⟩, usedAfter⟩
  | closes phase _ scanned =>
      obtain ⟨worked, usedAfter⟩ := tidy.scan_spec phase used scanned
      have isOpen := tidy.open_of_kept phase _ (Merge.mem_of_scan scanned)
      obtain ⟨released, usedLast⟩ := Item.release_spec (Item.listener_of_mem isOpen) usedAfter
      exact ⟨worked.trans released,
        ⟨fun ended => (nomatch ended), fun _ kept => (nomatch kept)⟩, listener_without usedLast⟩
  | crashes phase _ scanned =>
      obtain ⟨worked, usedAfter⟩ := tidy.scan_spec phase used scanned
      obtain ⟨released, usedLast⟩ := Item.releases_spec usedAfter
      exact ⟨worked.trans released, ⟨fun _ => rfl, fun _ kept => (nomatch kept)⟩, usedLast⟩
  | gives =>
      exact ⟨.refl _, ⟨fun ended => (nomatch ended), fun _ kept => (nomatch kept)⟩, used⟩

/-- Who may hold the lock for a worker: its merge, or without a merge the worker itself. -/
def lockUser (own : Option Reader) (consumers : List Nat) : Option (FanIn Item) → Option Reader
  | some f => Item.listener consumers f.merge.openInputs
  | none => own

/-- How a worker with or without a merge stands towards the lock. Before the merge is there, and
when it never will be, only the worker itself (`own`) may hold the lock; the worker returns when its
merge has ended. -/
structure Employed (before returned : Bool) (own : Option Reader) (consumers : List Nat)
    (fanIn : Option (FanIn Item)) (control : ControlPath Reader) : Prop where
  tidy : ∀ f, fanIn = some f → f.Tidy
  absent : before = true → fanIn = none
  ended : returned = true → ∀ f, fanIn = some f → f.merge.isRunning = false
  used : control.UsedBy (lockUser own consumers fanIn)

variable {before returned : Bool} {own : Option Reader} {control : ControlPath Reader}

theorem Employed.of_none (used : control.UsedBy own) :
    Employed before returned own consumers none control :=
  ⟨fun _ same => (nomatch same), fun _ => rfl, fun _ _ same => (nomatch same), used⟩

theorem Employed.of_some (tidy : f.Tidy) (late : before = false)
    (ended : returned = true → f.merge.isRunning = false)
    (used : control.UsedBy (Item.listener consumers f.merge.openInputs)) :
    Employed before returned own consumers (some f) control := by
  refine ⟨?_, ?_, ?_, used⟩
  · rintro _ ⟨⟩
    exact tidy
  · rw [late]
    exact fun same => nomatch same
  · rintro concluded _ ⟨⟩
    exact ended concluded

theorem employed_without_merge (used : s.control.UsedBy none) (quiet : s.Quiet t) :
    s.Worked t ∧ Employed before returned own consumers none t.control :=
  ⟨quiet.worked, .of_none ((quiet.usedBy used).weaken _)⟩

theorem employed_with_merge (tidy : f.Tidy) (same : g.merge = f.merge) (late : before = false)
    (unfinished : returned = false)
    (used : s.control.UsedBy (Item.listener consumers f.merge.openInputs)) (quiet : s.Quiet t) :
    s.Worked t ∧ Employed before returned own consumers (some g) t.control := by
  refine ⟨quiet.worked, .of_some (tidy.congr same) late ?_ ?_⟩
  · rw [unfinished]
    exact fun concluded => nomatch concluded
  · rw [same]
    exact quiet.usedBy used

theorem Employed.released {fanIn : Option (FanIn Item)}
    (employed : Employed before true none consumers fanIn control) : control.UsedBy none := by
  cases fanIn with
  | none => exact employed.used
  | some f =>
      have nothing := (employed.tidy f rfl).ended (employed.ended rfl f rfl)
      simpa [lockUser, nothing, Item.listener] using employed.used

theorem Employed.advance (employed : Employed before returned own consumers (some f) s.control)
    (advanced : f.advance (Item.inputs consumers) s = some (g, t)) :
    s.Worked t ∧ Employed before returned own consumers (some g) t.control := by
  obtain ⟨worked, tidy, used⟩ := advance_spec (employed.tidy f rfl) employed.used advanced
  refine ⟨worked, .of_some tidy ?_ ?_ used⟩
  · cases before with
    | false => rfl
    | true => exact nomatch employed.absent rfl
  · intro concluded
    cases (employed.ended concluded f rfl).symm.trans (running_of_advance advanced)

end FanIn

namespace Forward

variable {s t : Stage}

private theorem quiet_accept (input : Nat) (item : Item) (s : Stage) :
    s.Quiet (accept input item s).2 := by
  cases item with
  | delivery result =>
      cases result with
      | ok delivery => exact .refl s
      | error e => exact Stage.quiet_log s _
  | signal value => cases value <;> exact Stage.quiet_log s _

theorem step_spec {forward : Forward} {fanIn after : FanIn Item} {outcome : Outcome}
    (stepped : forward.step fanIn s = some (outcome, after, t)) :
    s.Quiet t ∧ after.merge = fanIn.merge := by
  cases forward with
  | waiting =>
      simp only [step] at stepped
      split at stepped <;> rename_i received <;> cases stepped
      · exact ⟨.refl _, FanIn.merge_receive received⟩
      · exact ⟨quiet_accept _ _ s, FanIn.merge_receive received⟩
  | sending input message =>
      simp only [step] at stepped
      split at stepped <;> rename_i handed <;> cases stepped
      · exact ⟨Stage.quiet_log s _, rfl⟩
      · exact ⟨Stage.quiet_hand handed, rfl⟩

end Forward

end ExchangeTap
