import ExchangeTap.Proofs.FanIn.Rounds

/-! The start of the rounds moves on by one input from round to round, so an input that stays ready
moves up to the front, and is at worst thrown back when another one closes. -/

namespace ExchangeTap

/-- An input that is ready, and stays so whatever is done to the others. -/
structure Inputs.Standing (inputs : Inputs σ T) (count : Nat) (ready : σ → Prop) (input : Nat) :
    Prop where
  item : ∀ {s}, ready s → ∃ value t, inputs.look s input = (.item value, t)
  looks : ∀ {s t other glance}, ready s → other < count → other ≠ input →
    inputs.look s other = (glance, t) → ready t
  releases : ∀ {s other}, ready s → other < count → other ≠ input →
    ready (inputs.release s other)

variable {inputs : Inputs σ T} {count input : Nat} {ready : σ → Prop} {s t : σ}

theorem Inputs.Standing.scan (standing : inputs.Standing count ready input) (isReady : ready s)
    {order : List Nat} {found : Option (Nat × Glance T)} (member : input ∈ order)
    (known : ∀ other ∈ order, other < count)
    (scanned : Merge.scan inputs s order = (found, t)) :
    (∃ value, found = some (input, .item value)) ∨
      ∃ other glance, found = some (other, glance) ∧ other ≠ input ∧ ready t ∧
        order.head? ≠ some input := by
  induction order generalizing s with
  | nil => cases member
  | cons first rest ih =>
      by_cases here : first = input
      · subst here
        obtain ⟨value, after, looked⟩ := standing.item isReady
        rw [Merge.scan, looked] at scanned
        cases scanned
        exact .inl ⟨value, rfl⟩
      · have later : input ∈ rest := (List.mem_cons.mp member).resolve_left (Ne.symm here)
        have behind : (first :: rest).head? ≠ some input := by simpa using here
        cases looked : inputs.look s first with
        | mk glance after =>
            have still : ready after :=
              standing.looks isReady (known first List.mem_cons_self) here looked
            rw [Merge.scan, looked] at scanned
            cases glance with
            | nothing =>
                have others : ∀ other ∈ rest, other < count :=
                  fun other among => known other (List.mem_cons_of_mem _ among)
                rcases ih still later others scanned with served | ⟨other, glance, found, elsewhere⟩
                · exact .inl served
                · exact .inr ⟨other, glance, found, elsewhere.1, elsewhere.2.1, behind⟩
            | item | closed | failure =>
                cases scanned
                exact .inr ⟨first, _, rfl, here, still, behind⟩

namespace Merge

/-- How many inputs are looked at before this one in the round that goes on or comes next. -/
def place (m : Merge T) (input : Nat) : Nat :=
  m.rota.idxOf input

variable {m : Merge T}

private theorem place_lt (isOpen : input ∈ m.openInputs) : m.place input < m.openInputs.length := by
  rw [← m.openInputs.length_rotate m.number]
  exact List.idxOf_lt_length_iff.mpr (mem_rota.mpr isOpen)

private theorem place_pos (behind : m.rota.head? ≠ some input) (isOpen : input ∈ m.openInputs) :
    0 < m.place input := by
  have nonempty : m.rota ≠ [] := List.ne_nil_of_mem (mem_rota.mpr isOpen)
  refine Nat.pos_of_ne_zero fun first => behind ?_
  have head := (List.idxOf_eq_zero_iff_head_eq nonempty).mp first
  rw [List.head?_eq_some_head nonempty, head]

private theorem place_succ {l : List Nat} {number : Nat} (member : input ∈ l)
    (behind : (l.rotate number).head? ≠ some input) :
    (l.rotate (number + 1)).idxOf input + 1 = (l.rotate number).idxOf input := by
  have among : input ∈ l.rotate number := List.mem_rotate.mpr member
  rw [← List.rotate_rotate]
  cases order : l.rotate number with
  | nil => simp [order] at among
  | cons first rest =>
      rw [order] at among behind
      have other : first ≠ input := fun same => behind (by simp [same])
      have later : input ∈ rest := (List.mem_cons.mp among).resolve_left other.symm
      simp [List.idxOf_cons_ne _ other, List.idxOf_append_of_mem later]

end Merge

namespace FanIn

variable {f g : FanIn T} {deeds after : List Deed} {turn : Turn σ}

/-- The input is open and ready, unless the merge has come to its end. -/
structure Awaits (count : Nat) (ready : σ → Prop) (input : Nat) (f : FanIn T) (s : σ) : Prop where
  regular : f.Regular count
  isOpen : f.merge.isRunning = true → input ∈ f.merge.openInputs
  ready : f.merge.isRunning = true → ready s

inductive Passes (f : FanIn T) (input : Nat) (g : FanIn T) : List Deed → Prop where
  | serves {done : List Deed} (served : .takes input ∈ done) : Passes f input g done
  | ends {done : List Deed} (halted : g.merge.isRunning = false) (rounds : Deed.rounds done = 0) :
      Passes f input g done
  | rests (running : g.merge.isRunning = f.merge.isRunning)
      (openInputs : g.merge.openInputs = f.merge.openInputs)
      (number : g.merge.number = f.merge.number) : Passes f input g []
  | servesOther (other : Nat) (openInputs : g.merge.openInputs = f.merge.openInputs)
      (number : g.merge.number = (f.merge.number + 1) % Merge.roundLimit)
      (behind : f.merge.rota.head? ≠ some input) (running : f.merge.isRunning = true) :
      Passes f input g [.takes other]
  | closesOther (other : Nat) (among : other ∈ f.merge.openInputs)
      (openInputs : g.merge.openInputs = f.merge.openInputs.filter (· ≠ other))
      (number : g.merge.number = (f.merge.number + 1) % Merge.roundLimit)
      (behind : f.merge.rota.head? ≠ some input) (running : f.merge.isRunning = true) :
      Passes f input g [.releases other, .closes other]

theorem Awaits.scan {kept : Option (List Nat)} {found : Option (Nat × Glance T)}
    {u : σ × List Deed} (standing : inputs.Standing count ready input)
    (awaits : Awaits count ready input f s) (phase : f.merge.phase = .choosing kept)
    (scanned : Merge.scan inputs.recorded (s, deeds) (kept.getD f.merge.order) = (found, u)) :
    u.2 = found.elim [] (fun result => result.2.deeds result.1) ++ deeds ∧
      ((∃ value, found = some (input, .item value)) ∨
        ∃ other glance, found = some (other, glance) ∧ other ≠ input ∧ ready u.1 ∧
          f.merge.rota.head? ≠ some input ∧ other ∈ f.merge.openInputs) := by
  have running : f.merge.isRunning = true := by simp [Merge.isRunning, phase]
  have isOpen := awaits.isOpen running
  obtain ⟨plain, record⟩ := Merge.scan_recorded scanned
  rw [awaits.regular.rota phase] at plain
  refine ⟨record, ?_⟩
  rcases standing.scan (awaits.ready running) (Merge.mem_rota.mpr isOpen)
    (fun other among => awaits.regular.known other (Merge.mem_rota.mp among)) plain with
    served | ⟨other, glance, rfl, elsewhere, still, behind⟩
  · exact .inl served
  · have among : other ∈ f.merge.openInputs := Merge.mem_rota.mp (Merge.mem_of_scan plain)
    exact .inr ⟨other, glance, rfl, elsewhere, still, behind, among⟩

def Paced (f g : FanIn T) (turns : List (Turn σ)) (done : List Deed) : Prop :=
  g.merge.isRunning = true →
    turns.countP Turn.isMerge + g.merge.phase.inHand.length ≤
      2 * Deed.rounds done + f.merge.phase.inHand.length

theorem Awaits.advance {u : σ × List Deed} (standing : inputs.Standing count ready input)
    (awaits : Awaits count ready input f s)
    (advanced : f.advance inputs.recorded (s, deeds) = some (g, u)) :
    ∃ done, u.2 = done ++ deeds ∧ Passes f input g done ∧
      Paced f g [(.merge : Turn σ)] done ∧
      (.takes input ∉ done → Awaits count ready input g u.1) := by
  have running := running_of_advance advanced
  have isOpen := awaits.isOpen running
  have regular := awaits.regular.advance advanced
  cases advances_of_advance advanced with
  | finishes _ stopped =>
      refine ⟨f.merge.openInputs.reverse.map .releases, ?_, .ends rfl (Deed.rounds_releases _),
        nofun, fun _ => ⟨regular, nofun, nofun⟩⟩
      rw [finish, Merge.releaseAll_recorded]
  | waits phase unstopped scanned =>
      rcases (awaits.scan standing phase scanned).2 with ⟨_, found⟩ | ⟨_, _, found, _⟩ <;>
        cases found
  | takes phase unstopped scanned =>
      obtain ⟨record, ⟨value, found⟩ | ⟨other, glance, found, elsewhere, still, behind, _⟩⟩ :=
        awaits.scan standing phase scanned
      · cases found
        exact ⟨_, record, .serves (List.mem_singleton_self _), fun _ => Nat.le_add_right 2 _,
          fun unserved => absurd (List.mem_singleton_self _) unserved⟩
      · cases found
        obtain ⟨_, ⟨⟨_, same⟩, _⟩ | ⟨_, number⟩⟩ :=
          awaits.regular.number phase unstopped advanced
        · cases same
        · exact ⟨_, record, .servesOther _ rfl number behind running, fun _ => Nat.le_add_right 2 _,
            fun _ => ⟨regular, fun _ => isOpen, fun _ => still⟩⟩
  | @closes _ other _ after phase unstopped scanned =>
      obtain ⟨record, ⟨_, found⟩ | ⟨_, _, found, elsewhere, still, behind, among⟩⟩ :=
        awaits.scan standing phase scanned
      · cases found
      · cases found
        obtain ⟨_, ⟨⟨_, same⟩, _⟩ | ⟨_, number⟩⟩ :=
          awaits.regular.number phase unstopped advanced
        · cases same
        · refine ⟨[.releases other, .closes other], ?_,
            .closesOther other among rfl number behind running,
            fun _ => Nat.le_add_right_of_le (Nat.le_succ 1), fun _ => ⟨regular, ?_, ?_⟩⟩
          · exact congrArg (Deed.releases other :: ·) record
          · exact fun _ => List.mem_filter.mpr ⟨isOpen, decide_eq_true elsewhere.symm⟩
          · exact fun _ => standing.releases still (awaits.regular.known _ among) elsewhere
  | @crashes _ other _ after phase unstopped scanned =>
      obtain ⟨record, ⟨_, found⟩ | ⟨_, _, found, _⟩⟩ := awaits.scan standing phase scanned
      · cases found
      · cases found
        refine ⟨f.merge.openInputs.reverse.map .releases, ?_, .ends rfl (Deed.rounds_releases _),
          nofun, fun _ => ⟨regular, nofun, nofun⟩⟩
        rw [Merge.releaseAll_recorded, record]
        rfl
  | gives phase =>
      refine ⟨[], rfl, .rests running.symm rfl ?_, fun _ => ?_,
        fun _ => ⟨regular, fun _ => isOpen, fun _ => awaits.ready running⟩⟩
      · simp [Merge.number, phase]
      · simp [phase, Turn.isMerge]

theorem Awaits.take (standing : inputs.Standing count ready input)
    (awaits : Awaits count ready input f s)
    (steady : ∀ state, turn = .elsewhere state → ready state)
    (taken : take inputs turn (f, s, deeds) = some (g, t, after)) :
    ∃ done, after = done ++ deeds ∧ Passes f input g done ∧ Paced f g [turn] done ∧
      (.takes input ∉ done → Awaits count ready input g t) := by
  have regular := awaits.regular.take taken
  cases turn with
  | merge => exact awaits.advance standing taken
  | receive =>
      cases taken
      have merge : f.receive.2.merge = f.merge := merge_receive rfl
      refine ⟨[], rfl, .rests (by rw [merge]) (by rw [merge]) (by rw [merge]), fun _ => ?_,
        fun _ => ⟨regular, ?_, ?_⟩⟩
      · simp [merge, Turn.isMerge]
      · rw [merge]
        exact awaits.isOpen
      · rw [merge]
        exact awaits.ready
  | stop =>
      cases taken
      exact ⟨[], rfl, .rests rfl rfl rfl, fun _ => Nat.le_of_eq (by simp [Turn.isMerge, FanIn.stop]),
        fun _ => ⟨regular, awaits.isOpen, awaits.ready⟩⟩
  | elsewhere state =>
      cases taken
      exact ⟨[], rfl, .rests rfl rfl rfl, fun _ => Nat.le_of_eq (by simp [Turn.isMerge]),
        fun _ => ⟨regular, awaits.isOpen, fun _ => steady _ rfl⟩⟩

/-- The rounds in which others are served are bounded by the places ahead and, if another input closes,
by all the places that can be lost with that. -/
def Bounded (m : Merge T) (input : Nat) (done : List Deed) : Prop :=
  Deed.rounds done ≤ m.place input ∨
    (∃ other, .closes other ∈ done) ∧ 2 * Deed.rounds done ≤
      2 * m.place input + (m.openInputs.length - 1) * (m.openInputs.length - 2)

private theorem twice_place_le {place length : Nat} (inside : place < length) :
    2 * place + (length - 1) * (length - 2) ≤ length * (length - 1) := by
  obtain ⟨ahead, rfl⟩ : ∃ ahead, length = ahead + 1 := ⟨length - 1, by omega⟩
  calc 2 * place + ahead * (ahead - 1) ≤ 2 * ahead + ahead * (ahead - 1) := by omega
    _ = (ahead + 1) * ahead := by
      cases ahead with
      | zero => rfl
      | succ less =>
          rw [Nat.add_sub_cancel, Nat.mul_comm 2, ← Nat.mul_add, Nat.mul_comm, Nat.add_comm 2]

private theorem Bounded.twice_le {m : Merge T} {done : List Deed} (bounded : Bounded m input done)
    (isOpen : input ∈ m.openInputs) :
    2 * Deed.rounds done ≤ m.openInputs.length * (m.openInputs.length - 1) := by
  have inside := twice_place_le (Merge.place_lt isOpen)
  rcases bounded with few | ⟨_, more⟩ <;> omega

private theorem Bounded.serve {m n : Merge T} {other : Nat} {done : List Deed}
    (bounded : Bounded n input done) (isOpen : input ∈ m.openInputs)
    (openInputs : n.openInputs = m.openInputs) (number : n.number = m.number + 1)
    (behind : m.rota.head? ≠ some input) : Bounded m input (done ++ [.takes other]) := by
  have ahead : n.place input + 1 = m.place input := by
    rw [Merge.place, Merge.rota, openInputs, number]
    exact Merge.place_succ isOpen behind
  have rounds : Deed.rounds (done ++ [.takes other]) = Deed.rounds done + 1 :=
    Deed.rounds_append _ _
  unfold Bounded at bounded ⊢
  rw [rounds]
  rw [openInputs] at bounded
  rcases bounded with few | ⟨⟨closed, among⟩, more⟩
  · exact .inl (by omega)
  · exact .inr ⟨⟨closed, List.mem_append_left _ among⟩, by omega⟩

private theorem Bounded.close {m n : Merge T} {other : Nat} {done : List Deed}
    (bounded : Bounded n input done) (isOpen : input ∈ n.openInputs)
    (openInputs : n.openInputs = m.openInputs.filter (· ≠ other)) (among : other ∈ m.openInputs)
    (pos : 0 < m.place input) :
    Bounded m input (done ++ [.releases other, .closes other]) := by
  have twice := bounded.twice_le isOpen
  have fewer : n.openInputs.length < m.openInputs.length := by
    rw [openInputs]
    exact List.length_filter_lt_length_iff_exists.mpr ⟨other, among, by simp⟩
  have smaller : n.openInputs.length * (n.openInputs.length - 1) ≤
      (m.openInputs.length - 1) * (m.openInputs.length - 2) :=
    Nat.mul_le_mul (by omega) (by omega)
  have rounds : Deed.rounds (done ++ [.releases other, .closes other]) = Deed.rounds done + 1 :=
    Deed.rounds_append _ _
  exact .inr ⟨⟨other, by simp⟩, by omega⟩

private theorem Paced.cons {next : FanIn T} {rest : List (Turn σ)} {now more : List Deed}
    (first : Paced f next [turn] now) (others : Paced next g rest more)
    (lasting : g.merge.isRunning = true → next.merge.isRunning = true) :
    Paced f g (turn :: rest) (more ++ now) := by
  intro running
  have head := first (lasting running)
  have tail := others running
  have turns : (turn :: rest).countP Turn.isMerge =
      [turn].countP Turn.isMerge + rest.countP Turn.isMerge := by
    rw [← List.countP_append]
    rfl
  have rounds := Deed.rounds_append more now
  omega

private theorem Passes.halted {next : FanIn T} {now more : List Deed}
    (passes : Passes f input next now) (unserved : .takes input ∉ now)
    (later : next.merge.isRunning = false → Deed.rounds more = 0 ∧ g.merge.isRunning = false)
    (ended : f.merge.isRunning = false) :
    Deed.rounds (more ++ now) = 0 ∧ g.merge.isRunning = false := by
  cases passes with
  | serves served => exact absurd served unserved
  | ends ended nothing =>
      exact ⟨by rw [Deed.rounds_append, (later ended).1, nothing], (later ended).2⟩
  | rests running =>
      rw [List.append_nil]
      exact later (running.trans ended)
  | servesOther _ _ _ _ running | closesOther _ _ _ _ _ running =>
      exact absurd running (by simp [ended])

/-- What is bounded from the next turn on is so from this one on. -/
private theorem Passes.bounded {next : FanIn T} {now more : List Deed}
    (passes : Passes f input next now) (unserved : .takes input ∉ now)
    (isOpen : f.merge.isRunning = true → input ∈ f.merge.openInputs)
    (stillOpen : next.merge.isRunning = true → input ∈ next.merge.openInputs)
    (none : next.merge.isRunning = false → Deed.rounds more = 0)
    (later : next.merge.number + Deed.rounds more ≤ Merge.roundLimit → Bounded next.merge input more)
    (unwrapped : f.merge.number + Deed.rounds (more ++ now) ≤ Merge.roundLimit) :
    Bounded f.merge input (more ++ now) := by
  have rounds := Deed.rounds_append more now
  cases passes with
  | serves served => exact absurd served unserved
  | ends ended nothing => exact .inl (by have none := none ended; omega)
  | rests running openInputs number =>
      rw [List.append_nil] at unwrapped ⊢
      rw [← number] at unwrapped
      simpa [Bounded, Merge.place, Merge.rota, openInputs, number] using later unwrapped
  | servesOther other openInputs number behind running =>
      have one : Deed.rounds (more ++ [.takes other]) = Deed.rounds more + 1 := rounds
      by_cases counted : f.merge.number + 1 < Merge.roundLimit
      · rw [Nat.mod_eq_of_lt counted] at number
        exact (later (by omega)).serve (isOpen running) openInputs number behind
      · have ahead := Merge.place_pos behind (isOpen running)
        exact .inl (by omega)
  | closesOther other among openInputs number behind running =>
      have ahead := Merge.place_pos behind (isOpen running)
      have one : Deed.rounds (more ++ [.releases other, .closes other]) = Deed.rounds more + 1 := rounds
      cases still : next.merge.isRunning with
      | false => exact .inl (by have none := none still; omega)
      | true =>
          refine (later ?_).close (stillOpen still) openInputs among ahead
          rw [number]
          have counted := Nat.mod_le (f.merge.number + 1) Merge.roundLimit
          omega

/-- As long as its item is not taken, the input waits for a bounded number of rounds. -/
structure Patience (count : Nat) (ready : σ → Prop) (input : Nat) (f : FanIn T)
    (turns : List (Turn σ)) (done : List Deed) (g : FanIn T) (t : σ) : Prop where
  awaits : Awaits count ready input g t
  halted : f.merge.isRunning = false → Deed.rounds done = 0 ∧ g.merge.isRunning = false
  paced : Paced f g turns done
  bounded : f.merge.number + Deed.rounds done ≤ Merge.roundLimit → Bounded f.merge input done

private theorem Awaits.patience {turns : List (Turn σ)} {done : List Deed}
    (standing : inputs.Standing count ready input) (awaits : Awaits count ready input f s)
    (steady : ∀ state, .elsewhere state ∈ turns → ready state)
    (played : play (FanIn.take inputs) turns (f, s, deeds) = some (g, t, done ++ deeds))
    (unserved : .takes input ∉ done) : Patience count ready input f turns done g t := by
  induction turns generalizing f s deeds done with
  | nil =>
      simp only [play_nil, Option.some.injEq, Prod.mk.injEq] at played
      obtain ⟨rfl, rfl, record⟩ := played
      obtain rfl : done = [] := List.self_eq_append_left.mp record
      exact ⟨awaits, fun ended => ⟨rfl, ended⟩, fun _ => Nat.le_refl _,
        fun _ => .inl (Nat.zero_le _)⟩
  | cons turn rest ih =>
      obtain ⟨⟨next, u, after⟩, taken, further⟩ := Option.bind_eq_some_iff.mp played
      obtain ⟨now, rfl, passes, pacedNow, waits⟩ := awaits.take standing
        (fun state same => steady state (same ▸ List.mem_cons_self)) taken
      obtain ⟨more, record⟩ := record_of_play further
      obtain rfl : done = more ++ now := by
        rw [← List.append_assoc] at record
        exact List.append_cancel_right record
      rw [List.append_assoc] at further
      have unservedNow : .takes input ∉ now := fun served =>
        unserved (List.mem_append_right _ served)
      obtain ⟨last, halted, paced, bounded⟩ := ih (waits unservedNow)
        (fun state member => steady state (List.mem_cons_of_mem _ member)) further
        (fun served => unserved (List.mem_append_left _ served))
      have lasting (running : g.merge.isRunning = true) : next.merge.isRunning = true := by
        by_contra ended
        have ended := (halted (Bool.eq_false_iff.mpr ended)).2
        exact absurd running (by simp [ended])
      exact ⟨last, passes.halted unservedNow halted, pacedNow.cons paced lasting,
        passes.bounded unservedNow awaits.isOpen (waits unservedNow).isOpen
          (fun ended => (halted ended).1) bounded⟩

theorem Awaits.stuck (standing : inputs.Standing count ready input)
    (awaits : Awaits count ready input f s) (going : f.Going)
    (stuck : FanIn.take inputs .merge (f, s, deeds) = none) : f.outlet.isSome = true := by
  have running := going.running
  have unstopped := going.unstopped
  simp only [FanIn.take] at stuck
  cases phase : f.merge.phase with
  | ended | crashed => simp [Merge.isRunning, phase] at running
  | sending other item =>
      simp only [FanIn.advance, phase, unstopped, Bool.false_eq_true, if_false] at stuck
      split at stuck
      · rename_i outlet
        simp [outlet]
      · cases stuck
  | choosing kept =>
      have nonempty : f.merge.openInputs.isEmpty = false :=
        List.isEmpty_eq_false_iff.mpr (List.ne_nil_of_mem (awaits.isOpen running))
      cases scanned : Merge.scan inputs.recorded (s, deeds) (kept.getD f.merge.order) with
      | mk found after =>
          simp only [FanIn.advance, phase, unstopped, nonempty, scanned, Bool.false_eq_true,
            if_false] at stuck
          rcases (awaits.scan standing phase scanned).2 with ⟨_, rfl⟩ | ⟨_, glance, rfl, _⟩
          · cases stuck
          · cases glance <;> cases stuck

end FanIn

/-- From whenever on the input is open and ready, and as long as it is and its item is not taken, only so
many rounds go to others before the count of the rounds begins anew. The merge does not pause meanwhile:
it comes to a standstill only for want of room, and a turn of it ends a round or hands on an item. -/
def Inputs.ServesInTurn (inputs : Inputs σ T) (count : Nat) (ready : σ → Prop) (input : Nat) : Prop :=
  ∀ {begin s t f g past done turns more},
    play (FanIn.take inputs) turns (.start count, begin, []) = some (f, s, past) →
    input ∈ f.merge.openInputs → ready s →
    play (FanIn.take inputs) more (f, s, []) = some (g, t, done) →
    (∀ state, .elsewhere state ∈ more → ready state) → .takes input ∉ done →
    f.merge.number + Deed.rounds done ≤ Merge.roundLimit →
    Deed.rounds done ≤ f.merge.openInputs.length * (f.merge.openInputs.length - 1) / 2 ∧
      ((∀ other, .closes other ∉ done) → Deed.rounds done ≤ f.merge.openInputs.length - 1) ∧
      (g.Going → more.countP FanIn.Turn.isMerge ≤ 2 * Deed.rounds done + 1 ∧
        (FanIn.take inputs .merge (g, t, done) = none → g.outlet.isSome = true))

theorem Inputs.Standing.servesInTurn (standing : inputs.Standing count ready input) :
    inputs.ServesInTurn count ready input := by
  intro begin s t f g past done turns more before isOpen isReady played steady unserved unwrapped
  have awaits : FanIn.Awaits count ready input f s :=
    ⟨(FanIn.regular_start count).play before, fun _ => isOpen, fun _ => isReady⟩
  have recorded : play (FanIn.take inputs) more (f, s, []) = some (g, t, done ++ []) := by
    rw [List.append_nil]
    exact played
  have patience := awaits.patience standing steady recorded unserved
  have bounded := patience.bounded unwrapped
  refine ⟨?_, fun unclosed => ?_, fun going => ⟨?_, patience.awaits.stuck standing going⟩⟩
  · have twice := bounded.twice_le isOpen
    omega
  · have inside := Merge.place_lt isOpen
    rcases bounded with few | ⟨⟨other, closed⟩, _⟩
    · omega
    · exact absurd closed (unclosed other)
  · have paced := patience.paced going.running
    have single := f.merge.phase.length_inHand_le
    omega

end ExchangeTap
