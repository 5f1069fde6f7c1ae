import ExchangeTap.Proofs.Supervision.Careers
import ExchangeTap.Proofs.Worker.Attendance

namespace ExchangeTap

open Supervised in
/-- Whatever is refused, and in whichever epoch, no worker tries an operation on a channel on which
one has failed; and none is turned away because its channel was closed. -/
theorem Career.no_dead_channel_used {worker : Worker} {stage : Stage} {turns : List Career.Turn}
    {c : Career} {retryDelay capacity : Nat} {broker : Broker} {suffix : Nat → String}
    {acts : List Act} {s : Supervised}
    (taken : play Career.take turns (.start worker stage) = some c)
    (performed : play performAnew acts (fresh worker retryDelay broker capacity suffix) = some s) :
    Journal.SparesFailed c.stage.journal ∧ Journal.SparesFailed s.stage.journal := by
  have spared : ∀ {stage turns c}, play Career.take turns (.start worker stage) = some c →
      Journal.SparesFailed c.stage.journal := fun taken =>
    (play_preserves Career.Equipped.take (equipped_start worker _) taken).spares
  obtain ⟨_, turns, career⟩ := career_play performed
  exact ⟨spared taken, spared career⟩

open Supervised in
/-- A binding is refused, and then a removal, whose second attempt finds no channel; the next epoch
has its consumption refused. -/
theorem Career.no_dead_channel_used_in_second_epoch :
    let broker := { Broker.initial with
      refusals := [⟨some .bindQueue, none, 0, 1, .operation "refused"⟩,
        ⟨some .deleteQueue, none, 0, 1, Broker.channelClosed⟩,
        ⟨some .consume, none, 0, 1, .operation "refused"⟩]
      refusedChannels := [none, none, some Broker.channelRefused] }
    let suffix (_ : Nat) := "suffix"
    let tap := Worker.tap [⟨"orders", "#"⟩] 0
    let worker := Career.Turn.worker .second
    let turns := .begins :: .replicate 12 worker ++ [.ends, .begins] ++ .replicate 12 worker
    let main := Act.task .second .main
    let acts := .connect :: .replicate 15 main ++ [.task .second .watcher] ++ .replicate 15 main
    ∃ c s, play Career.take turns (.start tap (.initial broker 2 suffix)) = some c ∧
      c.epochs = 2 ∧ Journal.failed c.stage.journal = [3, 1, 0] ∧
      Journal.SparesFailed c.stage.journal ∧
      play performAnew acts (fresh tap 0 broker 2 suffix) = some s ∧
      s.epochs = 2 ∧ Journal.failed s.stage.journal = [3, 1, 0] ∧
      Journal.SparesFailed s.stage.journal := by
  intro broker suffix tap worker turns main acts
  have alone : (play Career.take turns (.start tap (.initial broker 2 suffix))).map
      (fun c => (c.epochs, Journal.failed c.stage.journal)) = some (2, [3, 1, 0]) := by
    decide +kernel
  have supervised : (play performAnew acts (fresh tap 0 broker 2 suffix)).map
      (fun s => (s.epochs, Journal.failed s.stage.journal)) = some (2, [3, 1, 0]) := by
    decide +kernel
  obtain ⟨c, taken, same⟩ := Option.map_eq_some_iff.mp alone
  obtain ⟨epochs, failed⟩ := Prod.mk.inj same
  obtain ⟨s, performed, same⟩ := Option.map_eq_some_iff.mp supervised
  obtain ⟨together, failedToo⟩ := Prod.mk.inj same
  obtain ⟨spared, sparedToo⟩ := no_dead_channel_used taken performed
  exact ⟨c, s, taken, epochs, failed, spared, performed, together, failedToo, sparedToo⟩

open Supervised in
/-- Whenever the broker accepts the deletion of a queue that a tapping worker has consumed, the
consumer of the queue is still there, and its channel is held. So once such a queue is deleted, the
broker has it down as deleted while consumed, and only once. -/
theorem Career.consumers_outlive_queues {bindings : List Binding} {turns : List Career.Turn}
    {setupRetry retryDelay capacity : Nat} {broker : Broker} {suffix : Nat → String}
    {c : Career} {acts : List Act} {s : Supervised}
    (suffixes : Tap.Distinguishes suffix) (unrecorded : broker.deletedWhileConsumed = [])
    (taken : play Career.take turns (.start (.tap bindings setupRetry)
      (.initial broker capacity suffix)) = some c)
    (performed : play performAnew acts (fresh (.tap bindings setupRetry) retryDelay broker
      capacity suffix) = some s) :
    (∀ turn next events queue number, Career.take turn c = some next →
      next.stage.journal = events ++ c.stage.journal → queue ∈ Journal.deleted events →
      (queue, number) ∈ Journal.consumed c.stage.journal →
        queue ∈ c.stage.broker.consumed ∧ c.Holds number) ∧
    (∀ queue number, (queue, number) ∈ Journal.consumed c.stage.journal →
      queue ∈ Journal.deleted c.stage.journal →
        c.stage.broker.deletedWhileConsumed.count queue = 1) ∧
    ∀ queue number, (queue, number) ∈ Journal.consumed s.stage.journal →
      queue ∈ Journal.deleted s.stage.journal →
        s.stage.broker.deletedWhileConsumed.count queue = 1 := by
  have attending := attending_play suffixes unrecorded taken
  refine ⟨?_, ?_, ?_⟩
  · intro turn next events queue number turned journal deleted consumed
    obtain ⟨setupRetry, tap, present, attends, among⟩ := attending.of_deleted turned journal deleted
    obtain ⟨attended, held⟩ := attends.attends.attended queue among number consumed
    exact ⟨attended, setupRetry, tap, present, List.mem_map.mp held⟩
  · exact fun queue number consumed deleted => attending.once consumed deleted
  · intro queue number consumed deleted
    obtain ⟨_, turns, career⟩ := career_play performed
    exact (attending_play suffixes unrecorded career).once consumed deleted

open Supervised in
/-- A binding of the second tap is refused, so the queue of the first is deleted again. -/
theorem Career.consumers_outlive_queues_after_refusal :
    let broker := { Broker.initial with
      refusals := [⟨some .bindQueue, none, 1, 1, .operation "refused"⟩] }
    let suffix number := String.ofList (.replicate number 'x')
    let bindings := [⟨"orders", "#"⟩, ⟨"parts", "#"⟩]
    let worker := Career.Turn.worker .second
    let turns := .begins :: .replicate 14 worker
    let acts := .connect :: .replicate 17 (.task .second .main)
    let queue := Tap.queueName "orders" (suffix 0)
    ∃ c next events s,
      play Career.take turns (.start (.tap bindings 0) (.initial broker 2 suffix)) = some c ∧
      Career.take worker c = some next ∧ next.stage.journal = events ++ c.stage.journal ∧
      (queue, 0) ∈ Journal.consumed c.stage.journal ∧ queue ∈ Journal.deleted events ∧
      queue ∈ c.stage.broker.consumed ∧ c.Holds 0 ∧
      play performAnew acts (fresh (.tap bindings 0) 0 broker 2 suffix) = some s ∧
      s.stage.broker.deletedWhileConsumed.count queue = 1 := by
  intro broker suffix bindings worker turns acts queue
  have suffixes : Tap.Distinguishes suffix := by
    refine ⟨?_, ?_⟩
    · intro i j same
      simpa [suffix] using congrArg String.length same
    · simp [suffix]
  have alone : (play Career.take turns (.start (.tap bindings 0) (.initial broker 2 suffix))).bind
      (fun c => (Career.take worker c).map fun next => (Journal.consumed c.stage.journal,
        Journal.deleted c.stage.journal, Journal.deleted next.stage.journal)) =
        some ([(queue, 0)], [Tap.queueName "parts" (suffix 1)],
          [queue] ++ [Tap.queueName "parts" (suffix 1)]) := by
    decide +kernel
  have supervised : (play performAnew acts (fresh (.tap bindings 0) 0 broker 2 suffix)).map
      (fun s => (Journal.consumed s.stage.journal, decide (queue ∈ Journal.deleted s.stage.journal))) =
        some ([(queue, 0)], true) := by
    decide +kernel
  obtain ⟨c, taken, turned⟩ := Option.bind_eq_some_iff.mp alone
  obtain ⟨next, turned, same⟩ := Option.map_eq_some_iff.mp turned
  simp only [Prod.mk.injEq] at same
  obtain ⟨consumed, before, after⟩ := same
  obtain ⟨s, performed, same⟩ := Option.map_eq_some_iff.mp supervised
  obtain ⟨consumedToo, deletedToo⟩ := Prod.mk.inj same
  obtain ⟨attended, _, recorded⟩ := consumers_outlive_queues suffixes rfl taken performed
  obtain ⟨_, ⟨events, journal, _⟩, _⟩ := (attending_play suffixes rfl taken).deletes turned
  have among : (queue, 0) ∈ Journal.consumed c.stage.journal := by simp [consumed]
  have deleted : queue ∈ Journal.deleted events := by
    rw [journal, Journal.deleted_append, before] at after
    simp [List.append_cancel_right after]
  obtain ⟨stays, holds⟩ := attended worker next events queue 0 turned journal deleted among
  exact ⟨c, next, events, s, taken, turned, journal, among, deleted, stays, holds, performed,
    recorded queue 0 (by simp [consumedToo]) (of_decide_eq_true deletedToo)⟩

end ExchangeTap
