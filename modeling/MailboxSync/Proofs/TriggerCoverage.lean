import MailboxSync.Proofs.WorkerShutdown

namespace MailboxSync.Shift

open scoped List
open Program (Ends)
open Transcript (takesDown)

variable {p : Policy} {s s' : Shift} {i j : Nat}

/-- The cycle was started for this trigger, among others, after the trigger had been sent. -/
def Covers (s : Shift) (j i : Nat) : Prop := s.TakesUp j i ∧ [.sent i, .started j] <+ s.log

/-- The trigger came after the queue was emptied before this cycle, and was in it when it was emptied after the
cycle. -/
def Misses (s : Shift) (j i : Nat) : Prop := ∃ fs stop ds stop', i ∈ ds ∧
  [.drained j fs stop, .sent i, .swept j ds stop'] <+ s.log ∧
  [.drained j fs stop, .started j, .swept j ds stop'] <+ s.log

/-- The lock is taken only for the worker, and its requests do not find it taken. -/
structure Alone (s : Shift) : Prop where
  locked : s.orchestrator.locked = s.errand.holds
  unrefused : ∀ i j, .refused i j ∉ s.log

namespace Alone

theorem opening (p : Policy) : (opening p).Alone := ⟨rfl, fun _ _ mem => by cases mem⟩

theorem concat {x : Note} (alone : s.Alone) (log : s'.log = s.log ++ [x]) (other : ∀ i j, x ≠ .refused i j)
    (i j : Nat) : .refused i j ∉ s'.log := by
  rw [log, List.mem_append, not_or]
  exact ⟨alone.unrefused i j, fun mem => other i j (List.mem_singleton.mp mem).symm⟩

theorem holds_ofStage (p : Policy) (stage : Stage) : (Errand.ofStage p stage).holds = stage.holds := by
  cases stage <;> rfl

/-- The lock is with the one request there is. -/
theorem locked_step {o : Orchestrator} {stage : Stage} (own : o.locked = stage.holds) :
    (o.step stage).2.1.locked = (o.step stage).1.holds ∧ (o.step stage).1 ≠ .refused := by
  cases stage with
  | asked =>
    have free : o.locked = false := own
    simp [Orchestrator.step, free, Stage.holds]
  | notified e =>
    refine ⟨?_, Stage.noConfusion⟩
    simp only [Orchestrator.step]
    split <;> exact own
  | recorded => exact ⟨rfl, Stage.noConfusion⟩
  | _ => exact ⟨own, Stage.noConfusion⟩

theorem step (alone : s.Alone) (shaped : s.Shaped) (step : Step s s') : s'.Alone := by
  have locked := alone.locked
  have present := shaped.present
  cases step with
  | send | receive | close => exact ⟨locked, alone.concat rfl nofun⟩
  | dismiss => exact ⟨locked, alone.unrefused⟩
  | gather triggered =>
    rw [triggered] at present
    rw [present.idle] at locked
    exact ⟨locked, alone.concat rfl nofun⟩
  | @proceed stage errand unanswered =>
    rw [errand] at locked
    obtain ⟨own, free⟩ := locked_step locked
    refine ⟨own.trans (holds_ofStage _ _).symm, fun i j mem => ?_⟩
    rcases List.mem_append.mp mem with mem | mem
    · exact alone.unrefused i j mem
    · unfold Note.ofStages at mem
      split at mem
      · next refused => exact free refused
      all_goals simp at mem
  | answer x errand =>
    rw [errand] at locked
    exact ⟨locked, alone.unrefused⟩
  | finish errand | sweep errand | report errand =>
    rw [errand] at locked
    exact ⟨locked, alone.concat rfl nofun⟩

end Alone

theorem of_reaches (run : Reaches (opening p) s) : s.Kept p ∧ s.Alone := by
  induction run with
  | refl => exact ⟨.opening p, .opening p⟩
  | tail _ step ih => exact ⟨ih.1.step step, ih.2.step ih.1.shaped step⟩

namespace Kept

/-- The worker has taken all triggers when it has stopped. -/
theorem taken_of_over (kept : s.Kept p) (finished : s.IsOver) : s.taken = s.sent := by
  have queue : s.worker.queue = [] := by
    cases kept.call with
    | unsent _ _ unheard | queued _ _ _ unheard => exact absurd finished.1 (live_of_unheard unheard)
    | heard _ queue => exact queue
  rw [Shift.sent, Worker.arrived, queue]
  rfl

/-- What a note belongs to is a turn that is over, when the worker has stopped. -/
theorem round_of_over (kept : s.Kept p) (finished : s.IsOver) {x : Note} (mem : x ∈ s.log)
    (turn : x.turn? = some j) : Round j (s.round j) := by
  have mem := Shaped.mem_round mem turn
  rcases Nat.lt_trichotomy j s.turn with before | rfl | after
  · exact kept.shaped.past j before
  · have present := kept.shaped.present
    rw [finished.1] at present
    rw [present.untold_of_stopped] at mem
    cases mem
  · rw [kept.shaped.future j after] at mem
    cases mem

theorem round_sublist (s : Shift) (j : Nat) : s.round j <+ s.log := List.filter_sublist

/-- A trigger that is taken up for a cycle has been sent before the cycle starts. -/
theorem covers (kept : s.Kept p) {x : Note} (takes : i ∈ x.takes) (before : [x, .started j] <+ s.log) :
    [.sent i, .started j] <+ s.log := by
  obtain ⟨u, mem, warranted, earlier⟩ := kept.chronicle.of_pair before
  exact earlier [.sent i] (List.singleton_sublist.mpr ((warranted x mem).1 i takes))

/-- A trigger that is dropped after a cycle has been sent after the queue was emptied before it. -/
theorem misses (kept : s.Kept p) {ds fs : List Nat} {stop stop' : Bool} (dropped : i ∈ ds)
    (whole : [.drained j fs stop, .started j, .swept j ds stop'] <+ s.log)
    (single : ∀ fs' b, .drained j fs' b ∈ s.log → fs' = fs ∧ b = stop) : s.Misses j i := by
  have before : [.started j, .swept j ds stop'] <+ s.log := (List.sublist_cons_self _ _).trans whole
  obtain ⟨u, -, warranted, earlier⟩ := kept.chronicle.of_pair before
  obtain ⟨fs', b, between⟩ := warranted i dropped
  have all : [.drained j fs' b, .sent i, .swept j ds stop'] <+ s.log := earlier _ between
  obtain ⟨rfl, rfl⟩ := single fs' b (all.subset List.mem_cons_self)
  exact ⟨fs', b, ds, stop', dropped, all, whole⟩

/-- Every trigger was for a cycle that started after it, or came while one was under way. -/
theorem covers_or_misses (kept : s.Kept p) (alone : s.Alone) (finished : s.IsOver) (sent : .sent i ∈ s.log) :
    ∃ j, s.Covers j i ∨ s.Misses j i := by
  have taken : i ∈ s.log.flatMap Note.takes := by
    rw [kept.watched.taken, List.mem_range, kept.taken_of_over finished]
    exact (kept.watched.sent i).mp sent
  obtain ⟨x, mem, takes⟩ := List.mem_flatMap.mp taken
  obtain ⟨j, turn⟩ : ∃ j, x.turn? = some j := by
    cases x with
    | received | drained | swept => exact ⟨_, rfl⟩
    | _ => cases takes
  have round := kept.round_of_over finished mem turn
  have here : x ∈ s.round j := Shaped.mem_round mem turn
  have within := round_sublist s j
  have own : ∀ fs b, .drained j fs b ∈ s.log → .drained j fs b ∈ s.round j := fun _ _ mem => Shaped.mem_round mem rfl
  generalize s.round j = r at round here within own
  refine ⟨j, ?_⟩
  cases round with
  -- A trigger that was folded into a refused request would be lost. No one else is there to take the lock.
  | @refused i' => exact absurd (within.subset (by simp)) (alone.unrefused i' j)
  | @served i' is stop made y ds stop' =>
    simp only [List.mem_cons, List.not_mem_nil, or_false] at here
    rcases here with rfl | rfl | rfl | rfl | rfl
    · have first : [.received i' j, .started j] <+ s.log := .trans (by simp) within
      cases List.mem_singleton.mp takes
      exact Or.inl ⟨Or.inl (first.subset List.mem_cons_self), kept.covers takes first⟩
    · have first : [.drained j is stop, .started j] <+ s.log := .trans (by simp) within
      exact Or.inl ⟨Or.inr ⟨is, stop, first.subset List.mem_cons_self, takes⟩, kept.covers takes first⟩
    · cases takes
    · cases takes
    · have whole : [.drained j is stop, .started j, .swept j ds stop'] <+ s.log := .trans (by simp) within
      refine Or.inr (kept.misses takes whole fun fs b mem => ?_)
      simpa using own fs b mem

/-- A cycle is started once, for one trigger that was received, and no other cycle is started for that trigger. -/
theorem started_once (kept : s.Kept p) (started : .started j ∈ s.log) :
    ¬[.started j, .started j] <+ s.log ∧ ∃ i, [.received i j, .started j] <+ s.log ∧
      (∀ i', .received i' j ∈ s.log → i' = i) ∧ ∀ j', .received i j' ∈ s.log → j' = j := by
  obtain ⟨i, is, stop, rest, round, told⟩ := kept.shaped.started_cases started
  have further : rest = [] ∨ ∃ made y, rest = [.ended j made y] ∨
      ∃ ds stop', rest = [.ended j made y, .swept j ds stop'] := told.imp_left And.left
  have first : [.received i j, .started j] <+ s.log := by
    refine .trans ?_ (round_sublist s j)
    rw [round]
    simp
  refine ⟨fun twice => ?_, i, first, fun i' mem => ?_, fun j' mem => ?_⟩
  · have twice := Shaped.pair_round twice rfl rfl
    rw [round] at twice
    rcases further with rfl | ⟨made, y, rfl | ⟨ds, stop', rfl⟩⟩ <;> simp [List.cons_sublist_cons'] at twice
  · have mem : .received i' j ∈ s.round j := Shaped.mem_round mem rfl
    rw [round] at mem
    rcases further with rfl | ⟨made, y, rfl | ⟨ds, stop', rfl⟩⟩ <;> simpa using mem
  · have same := kept.watched.takes_once (i := i) mem (first.subset List.mem_cons_self)
      List.mem_cons_self List.mem_cons_self
    cases same
    rfl

/-- A cycle that was started is under way, or it has come to its own end. The queue is not emptied before
that. -/
theorem started_whole (kept : s.Kept p) (started : .started j ∈ s.log) :
    ((j = s.turn ∧ ∃ made left, s.errand = .cycle made left) ∨
      ∃ made y, [.started j, .ended j made y] <+ s.log ∧ Ends takesDown p.cycle [] y made) ∧
    ∀ ds stop, .swept j ds stop ∈ s.log → ∃ made y,
      [.started j, .ended j made y, .swept j ds stop] <+ s.log := by
  obtain ⟨i, is, stop, rest, round, told⟩ := kept.shaped.started_cases started
  have within := round_sublist s j
  have own : ∀ ds b, .swept j ds b ∈ s.log → .swept j ds b ∈ s.round j := fun _ _ mem => Shaped.mem_round mem rfl
  rw [round] at within own
  have ends : ∀ made y, .ended j made y ∈ s.log → Ends takesDown p.cycle [] y made := by
    intro made y mem
    obtain ⟨u, v, split⟩ := List.append_of_mem mem
    exact kept.chronicle u _ v split
  rcases told with ⟨rfl, cycle⟩ | ⟨made, y, rfl | ⟨ds, stop', rfl⟩⟩
  · refine ⟨Or.inl cycle, fun ds b mem => ?_⟩
    simpa using own ds b mem
  · have ended : [.started j, .ended j made y] <+ s.log := .trans (by simp) within
    refine ⟨Or.inr ⟨made, y, ended, ends made y (ended.subset (by simp))⟩, fun ds b mem => ?_⟩
    simpa using own ds b mem
  · have whole : [.started j, .ended j made y, .swept j ds stop'] <+ s.log := .trans (by simp) within
    have ended : [.started j, .ended j made y] <+ s.log := .trans (by simp) whole
    refine ⟨Or.inr ⟨made, y, ended, ends made y (ended.subset (by simp))⟩, fun ds' b mem => ?_⟩
    obtain ⟨rfl, rfl⟩ : ds' = ds ∧ b = stop' := by simpa using own ds' b mem
    exact ⟨made, y, whole⟩

/-- After a shutdown has been seen no cycle is started but the one that it was seen on the way to. -/
theorem started_after_halt (kept : s.Kept p) {x : Note} (halts : x.halts = true)
    (before : [x, .started j] <+ s.log) : ∃ fs, x = .drained j fs true := by
  obtain ⟨u, mem, warranted, -⟩ := kept.chronicle.of_pair before
  exact (warranted x mem).2 halts

end Kept

/-- A worker that no one else stands in the way of, whatever is sent to it at whatever time and however its cycles
end. Dismissed it goes on for a finite time only, up to its end. By then every trigger was for a cycle that started
after it, or came while a cycle was under way. Each cycle is for one trigger that was received. After a shutdown has
been seen no further cycle starts, and no cycle is left before its end. -/
theorem lone_worker_serves (run : Reaches (opening p) s) :
    (s.dismissed = true → Acc (fun u v => Step v u) s ∧ (s.IsOver ∨ ∃ s', Step s s')) ∧
    (s.IsOver → ∀ i, .sent i ∈ s.log → ∃ j, s.Covers j i ∨ s.Misses j i) ∧
    (∀ j, .started j ∈ s.log → ¬[.started j, .started j] <+ s.log ∧
      ∃ i, [.received i j, .started j] <+ s.log ∧ (∀ i', .received i' j ∈ s.log → i' = i) ∧
        ∀ j', .received i j' ∈ s.log → j' = j) ∧
    (∀ x j, x.halts = true → [x, .started j] <+ s.log → ∃ fs, x = .drained j fs true) ∧
    ∀ j, .started j ∈ s.log →
      ((j = s.turn ∧ ∃ made left, s.errand = .cycle made left) ∨
        ∃ made y, [.started j, .ended j made y] <+ s.log ∧ Ends takesDown p.cycle [] y made) ∧
      ∀ ds stop, .swept j ds stop ∈ s.log → ∃ made y,
        [.started j, .ended j made y, .swept j ds stop] <+ s.log := by
  obtain ⟨kept, alone⟩ := of_reaches run
  refine ⟨fun dismissed => ⟨kept.acc dismissed, kept.step_or_over dismissed⟩,
    fun finished i sent => kept.covers_or_misses alone finished sent, fun j started => kept.started_once started,
    fun x j halts before => kept.started_after_halt halts before, fun j started => kept.started_whole started⟩

/-- A worker takes one trigger, another comes while its cycle fails, and then a third directly before the
shutdown. -/
theorem fullDay_served : ∃ s, Reaches (opening .fullSync) s ∧ s.dismissed = true ∧ s.IsOver ∧ s.sent = 3 ∧
    (∀ i, .sent i ∈ s.log → ∃ j, s.Covers j i ∨ s.Misses j i) ∧
    ∀ x j, x.halts = true → [x, .started j] <+ s.log → ∃ fs, x = .drained j fs true := by
  have asked : Reaches (opening .fullSync) _ :=
    ((Relation.ReflTransGen.refl.tail (.send .manual rfl)).tail (.receive rfl rfl rfl)).tail (.gather rfl)
  have begun : Reaches (opening .fullSync) _ :=
    (asked.tail (.proceed rfl rfl)).tail (.proceed rfl rfl)
  have failed : Reaches (opening .fullSync) _ :=
    ((begun.tail (.send .retry rfl)).tail (.answer (.error (.database "locked")) rfl)).tail (.finish rfl)
  have left : Reaches (opening .fullSync) _ :=
    (((failed.tail (.proceed rfl rfl)).tail (.proceed rfl rfl)).tail (.proceed rfl rfl)).tail (.proceed rfl rfl)
  have reported : Reaches (opening .fullSync) _ := (left.tail (.sweep rfl)).tail (.report rfl)
  have dismissed : Reaches (opening .fullSync) _ :=
    (reported.tail (.send .notification rfl)).tail (.dismiss rfl)
  have again : Reaches (opening .fullSync) _ :=
    (((dismissed.tail (.receive rfl rfl rfl)).tail (.gather rfl)).tail (.proceed rfl rfl)).tail (.proceed rfl rfl)
  have ended : Reaches (opening .fullSync) _ :=
    (again.tail (.answer (.error (.database "locked")) rfl)).tail (.finish rfl)
  have finished : Reaches (opening .fullSync) _ :=
    (((((ended.tail (.proceed rfl rfl)).tail (.proceed rfl rfl)).tail (.proceed rfl rfl)).tail
      (.proceed rfl rfl)).tail (.sweep rfl)).tail (.report rfl)
  have served := lone_worker_serves finished
  exact ⟨_, finished, rfl, ⟨rfl, rfl⟩, rfl, served.2.1 ⟨rfl, rfl⟩, served.2.2.2.1⟩

end MailboxSync.Shift
