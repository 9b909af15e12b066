import MailboxSync.Proofs.WorkerLog

namespace MailboxSync

/-- How far a request is from its answer. -/
def Stage.distance : Stage → Nat
  | answered _ => 0
  | notified _ | refused => 1
  | released _ => 2
  | recorded _ => 3
  | ended _ => 4
  | running => 5
  | admitted => 6
  | asked => 7

/-- How far a worker in the middle of a turn is from its end. -/
def Errand.distance : Errand → Nat
  | idle => 0
  | report _ => 1
  | request stage => stage.distance + 2
  | cycle _ _ => Stage.running.distance + 2

namespace Shift

variable {p : Policy} {s s' : Shift}

/-- How far a dismissed worker is from its end. -/
def distance (s : Shift) : Nat :=
  match s.worker.phase with
  | .stopped | .serving _ => s.errand.distance
  | .triggered => 10
  | .waiting => s.errand.distance + 11

theorem distance_ofStage (p : Policy) (stage : Stage) :
    (Errand.ofStage p stage).distance = stage.distance + 2 := by
  cases stage <;> rfl

theorem distance_step (o : Orchestrator) {stage : Stage} (unanswered : stage.isAnswered = false)
    (other : stage ≠ .running) : (o.step stage).1.distance < stage.distance := by
  cases stage with
  | running => exact absurd rfl other
  | answered => cases unanswered
  | asked =>
    simp only [Orchestrator.step]
    split
    · exact (by decide : 1 < 7)
    · exact Nat.lt_succ_self _
  | refused => exact Nat.zero_lt_one
  | admitted | ended | recorded | released => exact Nat.lt_succ_self _
  | notified => exact Nat.zero_lt_one

theorem distance_serving {stop : Bool} (serving : s.worker.phase = .serving stop) :
    s.distance = s.errand.distance := by
  simp only [distance, serving]

theorem distance_waiting (waiting : s.worker.phase = .waiting) : s.distance = s.errand.distance + 11 := by
  simp only [distance, waiting]

theorem distance_stopped (stopped : s.worker.phase = .stopped) : s.distance = s.errand.distance := by
  simp only [distance, stopped]

theorem distance_triggered (triggered : s.worker.phase = .triggered) : s.distance = 10 := by
  simp only [distance, triggered]

/-- What is left of a cycle after a call, whatever its answer. -/
def Remains (s' s : Shift) : Prop :=
  ∃ made r next, ∃ x : r.Answer, s.errand = .cycle made (.call r next) ∧
    s' = { s with errand := .cycle (made ++ [⟨r, x⟩]) (next x) }

/-- A dismissed worker that empties its queue after a cycle finds the shutdown there if it has not found it
before. -/
theorem Call.heeds (call : s.Call) (dismissed : s.dismissed = true) :
    (s.worker.phase.hasHeard || s.summoned) = true := by
  cases call with
  | unsent free =>
    rw [dismissed] at free
    cases free
  | queued _ queue =>
    rw [summoned, queue]
    simp
  | heard _ _ heard => rw [heard, Bool.true_or]

/-- A dismissed worker comes nearer to its end in every step, but for the calls of a cycle. -/
theorem Step.nearer (step : Step s s') (kept : s.Kept p) (dismissed : s.dismissed = true) :
    s'.distance < s.distance ∨ Remains s' s := by
  have present := kept.shaped.present
  cases step with
  | send _ free | dismiss free =>
    rw [dismissed] at free
    cases free
  | receive waiting idle first =>
    have triggered : s.receives.worker.phase = .triggered := by
      rw [show s.receives.worker = _ from Worker.receive_sync waiting first]
    rw [distance_triggered triggered, distance_waiting waiting]
    omega
  | close waiting idle first =>
    have stopped : s.closes.worker.phase = .stopped := by
      rw [show s.closes.worker = _ from Worker.receive_shutdown waiting first]
    rw [distance_stopped stopped, distance_waiting waiting]
    show s.errand.distance < _ ∨ _
    omega
  | gather triggered =>
    have serving : s.gathers.worker.phase = .serving s.summoned := by rw [worker_gathers triggered]
    rw [distance_serving serving, distance_triggered triggered]
    exact Or.inl (by decide : 9 < 10)
  | @proceed stage errand unanswered =>
    obtain ⟨stop, serving⟩ := kept.shaped.serving errand
    rw [errand] at present
    have nearer := distance_step s.orchestrator unanswered present.ne_running
    have serving' : (s.proceeds stage).worker.phase = .serving stop := serving
    have ahead : (s.proceeds stage).errand.distance = (s.orchestrator.step stage).1.distance + 2 :=
      distance_ofStage _ _
    rw [distance_serving serving, distance_serving serving', errand, ahead]
    exact Or.inl (Nat.add_lt_add_right nearer 2)
  | answer x errand => exact Or.inr ⟨_, _, _, x, errand, rfl⟩
  | @finish made y errand =>
    obtain ⟨stop, serving⟩ := present.serving (by rw [errand]; rfl)
    have serving' : (s.finishes made y).worker.phase = .serving stop := serving
    rw [distance_serving serving, distance_serving serving', errand]
    exact Or.inl (by decide : 6 < 7)
  | sweep errand =>
    obtain ⟨stop, serving⟩ := kept.shaped.serving errand
    have heard := kept.call.heeds dismissed
    rw [serving] at heard
    have stopped : s.sweeps.worker.phase = .stopped := by
      rw [worker_sweeps serving]
      exact if_pos heard
    rw [distance_stopped stopped, distance_serving serving, errand]
    exact Or.inl (by decide : 1 < 2)
  | @report is errand =>
    rw [errand] at present
    rcases present.between with waiting | stopped
    · have waiting' : (s.reports is).worker.phase = .waiting := waiting
      rw [distance_waiting waiting, distance_waiting waiting', errand]
      exact Or.inl (by decide : 11 < 12)
    · have stopped' : (s.reports is).worker.phase = .stopped := stopped
      rw [distance_stopped stopped, distance_stopped stopped', errand]
      exact Or.inl Nat.zero_lt_one

theorem Step.dismissed (step : Step s s') (dismissed : s.dismissed = true) : s'.dismissed = true := by
  cases step with
  | dismiss => rfl
  | _ => exact dismissed

/-- A dismissed worker goes on for a finite time only. -/
theorem Kept.acc (kept : s.Kept p) (dismissed : s.dismissed = true) : Acc (fun u v => Step v u) s := by
  generalize far : s.distance = n
  induction n using Nat.strongRecOn generalizing s with
  | ind n ih =>
    have onward : ∀ s : Shift, s.Kept p → s.dismissed = true → s.distance = n →
        (∀ u, Remains u s → Step s u → Acc (fun u v => Step v u) u) → Acc (fun u v => Step v u) s := by
      intro s kept dismissed far remains
      refine .intro s fun u step => ?_
      rcases step.nearer kept dismissed with nearer | rest
      · exact ih _ (far ▸ nearer) (kept.step step) (step.dismissed dismissed) rfl
      · exact remains u rest step
    cases errand : s.errand with
    | cycle made rest =>
      -- A call leaves the distance as it is, so within a cycle the induction is on what is left of the program.
      induction rest generalizing s made with
      | done y =>
        refine onward s kept dismissed far ?_
        rintro u ⟨_, _, _, _, other, -⟩ -
        rw [errand] at other
        cases other
      | call r next further =>
        refine onward s kept dismissed far ?_
        rintro u ⟨_, _, _, x, same, rfl⟩ step
        rw [errand] at same
        cases same
        refine further x (kept.step step) (step.dismissed dismissed) ?_ _ rfl
        obtain ⟨stop, serving⟩ := kept.shaped.present.serving (by rw [errand]; rfl)
        rw [← far, distance_serving serving, errand]
        exact distance_serving serving
    | _ =>
      refine onward s kept dismissed far ?_
      rintro u ⟨_, _, _, _, other, -⟩ -
      rw [errand] at other
      cases other

/-- A dismissed worker that is not at its end goes on. -/
theorem Kept.step_or_over (kept : s.Kept p) (dismissed : s.dismissed = true) : s.IsOver ∨ ∃ s', Step s s' := by
  have present := kept.shaped.present
  cases errand : s.errand with
  | request stage =>
    cases answered : stage.isAnswered with
    | false => exact Or.inr ⟨_, .proceed errand answered⟩
    | true =>
      cases stage with
      | answered => exact Or.inr ⟨_, .sweep errand⟩
      | _ => cases answered
  | cycle made rest =>
    cases rest with
    | done y => exact Or.inr ⟨_, .finish errand⟩
    | call r next => exact Or.inr ⟨_, .answer (.error (.other "")) errand⟩
  | report is => exact Or.inr ⟨_, .report errand⟩
  | idle =>
    cases phase : s.worker.phase with
    | stopped => exact Or.inl ⟨phase, errand⟩
    | triggered => exact Or.inr ⟨_, .gather phase⟩
    | serving stop =>
      rw [phase, errand] at present
      cases present
    | waiting =>
      have queue : ∃ c rest, s.worker.queue = c :: rest := by
        have heeds := kept.call.heeds dismissed
        rw [phase] at heeds
        cases queue : s.worker.queue with
        | nil => simp [summoned, queue, Worker.Phase.hasHeard] at heeds
        | cons c rest => exact ⟨c, rest, rfl⟩
      obtain ⟨c, rest, queue⟩ := queue
      cases c with
      | sync t => exact Or.inr ⟨_, .receive phase errand queue⟩
      | shutdown => exact Or.inr ⟨_, .close phase errand queue⟩

end Shift

end MailboxSync
