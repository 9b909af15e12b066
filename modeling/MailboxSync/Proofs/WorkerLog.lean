import Mathlib.Data.List.Nodup
import Mathlib.Data.List.Pairwise
import MailboxSync.Proofs.WorkerTurns

namespace MailboxSync

open scoped List
open Program (Ends)
open Transcript (takesDown)

/-- It has seen a shutdown. -/
def Worker.Phase.hasHeard : Worker.Phase → Bool
  | serving stopping => stopping
  | stopped => true
  | waiting | triggered => false

/-- What must have gone before a note. -/
def Note.Warranted (p : Policy) (l : List Note) : Note → Prop
  | .started j => ∀ x ∈ l, (∀ i ∈ x.takes, .sent i ∈ l) ∧ (x.halts = true → ∃ is, x = .drained j is true)
  | .ended _ made y => Ends takesDown p.cycle [] y made
  | .swept j is _ => ∀ i ∈ is, ∃ fs stop, [.drained j fs stop, .sent i] <+ l
  | .sent _ | .received _ _ | .drained _ _ _ | .refused _ _ | .counted _ | .closed | .turnedAway => True

/-- Each note is warranted by those before it. -/
def Chronicle (p : Policy) (l : List Note) : Prop := ∀ u x v, l = u ++ x :: v → x.Warranted p u

section

variable {α : Type} {a b : α} {l : List α}

/-- One comes before the other. -/
theorem pair_sublist_iff : [a, b] <+ l ↔ ∃ u v, l = u ++ b :: v ∧ a ∈ u := by
  constructor
  · intro before
    induction l with
    | nil => cases before
    | cons c rest ih =>
      cases before with
      | cons _ before =>
        obtain ⟨u, v, rfl, mem⟩ := ih before
        exact ⟨c :: u, v, rfl, List.mem_cons_of_mem _ mem⟩
      | cons_cons _ before =>
        obtain ⟨u, v, rfl⟩ := List.append_of_mem (List.singleton_sublist.mp before)
        exact ⟨a :: u, v, rfl, List.mem_cons_self⟩
  · rintro ⟨u, v, rfl, mem⟩
    exact (List.singleton_sublist.mpr mem).append (List.singleton_sublist.mpr List.mem_cons_self)

theorem pair_sublist_concat (mem : a ∈ l) : [a, b] <+ l ++ [b] :=
  pair_sublist_iff.mpr ⟨l, [], rfl, mem⟩

end

namespace Chronicle

variable {p : Policy} {l : List Note} {x y : Note}

theorem concat (chronicle : Chronicle p l) (warranted : x.Warranted p l) : Chronicle p (l ++ [x]) := by
  intro u y v split
  rcases v.eq_nil_or_concat with rfl | ⟨w, z, rfl⟩
  · obtain ⟨rfl, same⟩ := List.append_inj' split rfl
    cases same
    exact warranted
  · rw [List.concat_eq_append, ← List.cons_append, ← List.append_assoc] at split
    exact chronicle u y w (List.append_inj' split rfl).1

/-- What comes later is warranted by all that comes before it. -/
theorem of_pair (chronicle : Chronicle p l) (before : [x, y] <+ l) :
    ∃ u, x ∈ u ∧ y.Warranted p u ∧ ∀ zs, zs <+ u → zs ++ [y] <+ l := by
  obtain ⟨u, v, rfl, mem⟩ := pair_sublist_iff.mp before
  exact ⟨u, mem, chronicle u y v rfl, fun zs prior => prior.append (by simp)⟩

end Chronicle

namespace Shift

variable {p : Policy} {s s' : Shift} {i j : Nat} {stop : Bool}

/-- Where the shutdown is: it has not been sent, it is the last in the queue, or the worker has seen it. -/
inductive Call (s : Shift) : Prop
  | unsent : s.dismissed = false → (∀ c ∈ s.worker.queue, c.isSync = true) →
      s.worker.phase.hasHeard = false → Call s
  | queued {cs} : s.dismissed = true → s.worker.queue = cs ++ [.shutdown] → (∀ c ∈ cs, c.isSync = true) →
      s.worker.phase.hasHeard = false → Call s
  | heard : s.dismissed = true → s.worker.queue = [] → s.worker.phase.hasHeard = true → Call s

theorem live_of_unheard (unheard : s.worker.phase.hasHeard = false) : s.worker.phase ≠ .stopped := by
  intro stopped
  rw [stopped] at unheard
  cases unheard

namespace Call

theorem opening (p : Policy) : (opening p).Call := .unsent rfl (by simp [Shift.opening]) rfl

theorem unheard (call : s.Call) (free : s.dismissed = false) : s.worker.phase.hasHeard = false := by
  cases call with
  | unsent _ _ unheard => exact unheard
  | queued dismissed => rw [free] at dismissed; cases dismissed
  | heard dismissed => rw [free] at dismissed; cases dismissed

theorem congr (call : s.Call) (worker : s'.worker = s.worker) (dismissed : s'.dismissed = s.dismissed) :
    s'.Call := by
  cases call with
  | unsent sent syncs unheard =>
    exact .unsent (dismissed ▸ sent) (worker ▸ syncs) (worker ▸ unheard)
  | queued sent queue syncs unheard =>
    exact .queued (dismissed ▸ sent) (worker ▸ queue) syncs (worker ▸ unheard)
  | heard sent queue heard => exact .heard (dismissed ▸ sent) (worker ▸ queue) (worker ▸ heard)

/-- The queue has been emptied, and the worker has heard the shutdown if it was there. -/
theorem emptied (call : s.Call) (dismissed : s'.dismissed = s.dismissed) (queue : s'.worker.queue = [])
    (hears : s'.worker.phase.hasHeard = (s.worker.phase.hasHeard || s.summoned)) : s'.Call := by
  cases call with
  | unsent free syncs unheard =>
    have silent : s.summoned = false := by
      rw [summoned, List.contains_eq_mem, decide_eq_false_iff_not]
      intro mem
      cases syncs _ mem
    refine .unsent (dismissed ▸ free) (by simp [queue]) ?_
    rw [hears, unheard, silent]
    rfl
  | queued sent whole syncs unheard =>
    have summons : s.summoned = true := by
      rw [summoned, whole]
      simp
    refine .heard (dismissed ▸ sent) queue ?_
    rw [hears, summons, Bool.or_true]
  | heard sent whole heard =>
    refine .heard (dismissed ▸ sent) queue ?_
    rw [hears, heard, Bool.true_or]

theorem step (call : s.Call) (shaped : s.Shaped) (step : Step s s') : s'.Call := by
  cases step with
  | send t free =>
    have unheard := call.unheard free
    have queue : (s.sends t).worker.queue = _ := Worker.queue_send _ _ (live_of_unheard unheard)
    have phase : (s.sends t).worker.phase = _ := Worker.phase_send _ _
    cases call with
    | unsent _ syncs =>
      refine .unsent free ?_ (phase ▸ unheard)
      intro c mem
      rw [queue] at mem
      rcases List.mem_append.mp mem with mem | mem
      · exact syncs c mem
      · cases List.mem_singleton.mp mem
        rfl
    | queued dismissed | heard dismissed =>
      rw [free] at dismissed
      cases dismissed
  | dismiss free =>
    have unheard := call.unheard free
    have queue : s.dismisses.worker.queue = _ := Worker.queue_send _ _ (live_of_unheard unheard)
    have phase : s.dismisses.worker.phase = _ := Worker.phase_send _ _
    cases call with
    | unsent _ syncs => exact .queued rfl queue syncs (phase ▸ unheard)
    | queued dismissed | heard dismissed =>
      rw [free] at dismissed
      cases dismissed
  | @receive t rest waiting idle first =>
    have worker : s.receives.worker = ⟨rest, .triggered⟩ := Worker.receive_sync waiting first
    cases call with
    | unsent free syncs =>
      refine .unsent free ?_ (by rw [worker]; rfl)
      intro c mem
      rw [worker] at mem
      exact syncs c (first ▸ List.mem_cons_of_mem _ mem)
    | @queued cs sent whole syncs =>
      cases cs with
      | nil =>
        rw [first] at whole
        cases whole
      | cons c others =>
        rw [first] at whole
        injection whole with _ whole
        exact .queued sent (by rw [worker]; exact whole) (fun c mem => syncs c (List.mem_cons_of_mem _ mem))
          (by rw [worker]; rfl)
    | heard _ whole =>
      rw [first] at whole
      cases whole
  | @close rest waiting idle first =>
    have worker : s.closes.worker = ⟨rest, .stopped⟩ := Worker.receive_shutdown waiting first
    cases call with
    | unsent free syncs => cases syncs .shutdown (first ▸ List.mem_cons_self)
    | @queued cs sent whole syncs =>
      cases cs with
      | nil =>
        rw [first] at whole
        injection whole with _ whole
        exact .heard sent (by rw [worker]; exact whole) (by rw [worker]; rfl)
      | cons c others =>
        rw [first] at whole
        injection whole with same
        cases syncs .shutdown (same ▸ List.mem_cons_self)
    | heard _ whole =>
      rw [first] at whole
      cases whole
  | gather triggered =>
    refine call.emptied rfl ?_ ?_ <;> rw [worker_gathers triggered]
    rw [triggered]
    rfl
  | sweep answered =>
    obtain ⟨stop, serving⟩ := shaped.serving answered
    refine call.emptied rfl ?_ ?_ <;> rw [worker_sweeps serving]
    rw [serving]
    show (if stop || s.summoned then Worker.Phase.stopped else .waiting).hasHeard = (stop || s.summoned)
    split
    · next sees => exact sees.symm
    · next blind => exact (Bool.eq_false_iff.mpr blind).symm
  | proceed | answer | finish | report => exact call.congr rfl rfl

end Call

/-- What the numbers say, what the worker has heard, and when the triggers in the queue came. -/
structure Watched (s : Shift) : Prop where
  sent : ∀ i, .sent i ∈ s.log ↔ i < s.sent
  taken : s.log.flatMap Note.takes = List.range s.taken
  halted : ∀ x ∈ s.log, x.halts = true →
    s.worker.phase = .stopped ∨ s.worker.phase = .serving true ∧ ∃ is, x = .drained s.turn is true
  pending : ∀ stop, s.worker.phase = .serving stop → ∀ i ∈ s.pending,
    ∃ fs stop, [.drained s.turn fs stop, .sent i] <+ s.log

namespace Watched

theorem opening (p : Policy) : (opening p).Watched where
  sent i := by simp [Shift.opening, Shift.sent, Worker.arrived]
  taken := rfl
  halted x mem := by cases mem
  pending stop serving := by cases serving

theorem aside (watched : s.Watched) (aside : Aside s s') : s'.Watched := by
  obtain ⟨worker, dismissed, taken, turn, ns, log, told⟩ := aside
  have sent : s'.sent = s.sent := by rw [Shift.sent, Shift.sent, worker, taken]
  have pending : s'.pending = s.pending := by rw [Shift.pending, Shift.pending, worker, taken]
  refine ⟨?_, ?_, ?_, ?_⟩
  · intro i
    rw [log, sent, List.mem_append, watched.sent, or_iff_left]
    intro mem
    cases (told _ mem).1
  · have silent : ns.flatMap Note.takes = [] := List.flatMap_eq_nil_iff.mpr fun x mem => (told x mem).2.1
    rw [log, taken, List.flatMap_append, silent, List.append_nil, watched.taken]
  · intro x mem halts
    rw [worker, turn]
    rw [log, List.mem_append] at mem
    rcases mem with mem | mem
    · exact watched.halted x mem halts
    · rw [(told x mem).2.2] at halts
      cases halts
  · intro stop serving i mem
    rw [worker] at serving
    rw [pending] at mem
    obtain ⟨fs, stop, before⟩ := watched.pending stop serving i mem
    rw [turn, log]
    exact ⟨fs, stop, before.trans (List.sublist_append_left _ _)⟩

theorem sent_concat {x : Note} (watched : s.Watched) (log : s'.log = s.log ++ [x]) (mute : x.sends? = none)
    (same : s'.sent = s.sent) (i : Nat) : .sent i ∈ s'.log ↔ i < s'.sent := by
  rw [log, same, List.mem_append, watched.sent, or_iff_left]
  intro mem
  cases List.mem_singleton.mp mem
  cases mute

theorem taken_concat {x : Note} (watched : s.Watched) (log : s'.log = s.log ++ [x])
    (more : List.range s.taken ++ x.takes = List.range s'.taken) :
    s'.log.flatMap Note.takes = List.range s'.taken := by
  rw [log, List.flatMap_append, watched.taken, ← more, List.flatMap_singleton]

/-- All triggers of the queue are taken. -/
theorem range_pending (s : Shift) : List.range s.taken ++ s.pending = List.range s.sent := by
  rw [Shift.pending, Shift.sent, List.range_eq_range', List.range_eq_range', ← List.range'_append]
  simp

/-- A trigger is taken from the queue once. -/
theorem takes_once (watched : s.Watched) {x y : Note} (memX : x ∈ s.log) (memY : y ∈ s.log) (takesX : i ∈ x.takes)
    (takesY : i ∈ y.takes) : x = y := by
  have distinct : (s.log.flatMap Note.takes).Nodup := by
    rw [watched.taken]
    exact List.nodup_range
  have : Std.Symm (Function.onFun List.Disjoint Note.takes) := ⟨fun _ _ => List.disjoint_symm⟩
  by_contra other
  exact (List.nodup_flatMap.mp distinct).2.forall memX memY other takesX takesY

/-- Nothing has been seen by a worker that goes on. -/
theorem unseen (watched : s.Watched) (going : s.worker.phase.hasHeard = false) (x : Note) (mem : x ∈ s.log) :
    x.halts = false := by
  cases halts : x.halts with
  | false => rfl
  | true =>
    rcases watched.halted x mem halts with phase | ⟨phase, -⟩ <;> rw [phase] at going <;> cases going

/-- If nothing has been seen before, it is the last note that tells of a shutdown. -/
theorem last_of_halts (watched : s.Watched) (going : s.worker.phase.hasHeard = false) {x y : Note}
    (mem : y ∈ s.log ++ [x]) (halts : y.halts = true) : y = x := by
  rcases List.mem_append.mp mem with earlier | last
  · rw [watched.unseen going y earlier] at halts
    cases halts
  · exact List.mem_singleton.mp last

theorem send (watched : s.Watched) (call : s.Call) (shaped : s.Shaped) (t : Trigger)
    (free : s.dismissed = false) : (s.sends t).Watched := by
  have live := live_of_unheard (call.unheard free)
  have arrived : (s.sends t).worker.arrived = s.worker.arrived + 1 := Worker.arrived_send_sync live
  have phase : (s.sends t).worker.phase = s.worker.phase := Worker.phase_send _ _
  have sent : (s.sends t).sent = s.sent + 1 := congrArg (s.taken + ·) arrived
  refine ⟨?_, ?_, ?_, ?_⟩
  · intro i
    rw [sent]
    show .sent i ∈ s.log ++ [.sent s.sent] ↔ _
    rw [List.mem_append, watched.sent, List.mem_singleton, Note.sent.injEq]
    omega
  · exact watched.taken_concat rfl (List.append_nil _)
  · intro x mem halts
    rcases List.mem_append.mp mem with mem | mem
    · rw [phase]
      exact watched.halted x mem halts
    · cases List.mem_singleton.mp mem
      cases halts
  · intro stop serving i mem
    rw [phase] at serving
    have pending : (s.sends t).pending = s.pending ++ [s.sent] := by
      rw [Shift.pending, arrived, List.range'_concat]
      simp [Shift.pending, Shift.sent, sends]
    rw [pending] at mem
    rcases List.mem_append.mp mem with mem | mem
    · obtain ⟨fs, stop, before⟩ := watched.pending stop serving i mem
      exact ⟨fs, stop, before.trans (List.sublist_append_left _ _)⟩
    · cases List.mem_singleton.mp mem
      obtain ⟨fs, drained⟩ := shaped.drained serving
      exact ⟨fs, stop, pair_sublist_concat drained⟩

theorem step (watched : s.Watched) (call : s.Call) (shaped : s.Shaped) (step : Step s s') : s'.Watched := by
  cases step with
  | send t free => exact watched.send call shaped t free
  | dismiss free =>
    have arrived : s.dismisses.worker.arrived = s.worker.arrived := Worker.arrived_send_shutdown _
    have phase : s.dismisses.worker.phase = s.worker.phase := Worker.phase_send _ _
    have sent : s.dismisses.sent = s.sent := congrArg (s.taken + ·) arrived
    have pending : s.dismisses.pending = s.pending := congrArg (List.range' s.taken) arrived
    refine ⟨?_, watched.taken, ?_, ?_⟩
    · rw [sent]
      exact watched.sent
    · rw [phase]
      exact watched.halted
    · rw [phase, pending]
      exact watched.pending
  | @receive t rest waiting idle first =>
    have worker : s.receives.worker = ⟨rest, .triggered⟩ := Worker.receive_sync waiting first
    have going : s.worker.phase.hasHeard = false := by rw [waiting]; rfl
    refine ⟨watched.sent_concat rfl rfl ?_, watched.taken_concat rfl List.range_succ.symm, ?_, ?_⟩
    · rw [Shift.sent, Shift.sent, worker, Worker.arrived_sync first]
      exact Nat.add_right_comm _ 1 _
    · intro x mem halts
      cases watched.last_of_halts going mem halts
      cases halts
    · intro stop serving
      rw [worker] at serving
      cases serving
  | @close rest waiting idle first =>
    have worker : s.closes.worker = ⟨rest, .stopped⟩ := Worker.receive_shutdown waiting first
    refine ⟨watched.sent_concat rfl rfl ?_, watched.taken_concat rfl (List.append_nil _), ?_, ?_⟩
    · rw [Shift.sent, Shift.sent, worker, Worker.arrived_shutdown first]
      rfl
    · intro x mem halts
      rw [worker]
      exact Or.inl rfl
    · intro stop serving
      rw [worker] at serving
      cases serving
  | gather triggered =>
    have worker := worker_gathers triggered
    have going : s.worker.phase.hasHeard = false := by rw [triggered]; rfl
    refine ⟨watched.sent_concat rfl rfl ?_, watched.taken_concat rfl (range_pending s), ?_, ?_⟩
    · rw [Shift.sent, worker]
      rfl
    · intro x mem halts
      cases watched.last_of_halts going mem halts
      have summons : s.summoned = true := halts
      rw [worker, summons]
      exact Or.inr ⟨rfl, _, rfl⟩
    · intro stop _ i mem
      rw [Shift.pending, worker] at mem
      cases mem
  | sweep answered =>
    obtain ⟨stop, serving⟩ := shaped.serving answered
    have worker := worker_sweeps serving
    refine ⟨watched.sent_concat rfl rfl ?_, watched.taken_concat rfl (range_pending s), ?_, ?_⟩
    · rw [Shift.sent, worker]
      rfl
    · intro x mem halts
      have heard : (stop || s.summoned) = true := by
        rcases List.mem_append.mp mem with mem | mem
        · rcases watched.halted x mem halts with phase | ⟨phase, -⟩
          · rw [serving] at phase
            cases phase
          · rw [serving] at phase
            cases phase
            rfl
        · cases List.mem_singleton.mp mem
          have summons : s.summoned = true := halts
          rw [summons, Bool.or_true]
      rw [worker, heard]
      exact Or.inl rfl
    · intro stop' phase
      rw [worker] at phase
      split at phase <;> cases phase
  | proceed => exact watched.aside ⟨rfl, rfl, rfl, rfl, _, rfl, fun _ mem => Note.aside_ofStages mem⟩
  | answer => exact watched.aside ⟨rfl, rfl, rfl, rfl, [], (List.append_nil _).symm, by simp⟩
  | finish | report =>
    exact watched.aside ⟨rfl, rfl, rfl, rfl, _, rfl, by simp [Note.sends?, Note.takes, Note.halts]⟩

theorem crowd (watched : s.Watched) (step : Crowd s s') : s'.Watched := by
  obtain ⟨o, others, ns, rfl, -, told⟩ := step.cases
  refine watched.aside ⟨rfl, rfl, rfl, rfl, ns, rfl, ?_⟩
  rcases told with ⟨rfl, -⟩ | ⟨rfl, -⟩ <;> simp [Note.sends?, Note.takes, Note.halts]

end Watched

/-- What holds of a worker and of all that is told of it at any time. -/
structure Kept (p : Policy) (s : Shift) : Prop where
  policy : s.orchestrator.policy = p
  shaped : s.Shaped
  call : s.Call
  watched : s.Watched
  /-- Wherever the rest of a cycle leads, the whole cycle leads there. -/
  cycle : ∀ made rest, s.errand = .cycle made rest →
    ∀ y t, Ends takesDown rest made y t → Ends takesDown p.cycle [] y t
  chronicle : Chronicle p s.log

namespace Kept

theorem opening (p : Policy) : (opening p).Kept p where
  policy := rfl
  shaped := .opening p
  call := .opening p
  watched := .opening p
  cycle _ _ errand := by cases errand
  chronicle u x v split := by cases u <;> cases split

/-- What was taken from the queue has been sent. -/
theorem sent_of_takes (watched : s.Watched) {x : Note} (mem : x ∈ s.log) (takes : i ∈ x.takes) :
    .sent i ∈ s.log := by
  have taken : i ∈ s.log.flatMap Note.takes := List.mem_flatMap.mpr ⟨x, mem, takes⟩
  rw [watched.taken, List.mem_range] at taken
  rw [watched.sent]
  exact Nat.lt_of_lt_of_le taken (Nat.le_add_right _ _)

theorem cycle_step (kept : s.Kept p) (step : Step s s') (made : Transcript)
    (rest : Program (Except Failure Report)) (errand : s'.errand = .cycle made rest) (y : Except Failure Report)
    (t : Transcript) (ends : Ends takesDown rest made y t) : Ends takesDown p.cycle [] y t := by
  cases step with
  | send | dismiss | receive | close => exact kept.cycle made rest errand y t ends
  | gather | finish | sweep | report => cases errand
  | @proceed stage =>
    have begun : Errand.ofStage s.orchestrator.policy (s.orchestrator.step stage).1 = .cycle made rest := errand
    by_cases running : (s.orchestrator.step stage).1 = .running
    · rw [running, Errand.ofStage_running, kept.policy] at begun
      cases begun
      exact ends
    · rw [Errand.ofStage_of_ne _ running] at begun
      cases begun
  | answer x before =>
    cases errand
    exact kept.cycle _ _ before y t (.call rfl ends)

/-- A cycle is not started once a shutdown has been seen, unless it was seen on the way to this cycle. -/
theorem warranted_start (kept : s.Kept p) {stage : Stage} (request : s.errand = .request stage) :
    Note.Warranted p s.log (.started s.turn) := by
  obtain ⟨stop, serving⟩ := kept.shaped.serving request
  refine fun x mem => ⟨fun i => sent_of_takes kept.watched mem, fun halts => ?_⟩
  rcases kept.watched.halted x mem halts with stopped | ⟨-, own⟩
  · rw [serving] at stopped
    cases stopped
  · exact own

theorem chronicle_step (kept : s.Kept p) (step : Step s s') : Chronicle p s'.log := by
  have chronicle := kept.chronicle
  cases step with
  | send | receive | close | gather | report => exact chronicle.concat trivial
  | dismiss | answer => exact chronicle
  | @proceed stage errand unanswered =>
    show Chronicle p (s.log ++ Note.ofStages s.hand s.turn stage (s.orchestrator.step stage).1)
    unfold Note.ofStages
    split
    · exact chronicle.concat trivial
    · exact chronicle.concat trivial
    · exact chronicle.concat (kept.warranted_start errand)
    · rw [List.append_nil]
      exact chronicle
  | finish errand => exact chronicle.concat (kept.cycle _ _ errand _ _ .done)
  | sweep answered =>
    obtain ⟨stop, serving⟩ := kept.shaped.serving answered
    exact chronicle.concat fun i mem => kept.watched.pending stop serving i mem

theorem step (kept : s.Kept p) (step : Step s s') : s'.Kept p where
  policy := by
    cases step with
    | proceed => exact (policy_step _ _).trans kept.policy
    | _ => exact kept.policy
  shaped := kept.shaped.step step
  call := kept.call.step kept.shaped step
  watched := kept.watched.step kept.call kept.shaped step
  cycle := kept.cycle_step step
  chronicle := kept.chronicle_step step

theorem crowd (kept : s.Kept p) (step : Crowd s s') : s'.Kept p := by
  have shaped := kept.shaped.crowd step
  have watched := kept.watched.crowd step
  obtain ⟨o, others, ns, rfl, policy, told⟩ := step.cases
  refine ⟨policy.trans kept.policy, shaped, kept.call.congr rfl rfl, watched, kept.cycle, ?_⟩
  rcases told with ⟨rfl, -⟩ | ⟨rfl, -⟩
  · show Chronicle p (s.log ++ [])
    rw [List.append_nil]
    exact kept.chronicle
  · exact kept.chronicle.concat trivial

theorem of_mixes (run : Mixes (Shift.opening p) s) : s.Kept p := by
  induction run with
  | refl => exact Kept.opening p
  | tail _ step ih =>
    rcases step with own | other
    · exact ih.step own
    · exact ih.crowd other

end Kept

end Shift

end MailboxSync
