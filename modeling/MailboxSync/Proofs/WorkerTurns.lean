import MailboxSync.Proofs.WorkerSteps

namespace MailboxSync.Shift

open scoped List

variable {s s' : Shift} {i j : Nat} {ns : List Note}

/-- Where a worker is in its loop, and what there is to tell of the turn by then. -/
inductive Standing (i j : Nat) : Worker.Phase → Errand → List Note → Prop
  | waiting {e} : e.isAside = true → Standing i j .waiting e []
  | triggered : Standing i j .triggered .idle [.received i j]
  | asked {stop stage is} : stage = .asked ∨ stage = .admitted →
      Standing i j (.serving stop) (.request stage) [.received i j, .drained j is stop]
  | refused {stop stage is} : stage = .refused ∨ stage = .answered .coalesced →
      Standing i j (.serving stop) (.request stage) [.received i j, .drained j is stop, .refused i j]
  | cycle {stop made rest is} :
      Standing i j (.serving stop) (.cycle made rest) [.received i j, .drained j is stop, .started j]
  | ended {stop stage is made y} : stage.hasEnded = true →
      Standing i j (.serving stop) (.request stage)
        [.received i j, .drained j is stop, .started j, .ended j made y]
  | stopped {e} : e.isAside = true → Standing i j .stopped e []

/-- All that there is to tell of a turn that is over. -/
inductive Round (j : Nat) : List Note → Prop
  | refused {i is stop ds stop'} :
      Round j [.received i j, .drained j is stop, .refused i j, .swept j ds stop']
  | served {i is stop made y ds stop'} :
      Round j [.received i j, .drained j is stop, .started j, .ended j made y, .swept j ds stop']

namespace Standing

variable {stage : Stage} {phase : Worker.Phase} {e : Errand} {r : List Note} {p : Policy} {o : Orchestrator}

theorem nodup (standing : Standing i j phase e r) : r.Nodup := by
  cases standing <;> simp

theorem untold (standing : Standing i j phase e r) (waiting : phase = .waiting) : r = [] := by
  cases standing with
  | waiting => rfl
  | _ => cases waiting

theorem untold_of_stopped (standing : Standing i j .stopped e r) : r = [] := by
  cases standing
  rfl

theorem begun (standing : Standing i j .triggered e r) : r = [.received i j] := by
  cases standing
  rfl

theorem answer {made made' : Transcript} {rest rest' : Program (Except Failure Report)}
    (standing : Standing i j phase (.cycle made rest) r) : Standing i j phase (.cycle made' rest') r := by
  cases standing with
  | waiting aside | stopped aside => cases aside
  | cycle => exact .cycle

theorem finish {made : Transcript} {rest : Program (Except Failure Report)} {y : Except Failure Report}
    {made' : Transcript} {x : Outcome} (standing : Standing i j phase (.cycle made rest) r) :
    Standing i j phase (.request (.ended x)) (r ++ [.ended j made' y]) := by
  cases standing with
  | waiting aside | stopped aside => cases aside
  | cycle => exact .ended rfl

theorem rest {is : List Nat} (standing : Standing i j phase (.report is) r) :
    Standing i j phase .idle r := by
  cases standing with
  | waiting => exact .waiting rfl
  | stopped => exact .stopped rfl

/-- The request of the worker comes to its next stage. -/
theorem proceed (standing : Standing i j phase (.request stage) r) (unanswered : stage.isAnswered = false) :
    Standing i j phase (.ofStage p (o.step stage).1)
      (r ++ (Note.ofStages i j stage (o.step stage).1).filter fun x => x.turn? = some j) := by
  cases standing with
  | waiting aside | stopped aside => cases aside
  | @asked stop _ is here =>
    rcases here with rfl | rfl
    · cases locked : o.locked with
      | true =>
        have next : Standing i j (.serving stop) (.request .refused)
            [.received i j, .drained j is stop, .refused i j] := .refused (Or.inl rfl)
        simpa [Orchestrator.step, locked, Note.ofStages, Note.turn?] using next
      | false =>
        have next : Standing i j (.serving stop) (.request .admitted)
            [.received i j, .drained j is stop] := .asked (Or.inr rfl)
        simpa [Orchestrator.step, locked, Note.ofStages] using next
    · have next : Standing i j (.serving stop) (.cycle [] p.cycle)
          [.received i j, .drained j is stop, .started j] := .cycle
      simpa [Orchestrator.step, Note.ofStages, Note.turn?] using next
  | @refused stop _ is here =>
    rcases here with rfl | rfl
    · have next : Standing i j (.serving stop) (.request (.answered .coalesced))
          [.received i j, .drained j is stop, .refused i j] := .refused (Or.inr rfl)
      simpa [Orchestrator.step, Note.ofStages, Note.turn?] using next
    · cases unanswered
  | @ended stop stage is made y ended =>
    have next : ∀ stage, stage.hasEnded = true →
        Standing i j (.serving stop) (.request stage)
          [.received i j, .drained j is stop, .started j, .ended j made y] := fun _ => .ended
    cases stage with
    | asked | refused | admitted | running => cases ended
    | answered => cases unanswered
    | ended e => simpa [Orchestrator.step, Note.ofStages] using next (.recorded e) rfl
    | recorded e => simpa [Orchestrator.step, Note.ofStages] using next (.released e) rfl
    | released e => simpa [Orchestrator.step, Note.ofStages] using next (.notified e) rfl
    | notified e => simpa [Orchestrator.step, Note.ofStages] using next (.answered (.ended e)) rfl

/-- When it has been answered, the queue is emptied and the turn is over. -/
theorem sweep {x : SyncReply} (standing : Standing i j phase (.request (.answered x)) r) (ds : List Nat)
    (stop' : Bool) : Round j (r ++ [.swept j ds stop']) := by
  cases standing with
  | waiting aside | stopped aside => cases aside
  | asked here => rcases here with here | here <;> cases here
  | refused => exact .refused
  | ended => exact .served

theorem drained {stop : Bool} (standing : Standing i j (.serving stop) e r) :
    ∃ fs, .drained j fs stop ∈ r := by
  cases standing with
  | asked | refused | cycle | ended => exact ⟨_, List.mem_cons_of_mem _ List.mem_cons_self⟩

/-- The worker is busy with a cycle just while it is serving. -/
theorem serving (standing : Standing i j phase e r) (busy : e.isAside = false) : ∃ stop, phase = .serving stop := by
  cases standing with
  | waiting aside | stopped aside =>
    rw [aside] at busy
    cases busy
  | triggered => cases busy
  | asked | refused | cycle | ended => exact ⟨_, rfl⟩

/-- A request is still to become a cycle, or will not become one any more. -/
theorem ne_running (standing : Standing i j phase (.request stage) r) : stage ≠ .running := by
  rintro rfl
  cases standing with
  | waiting aside | stopped aside => cases aside
  | asked here | refused here => rcases here with here | here <;> cases here
  | ended ended => cases ended

theorem idle (standing : Standing i j .triggered e r) : e = .idle := by
  cases standing
  rfl

theorem between {is : List Nat} (standing : Standing i j phase (.report is) r) :
    phase = .waiting ∨ phase = .stopped := by
  cases standing with
  | waiting => exact Or.inl rfl
  | stopped => exact Or.inr rfl

end Standing

theorem Round.nodup {r : List Note} (round : Round j r) : r.Nodup := by
  cases round <;> simp

/-- Turns that are over have been told in full, this turn as far as it has come, later ones not at all. -/
structure Shaped (s : Shift) : Prop where
  past : ∀ j < s.turn, Round j (s.round j)
  present : Standing s.hand s.turn s.worker.phase s.errand (s.round s.turn)
  future : ∀ j, s.turn < j → s.round j = []

theorem round_append (log : s'.log = s.log ++ ns) (j : Nat) :
    s'.round j = s.round j ++ ns.filter fun x => x.turn? = some j := by
  rw [round, log, List.filter_append]
  rfl

namespace Shaped

theorem opening (p : Policy) : (opening p).Shaped where
  past j before := absurd before (Nat.not_lt_zero j)
  present := .waiting rfl
  future _ _ := rfl

/-- In a step within a turn there is only this turn to look at. -/
theorem within (shaped : s.Shaped) (ns : List Note) (turn : s'.turn = s.turn) (log : s'.log = s.log ++ ns)
    (own : ∀ x ∈ ns, ∀ j, x.turn? = some j → j = s.turn)
    (present : Standing s'.hand s.turn s'.worker.phase s'.errand
      (s.round s.turn ++ ns.filter fun x => x.turn? = some s.turn)) : s'.Shaped := by
  have other : ∀ j, j ≠ s.turn → s'.round j = s.round j := by
    intro j away
    rw [round_append log, List.filter_eq_nil_iff.mpr, List.append_nil]
    intro x mem same
    exact away (own x mem j (of_decide_eq_true same))
  refine ⟨?_, ?_, ?_⟩
  · intro j before
    rw [turn] at before
    rw [other j (Nat.ne_of_lt before)]
    exact shaped.past j before
  · rw [turn, round_append log]
    exact present
  · intro j after
    rw [turn] at after
    rw [other j (Nat.ne_of_gt after)]
    exact shaped.future j after

theorem serving {stage : Stage} (shaped : s.Shaped) (request : s.errand = .request stage) :
    ∃ stop, s.worker.phase = .serving stop := shaped.present.serving (by rw [request]; rfl)

theorem drained {stop : Bool} (shaped : s.Shaped) (serving : s.worker.phase = .serving stop) :
    ∃ fs, .drained s.turn fs stop ∈ s.log := by
  have present := shaped.present
  rw [serving] at present
  obtain ⟨fs, mem⟩ := present.drained
  exact ⟨fs, (List.mem_filter.mp mem).1⟩

/-- In the last step of a turn the turn is told to its end. -/
theorem sweep {x : SyncReply} (shaped : s.Shaped) (answered : s.errand = .request (.answered x)) :
    s.sweeps.Shaped := by
  obtain ⟨stop, serving⟩ := shaped.serving answered
  have present := shaped.present
  rw [answered] at present
  have whole := present.sweep s.pending s.summoned
  have log : s.sweeps.log = s.log ++ [.swept s.turn s.pending s.summoned] := rfl
  have other : ∀ j, s.turn ≠ j → s.sweeps.round j = s.round j := by
    intro j away
    rw [round_append log]
    simp [Note.turn?, away]
  refine ⟨?_, ?_, ?_⟩
  · intro j before
    rcases Nat.lt_succ_iff_lt_or_eq.mp before with before | rfl
    · rw [other j (Nat.ne_of_gt before)]
      exact shaped.past j before
    · rw [round_append log]
      simpa [Note.turn?] using whole
  · show Standing s.hand (s.turn + 1) _ (.report s.pending) (s.sweeps.round (s.turn + 1))
    rw [other _ (Nat.ne_of_lt (Nat.lt_succ_self _)), shaped.future _ (Nat.lt_succ_self _), worker_sweeps serving]
    show Standing s.hand (s.turn + 1) (if stop || s.summoned then .stopped else .waiting) _ _
    split
    · exact .stopped rfl
    · exact .waiting rfl
  · intro j after
    have after : s.turn < j := Nat.lt_of_succ_lt after
    rw [other j (Nat.ne_of_lt after)]
    exact shaped.future j after

theorem step (shaped : s.Shaped) (step : Step s s') : s'.Shaped := by
  have present := shaped.present
  cases step with
  | send t free =>
    refine shaped.within [.sent s.sent] rfl rfl (by simp [Note.turn?]) ?_
    simpa [sends, Worker.phase_send, Note.turn?] using present
  | dismiss free =>
    refine shaped.within [] rfl (List.append_nil _).symm (by simp) ?_
    simpa [dismisses, Worker.phase_send] using present
  | @receive t rest waiting idle first =>
    refine shaped.within [.received s.taken s.turn] rfl rfl (by simp [Note.turn?]) ?_
    rw [waiting, idle] at present
    have untold := present.untold rfl
    simpa [receives, Worker.receive_sync waiting first, idle, untold, Note.turn?] using
      Standing.triggered (i := s.taken) (j := s.turn)
  | @close rest waiting idle first =>
    refine shaped.within [.closed] rfl rfl (by simp [Note.turn?]) ?_
    rw [waiting, idle] at present
    have untold := present.untold rfl
    simpa [closes, Worker.receive_shutdown waiting first, idle, untold, Note.turn?] using
      Standing.stopped (i := s.hand) (j := s.turn) (e := .idle) rfl
  | gather triggered =>
    refine shaped.within [.drained s.turn s.pending s.summoned] rfl rfl (by simp [Note.turn?]) ?_
    rw [triggered] at present
    have asked : Standing s.hand s.turn (.serving s.summoned) (.request .asked)
        [.received s.hand s.turn, .drained s.turn s.pending s.summoned] := .asked (Or.inl rfl)
    show Standing s.hand s.turn s.gathers.worker.phase (.request .asked) _
    rw [worker_gathers triggered, present.begun]
    simpa [Note.turn?] using asked
  | @proceed stage errand unanswered =>
    refine shaped.within (Note.ofStages s.hand s.turn stage (s.orchestrator.step stage).1) rfl rfl
      (fun _ mem _ => Note.turn?_ofStages mem) ?_
    rw [errand] at present
    exact present.proceed unanswered
  | @answer made r next x cycle =>
    refine shaped.within [] rfl (List.append_nil _).symm (by simp) ?_
    rw [cycle] at present
    simpa using present.answer
  | @finish made y cycle =>
    refine shaped.within [.ended s.turn made y] rfl rfl (by simp [Note.turn?]) ?_
    rw [cycle] at present
    simpa [finishes, Note.turn?] using present.finish
  | sweep answered => exact shaped.sweep answered
  | @report is report =>
    refine shaped.within [.counted is] rfl rfl (by simp [Note.turn?]) ?_
    rw [report] at present
    simpa [reports, Note.turn?] using present.rest

theorem crowd (shaped : s.Shaped) (step : Crowd s s') : s'.Shaped := by
  obtain ⟨o, others, ns, rfl, -, told⟩ := step.cases
  refine shaped.within ns rfl rfl ?_ ?_
  · rcases told with ⟨rfl, -⟩ | ⟨rfl, -⟩ <;> simp [Note.turn?]
  · rcases told with ⟨rfl, -⟩ | ⟨rfl, -⟩ <;> simpa [Note.turn?] using shaped.present

theorem mem_round {x : Note} (mem : x ∈ s.log) (turn : x.turn? = some j) : x ∈ s.round j :=
  List.mem_filter.mpr ⟨mem, decide_eq_true turn⟩

/-- Nothing is told twice of a turn. -/
theorem nodup_round (shaped : s.Shaped) (j : Nat) : (s.round j).Nodup := by
  rcases Nat.lt_trichotomy j s.turn with before | rfl | after
  · exact (shaped.past j before).nodup
  · exact shaped.present.nodup
  · rw [shaped.future j after]
    exact List.nodup_nil

theorem pair_round {x y : Note} (before : [x, y] <+ s.log) (first : x.turn? = some j) (second : y.turn? = some j) :
    [x, y] <+ s.round j := by
  show [x, y] <+ s.log.filter fun x => x.turn? = some j
  have kept := before.filter fun x => decide (x.turn? = some j)
  simpa [first, second] using kept

/-- The turn of a cycle that was started, as far as it is told. -/
theorem started_cases (shaped : s.Shaped) (mem : .started j ∈ s.log) : ∃ i is stop rest,
    s.round j = .received i j :: .drained j is stop :: .started j :: rest ∧
      (rest = [] ∧ j = s.turn ∧ (∃ made left, s.errand = .cycle made left) ∨
        ∃ made y, rest = [.ended j made y] ∨ ∃ ds stop', rest = [.ended j made y, .swept j ds stop']) := by
  have mem : .started j ∈ s.round j := mem_round mem rfl
  rcases Nat.lt_trichotomy j s.turn with before | rfl | after
  · generalize whole : s.round j = r at mem
    have round := shaped.past j before
    rw [whole] at round
    cases round with
    | refused => simp at mem
    | @served i is stop made y ds stop' => exact ⟨i, is, stop, _, rfl, Or.inr ⟨made, y, Or.inr ⟨ds, stop', rfl⟩⟩⟩
  · have present := shaped.present
    generalize s.round s.turn = r, s.worker.phase = phase, same : s.errand = e at mem present
    cases present with
    | waiting | stopped | triggered | asked | refused => simp at mem
    | @cycle stop made rest is => exact ⟨_, is, stop, [], rfl, Or.inl ⟨rfl, rfl, made, rest, rfl⟩⟩
    | @ended stop stage is made y => exact ⟨_, is, stop, _, rfl, Or.inr ⟨made, y, Or.inl rfl⟩⟩
  · rw [shaped.future j after] at mem
    cases mem

/-- The turn of a request that found the lock taken, as far as it is told. -/
theorem refused_cases (shaped : s.Shaped) (mem : .refused i j ∈ s.log) : ∃ is stop rest,
    s.round j = .received i j :: .drained j is stop :: .refused i j :: rest ∧
      (rest = [] ∨ ∃ ds stop', rest = [.swept j ds stop']) := by
  have mem : .refused i j ∈ s.round j := mem_round mem rfl
  rcases Nat.lt_trichotomy j s.turn with before | rfl | after
  · generalize whole : s.round j = r at mem
    have round := shaped.past j before
    rw [whole] at round
    cases round with
    | served => simp at mem
    | @refused i' is stop ds stop' =>
      obtain rfl : i = i' := by simpa using mem
      exact ⟨is, stop, _, rfl, Or.inr ⟨ds, stop', rfl⟩⟩
  · have present := shaped.present
    generalize s.round s.turn = r, s.hand = hand, s.worker.phase = phase, s.errand = e at mem present
    cases present with
    | waiting | stopped | triggered | asked | cycle | ended => simp at mem
    | @refused stop stage is =>
      obtain rfl : i = hand := by simpa using mem
      exact ⟨is, stop, [], rfl, Or.inl rfl⟩
  · rw [shaped.future j after] at mem
    cases mem

end Shaped

end MailboxSync.Shift
