import MailboxSync.Proofs.RequestLock

namespace MailboxSync.Traffic

variable {t t' : Traffic} {i : Nat} {s s' : Stage} {o : Orchestrator} {ds : List Deed}

/-- The ends that were entered in the status, the latest last. -/
def recordings (t : Traffic) : List Outcome := t.log.filterMap fun x => x.2.recorded?

/-- How many requests found the lock taken. -/
def refusals (t : Traffic) : Nat := t.log.countP fun x => x.2 = .refused

/-- What a request has done. -/
def deeds (t : Traffic) (i : Nat) : List Deed := (t.log.filter fun x => x.1 = i).map Prod.snd

theorem recordings_turned :
    (t.turned i s o ds).recordings = t.recordings ++ ds.filterMap Deed.recorded? := by
  simp [recordings, turned, List.filterMap_append, List.filterMap_map]

theorem refusals_turned : (t.turned i s o ds).refusals = t.refusals + ds.countP (· = .refused) := by
  simp [refusals, turned, List.countP_map, Function.comp_def]

theorem deeds_turned (j : Nat) :
    (t.turned i s o ds).deeds j = t.deeds j ++ if j = i then ds else [] := by
  unfold deeds turned
  rw [List.filter_append, List.map_append, List.filter_map, List.map_map]
  by_cases own : j = i
  · simp [own, Function.comp_def]
  · simp [own, Ne.symm own, Function.comp_def]

theorem count_turned (here : t.calls[i]? = some s) (x : Stage) :
    (t.turned i s' o ds).calls.count x + (if s = x then 1 else 0) =
      t.calls.count x + if s' = x then 1 else 0 := by
  obtain ⟨bound, here⟩ := List.getElem?_eq_some_iff.mp here
  have counted : s = x → 0 < t.calls.count x := by
    rintro rfl
    exact List.count_pos_iff.mpr (here ▸ List.getElem_mem bound)
  show (t.calls.set i s').count x + _ = _
  rw [List.count_set bound, here]
  simp only [beq_iff_eq]
  split
  · next same =>
    have positive := counted same
    omega
  · omega

/-- Counters, last error and last report tell of the ends that were entered, and of no others. -/
structure Entered (t : Traffic) : Prop where
  completed : t.status.completed.toNat = t.recordings.countP Outcome.isCompleted % UInt64.size
  failed : t.status.failed.toNat = (t.recordings.countP fun o => !o.isCompleted) % UInt64.size
  lastError : t.status.lastError = t.recordings.getLast?.bind Outcome.error?
  lastReport : t.status.lastReport = (t.recordings.filterMap Outcome.report?).getLast?

namespace Entered

theorem congr (entered : t.Entered) (recordings : t'.recordings = t.recordings)
    (completed : t'.status.completed = t.status.completed) (failed : t'.status.failed = t.status.failed)
    (lastError : t'.status.lastError = t.status.lastError)
    (lastReport : t'.status.lastReport = t.status.lastReport) : t'.Entered := by
  refine ⟨?_, ?_, ?_, ?_⟩
  · rw [completed, recordings, entered.completed]
  · rw [failed, recordings, entered.failed]
  · rw [lastError, recordings, entered.lastError]
  · rw [lastReport, recordings, entered.lastReport]

theorem turn (entered : t.Entered) (turn : Turn t.orchestrator s s' o ds) :
    (t.turned i s' o ds).Entered := by
  cases turn with
  | refuse | enter | count | start | finish | release | tell | settle | leave | rest =>
    exact entered.congr (by rw [recordings_turned]; exact List.append_nil _) rfl rfl rfl rfl
  | @record e =>
    have noted : ∀ {o : Orchestrator},
        (t.turned i (.recorded e) o [.recorded e]).recordings = t.recordings ++ [e] := recordings_turned
    obtain ⟨completed, failed, lastError, lastReport⟩ := entered
    cases e with
    | completed r =>
      refine ⟨?_, ?_, ?_, ?_⟩
      · rw [noted, List.countP_append]
        show (t.status.completed + 1).toNat = _
        rw [UInt64.toNat_add, completed]
        simp [Outcome.isCompleted]
      · rw [noted, List.countP_append]
        exact failed
      · rw [noted, List.getLast?_concat]
        rfl
      · rw [noted, List.filterMap_append]
        exact List.getLast?_concat.symm
    | failed f =>
      refine ⟨?_, ?_, ?_, ?_⟩
      · rw [noted, List.countP_append]
        exact completed
      · rw [noted, List.countP_append]
        show (t.status.failed + 1).toNat = _
        rw [UInt64.toNat_add, failed]
        simp [Outcome.isCompleted]
      · rw [noted, List.getLast?_concat]
        rfl
      · rw [noted, List.filterMap_append]
        show t.status.lastReport = (t.recordings.filterMap Outcome.report? ++ []).getLast?
        rw [lastReport, List.append_nil]

theorem step (entered : t.Entered) (step : Step t t') : t'.Entered := by
  rcases step.cases with rfl | ⟨n, rfl⟩ | ⟨i, s, s', o, ds, here, turn, rfl⟩
  · exact entered.congr rfl rfl rfl rfl rfl
  · exact entered.congr rfl rfl rfl rfl rfl
  · exact entered.turn turn

/-- There is no error to show unless the last end that was entered is a failure. -/
theorem lastError_eq_none_iff (entered : t.Entered) :
    t.status.lastError = none ↔ t.recordings = [] ∨ ∃ r, t.recordings.getLast? = some (.completed r) := by
  rw [entered.lastError, ← List.getLast?_eq_none_iff]
  cases t.recordings.getLast? with
  | none => simp
  | some e => cases e <;> simp [Outcome.error?]

end Entered

/-- What was coalesced is the requests that found the lock taken and the reported ones. A request counts
itself a step after it has found the lock taken. -/
structure Counted (t : Traffic) : Prop where
  refusals : t.refusals = t.calls.count .refused + t.calls.count (.answered .coalesced)
  coalesced : t.status.coalesced.toNat = (t.calls.count (.answered .coalesced) + t.absorbed) % UInt64.size

namespace Counted

theorem congr (counted : t.Counted) (refusals : t'.refusals = t.refusals)
    (waiting : t'.calls.count .refused = t.calls.count .refused)
    (answered : t'.calls.count (.answered .coalesced) = t.calls.count (.answered .coalesced))
    (coalesced : t'.status.coalesced = t.status.coalesced) (absorbed : t'.absorbed = t.absorbed) :
    t'.Counted := by
  refine ⟨?_, ?_⟩
  · rw [refusals, waiting, answered, counted.refusals]
  · rw [coalesced, answered, absorbed, counted.coalesced]

theorem turn (counted : t.Counted) (here : t.calls[i]? = some s)
    (turn : Turn t.orchestrator s s' o ds) : (t.turned i s' o ds).Counted := by
  have count : ∀ x, (t.turned i s' o ds).calls.count x + (if s = x then 1 else 0) = _ := count_turned here
  have waiting := count .refused
  have answered := count (.answered .coalesced)
  have refusals : (t.turned i s' o ds).refusals = t.refusals + ds.countP (· = .refused) := refusals_turned
  cases turn with
  | refuse =>
    simp only [if_true, reduceCtorEq, if_false, Nat.add_zero] at waiting answered
    refine ⟨?_, ?_⟩
    · rw [refusals, waiting, answered, counted.refusals]
      exact Nat.add_right_comm _ _ 1
    · rw [answered]
      exact counted.coalesced
  | count =>
    simp only [if_true, reduceCtorEq, if_false, Nat.add_zero] at waiting answered
    refine ⟨?_, ?_⟩
    · rw [refusals, answered, counted.refusals, ← waiting]
      exact Nat.add_right_comm _ 1 _
    · rw [answered]
      show (t.status.coalesced + 1).toNat = (_ + 1 + t.absorbed) % UInt64.size
      rw [UInt64.toNat_add, counted.coalesced, Nat.add_right_comm, Nat.mod_add_mod]
      rfl
  | @record e => exact counted.congr refusals waiting answered (by cases e <;> rfl) rfl
  | enter | start | finish | release | tell | settle | leave =>
    exact counted.congr refusals waiting answered rfl rfl
  | rest =>
    exact counted.congr refusals (Nat.add_right_cancel waiting) (Nat.add_right_cancel answered) rfl rfl

theorem step (counted : t.Counted) (step : Step t t') : t'.Counted := by
  rcases step.cases with rfl | ⟨n, rfl⟩ | ⟨i, s, s', o, ds, here, turn, rfl⟩
  · exact counted.congr rfl List.count_append List.count_append rfl rfl
  · refine ⟨counted.refusals, ?_⟩
    show (t.status.coalesced + n).toNat = (_ + (t.absorbed + n.toNat)) % UInt64.size
    rw [UInt64.toNat_add, counted.coalesced, Nat.mod_add_mod, Nat.add_assoc]
  · exact counted.turn here turn

end Counted

/-- Every request has done what its stage says, once each and in this order. -/
def Told (t : Traffic) : Prop := ∀ i, t.deeds i = t.calls[i]?.elim [] Stage.deeds

namespace Told

theorem turn (told : t.Told) (here : t.calls[i]? = some s) (turn : Turn t.orchestrator s s' o ds) :
    (t.turned i s' o ds).Told := by
  have more : s.deeds ++ ds = s'.deeds := by
    cases turn with
    | rest => exact List.append_nil _
    | _ => rfl
  intro j
  rw [deeds_turned, told j]
  by_cases own : j = i
  · subst own
    rw [if_pos rfl, here, getElem?_turned_self here]
    exact more
  · rw [if_neg own, getElem?_turned_ne own, List.append_nil]

theorem step (told : t.Told) (step : Step t t') : t'.Told := by
  rcases step.cases with rfl | ⟨n, rfl⟩ | ⟨i, s, s', o, ds, here, turn, rfl⟩
  · intro i
    show t.deeds i = (t.calls ++ [.asked])[i]?.elim [] Stage.deeds
    rw [told i]
    rcases t.getElem?_arrive i with same | ⟨absent, new⟩
    · rw [same]
    · rw [new, absent]
      rfl
  · exact told
  · exact told.turn here turn

end Told

/-- While a cycle is under way the state is taken away from running only by the request that enters the end
of that cycle. -/
theorem running_until_recorded (step : Step t t') (before : t.state = .running)
    (after : t'.state ≠ .running) : ∃ (i : Nat) (e : Outcome),
      t.calls[i]? = some (.ended e) ∧ t'.calls[i]? = some (.recorded e) ∧ t'.state = e.state := by
  rcases step.cases with rfl | ⟨n, rfl⟩ | ⟨i, s, s', o, ds, here, turn, rfl⟩
  · exact absurd before after
  · exact absurd before after
  · cases turn with
    | refuse | enter | count | finish | release | tell | leave | rest => exact absurd before after
    | start => exact absurd rfl after
    | settle own => exact absurd (own.symm.trans before) (Outcome.state_ne_running _)
    | @record e => exact ⟨i, e, here, getElem?_turned_self here, t.status.state_record e⟩

/-- What holds of an orchestrator and its requests at any time. -/
structure Orderly (t : Traffic) : Prop where
  exclusive : t.Exclusive
  settled : t.Settled
  entered : t.Entered
  counted : t.Counted
  told : t.Told

namespace Orderly

theorem opening (policy : Policy) : (opening policy).Orderly := by
  have nobody : ∀ P i, ¬(Traffic.opening policy).At P i := by
    rintro P i ⟨s, here, -⟩
    cases here
  refine ⟨⟨?_, ?_⟩, ⟨?_, Or.inr (Or.inl rfl)⟩, ⟨rfl, rfl, rfl, rfl⟩, ⟨rfl, rfl⟩, fun _ => rfl⟩
  · exact iff_of_false (by rintro ⟨⟩) fun ⟨i, held⟩ => nobody _ i held
  · exact fun i _ held => absurd held (nobody _ i)
  · exact iff_of_false (by rintro ⟨⟩) fun ⟨i, busy⟩ => nobody _ i busy

theorem step (orderly : t.Orderly) (step : Step t t') : t'.Orderly where
  exclusive := orderly.exclusive.step step
  settled := orderly.settled.step orderly.exclusive step
  entered := orderly.entered.step step
  counted := orderly.counted.step step
  told := orderly.told.step step

theorem of_reaches {policy : Policy} (run : Reaches (Traffic.opening policy) t) : t.Orderly := by
  induction run with
  | refl => exact Orderly.opening policy
  | tail _ step ih => exact ih.step step

end Orderly

/-- Requests may come at any time and their steps may mix in any way. At most one of them has the lock. The
state is running just while the cycle of one of them is under way or ends, and only the request whose
cycle it is takes it away from there. Where all have been answered it is idle. Counters, last error and last
report are those of the ends that were entered, and each request whose cycle has ended tells so once, after
it has entered the end. -/
theorem overlapping_requests_orderly {policy : Policy} (run : Reaches (opening policy) t) :
    t.Orderly ∧
      (∀ t', Step t t' → t.state = .running → t'.state ≠ .running → ∃ (i : Nat) (e : Outcome),
        t.calls[i]? = some (.ended e) ∧ t'.calls[i]? = some (.recorded e) ∧ t'.state = e.state) ∧
      ((∀ s ∈ t.calls, s.isAnswered = true) → t.state = .idle) ∧
      (t.status.lastError = none ↔
        t.recordings = [] ∨ ∃ r, t.recordings.getLast? = some (.completed r)) := by
  have orderly := Orderly.of_reaches run
  refine ⟨orderly, ?_, orderly.settled.idle, orderly.entered.lastError_eq_none_iff⟩
  exact fun t' step before after => running_until_recorded step before after

/-- The first cycle has failed. The second began before the first request came to put the state back, and is
under way. A request in between found the lock taken, and the worker reported two more. -/
def lateReset : Traffic :=
  let failure : Outcome := .failed (.mirrorUpdate "disk full")
  let status : Status :=
    { state := .running, lastError := "Mirror update failed: disk full", failed := 1, coalesced := 3 }
  { orchestrator := { policy := .fullSync, status, locked := true }
    calls := [.answered (.ended failure), .answered .coalesced, .running]
    log := [(1, .refused), (0, .finished failure), (0, .recorded failure), (0, .told failure)]
    absorbed := 2 }

theorem lateReset_reached : Reaches (opening .fullSync) lateReset := by
  let failure : Outcome := .failed (.mirrorUpdate "disk full")
  have begun : Reaches (opening .fullSync) _ :=
    ((Relation.ReflTransGen.refl.tail .arrive).tail (.advance (i := 0) rfl)).tail (.advance (i := 0) rfl)
  have dropped : Reaches _ _ :=
    (((begun.tail .arrive).tail (.advance (i := 1) rfl)).tail (.advance (i := 1) rfl)).tail (.absorb 2)
  have notified : Reaches _ _ :=
    (((dropped.tail (.finish (i := 0) failure rfl)).tail (.advance (i := 0) rfl)).tail
      (.advance (i := 0) rfl)).tail (.advance (i := 0) rfl)
  have overlapping : Reaches _ _ :=
    ((notified.tail .arrive).tail (.advance (i := 2) rfl)).tail (.advance (i := 2) rfl)
  have late : Reaches _ _ := overlapping.tail (.advance (i := 0) rfl)
  exact late

theorem lateReset_orderly : lateReset.Orderly ∧ lateReset.state = .running :=
  ⟨(overlapping_requests_orderly lateReset_reached).1, rfl⟩

end MailboxSync.Traffic
