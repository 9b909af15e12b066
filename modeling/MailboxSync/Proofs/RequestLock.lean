import Mathlib.Data.List.Basic
import Mathlib.Logic.Relation
import MailboxSync.Orchestrator

namespace MailboxSync

/-- Something a request did that can be told of it afterwards. -/
inductive Deed where
  /-- It found the lock taken. -/
  | refused
  /-- Its cycle ended so. -/
  | finished (o : Outcome)
  /-- It entered this end in the status. -/
  | recorded (o : Outcome)
  /-- It told observers of this end. -/
  | told (o : Outcome)
deriving DecidableEq

def Deed.recorded? : Deed → Option Outcome
  | recorded o => some o
  | refused | finished _ | told _ => none

namespace Outcome

def isCompleted : Outcome → Bool
  | completed _ => true
  | failed _ => false

def report? : Outcome → Option Report
  | completed r => some r
  | failed _ => none

def error? : Outcome → Option String
  | completed _ => none
  | failed e => some e.message

theorem state_ne_running (o : Outcome) : o.state ≠ .running := by
  cases o <;> simp [state]

end Outcome

theorem Status.state_record (s : Status) (o : Outcome) : (s.record o).state = o.state := by
  cases o <;> rfl

namespace Stage

/-- The lock has been taken and not been given back. -/
def holds : Stage → Bool
  | admitted | running | ended _ | recorded _ => true
  | asked | refused | released _ | notified _ | answered _ => false

/-- The request's cycle is under way, or its end has still to be entered. -/
def busy : Stage → Bool
  | running | ended _ => true
  | asked | refused | admitted | recorded _ | released _ | notified _ | answered _ => false

/-- The end has been entered, and the request has still to put the state back from it. -/
def leaves (x : SyncState) : Stage → Bool
  | recorded o | released o | notified o => o.state = x
  | asked | refused | admitted | running | ended _ | answered _ => false

def isAnswered : Stage → Bool
  | answered _ => true
  | asked | refused | admitted | running | ended _ | recorded _ | released _ | notified _ => false

/-- All that a request has done when it has come to this stage. -/
def deeds : Stage → List Deed
  | asked | admitted | running => []
  | refused | answered .coalesced => [.refused]
  | ended o => [.finished o]
  | recorded o | released o => [.finished o, .recorded o]
  | notified o | answered (.ended o) => [.finished o, .recorded o, .told o]

theorem holds_of_busy {s : Stage} (busy : s.busy = true) : s.holds = true := by
  cases s <;> first | rfl | cases busy

end Stage

/-- Requests at one orchestrator, each at its own stage, and what they have done so far, the latest
last. -/
structure Traffic where
  orchestrator : Orchestrator
  calls : List Stage := []
  log : List (Nat × Deed) := []
  /-- How many requests were reported as served by a cycle under way. -/
  absorbed : Nat := 0

namespace Traffic

def opening (policy : Policy) : Traffic := { orchestrator := { policy } }

abbrev status (t : Traffic) : Status := t.orchestrator.status

abbrev state (t : Traffic) : SyncState := t.status.state

/-- What there is to tell of a step of a request. -/
def news (s s' : Stage) (told : Option Outcome) : List Deed :=
  match s, s' with
  | .asked, .refused => [.refused]
  | .ended _, .recorded o => [.recorded o]
  | _, _ => told.toList.map .told

/-- A request comes to its next stage. -/
def turned (t : Traffic) (i : Nat) (s : Stage) (o : Orchestrator) (ds : List Deed) : Traffic :=
  { t with orchestrator := o, calls := t.calls.set i s, log := t.log ++ ds.map (Prod.mk i) }

def advance (t : Traffic) (i : Nat) (s : Stage) : Traffic :=
  let (s', o, told) := t.orchestrator.step s
  t.turned i s' o (news s s' told)

/-- What can come next: a request comes in, one of those that are there makes a step, a cycle ends, or
a worker reports the requests it has gathered. -/
inductive Step (t : Traffic) : Traffic → Prop
  | arrive : Step t { t with calls := t.calls ++ [.asked] }
  | advance {i s} : t.calls[i]? = some s → Step t (t.advance i s)
  | finish {i} (o : Outcome) : t.calls[i]? = some .running →
      Step t (t.turned i (.ended o) t.orchestrator [.finished o])
  | absorb (n : UInt64) :
      Step t { t with orchestrator := t.orchestrator.recordCoalesced n, absorbed := t.absorbed + n.toNat }

abbrev Reaches : Traffic → Traffic → Prop := Relation.ReflTransGen Step

/-- All that a step of a request can be. -/
inductive Turn (o : Orchestrator) : Stage → Stage → Orchestrator → List Deed → Prop
  | refuse : o.locked = true → Turn o .asked .refused o [.refused]
  | enter : o.locked = false → Turn o .asked .admitted { o with locked := true } []
  | count : Turn o .refused (.answered .coalesced) (o.recordCoalesced 1) []
  | start : Turn o .admitted .running (o.setState .running) []
  | finish (e) : Turn o .running (.ended e) o [.finished e]
  | record {e} : Turn o (.ended e) (.recorded e) { o with status := o.status.record e } [.recorded e]
  | release {e} : Turn o (.recorded e) (.released e) { o with locked := false } []
  | tell {e} : Turn o (.released e) (.notified e) o [.told e]
  | settle {e} : o.status.state = e.state →
      Turn o (.notified e) (.answered (.ended e)) (o.setState .idle) []
  | leave {e} : o.status.state ≠ e.state → Turn o (.notified e) (.answered (.ended e)) o []
  | rest (s) : Turn o s s o []

theorem turn_of_step (o : Orchestrator) (s : Stage) :
    Turn o s (o.step s).1 (o.step s).2.1 (news s (o.step s).1 (o.step s).2.2) := by
  cases s with
  | asked =>
    cases locked : o.locked with
    | true =>
      simp only [Orchestrator.step, locked, if_true]
      exact .refuse locked
    | false =>
      simp only [Orchestrator.step, locked, Bool.false_eq_true, if_false]
      exact .enter locked
  | refused => exact .count
  | admitted => exact .start
  | running => exact .rest _
  | ended e => exact .record
  | recorded e => exact .release
  | released e => exact .tell
  | notified e =>
    by_cases own : o.status.state = e.state
    · simp only [Orchestrator.step, if_pos own]
      exact .settle own
    · simp only [Orchestrator.step, if_neg own]
      exact .leave own
  | answered r => exact .rest _

variable {t t' : Traffic}

theorem Step.cases (step : Step t t') :
    t' = { t with calls := t.calls ++ [.asked] } ∨
      (∃ n : UInt64, t' = { t with
        orchestrator := t.orchestrator.recordCoalesced n, absorbed := t.absorbed + n.toNat }) ∨
      ∃ i s s' o ds, t.calls[i]? = some s ∧ Turn t.orchestrator s s' o ds ∧ t' = t.turned i s' o ds := by
  cases step with
  | arrive => exact Or.inl rfl
  | absorb n => exact Or.inr (Or.inl ⟨n, rfl⟩)
  | advance here => exact Or.inr (Or.inr ⟨_, _, _, _, _, here, turn_of_step _ _, rfl⟩)
  | finish o here => exact Or.inr (Or.inr ⟨_, _, _, _, _, here, .finish o, rfl⟩)

/-! Who is where. -/

/-- The request is at a stage of this kind. -/
def At (t : Traffic) (P : Stage → Bool) (i : Nat) : Prop := ∃ s, t.calls[i]? = some s ∧ P s = true

section

variable {P : Stage → Bool} {i j : Nat} {s s' : Stage} {o : Orchestrator} {ds : List Deed}

theorem getElem?_turned_self (here : t.calls[i]? = some s) : (t.turned i s' o ds).calls[i]? = some s' :=
  List.getElem?_set_self (List.getElem?_eq_some_iff.mp here).1

theorem getElem?_turned_ne (other : j ≠ i) : (t.turned i s' o ds).calls[j]? = t.calls[j]? :=
  List.getElem?_set_ne (Ne.symm other)

theorem at_turned_ne (other : j ≠ i) : (t.turned i s' o ds).At P j ↔ t.At P j := by
  unfold At
  rw [getElem?_turned_ne other]

theorem at_turned_self (here : t.calls[i]? = some s) : (t.turned i s' o ds).At P i ↔ P s' = true := by
  unfold At
  rw [getElem?_turned_self here]
  simp

theorem at_turned_iff (here : t.calls[i]? = some s) (same : P s' = P s) :
    (t.turned i s' o ds).At P j ↔ t.At P j := by
  by_cases own : j = i
  · subst own
    rw [at_turned_self here, same]
    constructor
    · exact fun holds => ⟨s, here, holds⟩
    · rintro ⟨s₁, there, holds⟩
      cases here.symm.trans there
      exact holds
  · exact at_turned_ne own

/-- A request that is not at such a stage now is none of those that are. -/
theorem at_of_turned (here : t.calls[i]? = some s) (away : P s' = false)
    (there : (t.turned i s' o ds).At P j) : j ≠ i ∧ t.At P j := by
  have other : j ≠ i := by
    rintro rfl
    rw [at_turned_self here, away] at there
    cases there
  exact ⟨other, (at_turned_ne other).mp there⟩

/-- A request that comes in comes last. -/
theorem getElem?_arrive (i : Nat) : (t.calls ++ [.asked])[i]? = t.calls[i]? ∨
    t.calls[i]? = none ∧ (t.calls ++ [.asked])[i]? = some .asked := by
  rcases Nat.lt_trichotomy i t.calls.length with before | rfl | after
  · exact Or.inl (List.getElem?_append_left before)
  · exact Or.inr ⟨List.getElem?_eq_none (Nat.le_refl _), List.getElem?_concat_length⟩
  · refine Or.inl ?_
    rw [List.getElem?_eq_none (by simp; omega), List.getElem?_eq_none (by omega)]

theorem at_arrive (fresh : P .asked = false) :
    ({ t with calls := t.calls ++ [.asked] } : Traffic).At P j ↔ t.At P j := by
  unfold At
  rcases t.getElem?_arrive j with same | ⟨absent, new⟩
  · rw [same]
  · rw [new, absent]
    simp [fresh]

end

theorem holds_of_busy {i : Nat} (busy : t.At Stage.busy i) : t.At Stage.holds i := by
  obtain ⟨s, here, busy⟩ := busy
  exact ⟨s, here, Stage.holds_of_busy busy⟩

/-! The lock and the state. -/

/-- The lock is taken when a request holds it, and no two requests do. -/
structure Exclusive (t : Traffic) : Prop where
  locked : t.orchestrator.locked = true ↔ ∃ i, t.At Stage.holds i
  alone : ∀ i j, t.At Stage.holds i → t.At Stage.holds j → i = j

/-- The state is running while a cycle is. Where a cycle has left it otherwise, some request under way is
going to put it back. -/
structure Settled (t : Traffic) : Prop where
  running : t.state = .running ↔ ∃ i, t.At Stage.busy i
  settling : t.state = .running ∨ t.state = .idle ∨ ∃ i, t.At (Stage.leaves t.state) i

section

variable {i : Nat} {s s' : Stage} {o : Orchestrator} {ds : List Deed}

namespace Exclusive

theorem congr (exclusive : t.Exclusive) (holds : ∀ i, t'.At Stage.holds i ↔ t.At Stage.holds i)
    (locked : t'.orchestrator.locked = t.orchestrator.locked) : t'.Exclusive := by
  refine ⟨?_, ?_⟩
  · simp only [locked, holds]
    exact exclusive.locked
  · simp only [holds]
    exact exclusive.alone

theorem turn (exclusive : t.Exclusive) (here : t.calls[i]? = some s)
    (turn : Turn t.orchestrator s s' o ds) : (t.turned i s' o ds).Exclusive := by
  cases turn with
  | refuse | count | start | finish | record | tell | settle | leave | rest =>
    exact exclusive.congr (fun _ => at_turned_iff here rfl) rfl
  | enter free =>
    have nobody : ∀ j, ¬t.At Stage.holds j := by
      intro j held
      have taken := exclusive.locked.mpr ⟨j, held⟩
      rw [free] at taken
      cases taken
    have own : ∀ {o : Orchestrator} j, (t.turned i .admitted o []).At Stage.holds j → j = i := by
      intro o j held
      by_contra other
      exact nobody j ((at_turned_ne other).mp held)
    refine ⟨iff_of_true rfl ⟨i, (at_turned_self here).mpr rfl⟩, ?_⟩
    intro j l heldJ heldL
    rw [own j heldJ, own l heldL]
  | @release e =>
    have nobody : ∀ {o : Orchestrator} j, ¬(t.turned i (.released e) o []).At Stage.holds j := by
      intro o j held
      obtain ⟨other, before⟩ := at_of_turned here rfl held
      exact other (exclusive.alone j i before ⟨_, here, rfl⟩)
    refine ⟨?_, fun j _ held => absurd held (nobody j)⟩
    exact iff_of_false Bool.false_ne_true fun ⟨j, held⟩ => nobody j held

theorem step (exclusive : t.Exclusive) (step : Step t t') : t'.Exclusive := by
  rcases step.cases with rfl | ⟨n, rfl⟩ | ⟨i, s, s', o, ds, here, turn, rfl⟩
  · exact exclusive.congr (fun _ => at_arrive rfl) rfl
  · exact exclusive.congr (fun _ => Iff.rfl) rfl
  · exact exclusive.turn here turn

end Exclusive

namespace Settled

theorem congr (settled : t.Settled) (busy : ∀ i, t'.At Stage.busy i ↔ t.At Stage.busy i)
    (leaves : ∀ x i, t'.At (Stage.leaves x) i ↔ t.At (Stage.leaves x) i) (state : t'.state = t.state) :
    t'.Settled := by
  refine ⟨?_, ?_⟩
  · simp only [state, busy]
    exact settled.running
  · simp only [state, leaves]
    exact settled.settling

theorem turn (settled : t.Settled) (exclusive : t.Exclusive) (here : t.calls[i]? = some s)
    (turn : Turn t.orchestrator s s' o ds) : (t.turned i s' o ds).Settled := by
  cases turn with
  | refuse | enter | count | finish | release | tell | rest =>
    exact settled.congr (fun _ => at_turned_iff here rfl) (fun _ _ => at_turned_iff here rfl) rfl
  | start => exact ⟨iff_of_true rfl ⟨i, (at_turned_self here).mpr rfl⟩, Or.inl rfl⟩
  | @record e =>
    have own : (t.status.record e).state = e.state := t.status.state_record e
    have nobody : ∀ {o : Orchestrator}, ¬∃ j, (t.turned i (.recorded e) o [.recorded e]).At Stage.busy j := by
      rintro o ⟨j, busy⟩
      obtain ⟨other, before⟩ := at_of_turned here rfl busy
      exact other (exclusive.alone j i (holds_of_busy before) ⟨_, here, rfl⟩)
    refine ⟨iff_of_false ?_ nobody, Or.inr (Or.inr ⟨i, (at_turned_self here).mpr ?_⟩)⟩
    · exact fun running => e.state_ne_running (own.symm.trans running)
    · exact decide_eq_true own.symm
  | @settle e own =>
    have other : t.state ≠ .running := fun running => e.state_ne_running (own.symm.trans running)
    have same : Stage.busy (.answered (.ended e)) = Stage.busy (.notified e) := rfl
    refine ⟨iff_of_false (by rintro ⟨⟩) ?_, Or.inr (Or.inl rfl)⟩
    rintro ⟨j, busy⟩
    exact other (settled.running.mpr ⟨j, (at_turned_iff here same).mp busy⟩)
  | @leave e other =>
    have same : Stage.busy (.answered (.ended e)) = Stage.busy (.notified e) := rfl
    refine ⟨?_, settled.settling.imp_right (Or.imp_right ?_)⟩
    · exact settled.running.trans (exists_congr fun j => (at_turned_iff here same).symm)
    · rintro ⟨j, there⟩
      refine ⟨j, (at_turned_ne ?_).mpr there⟩
      rintro rfl
      obtain ⟨s, here', leaves⟩ := there
      cases here.symm.trans here'
      exact other (of_decide_eq_true leaves).symm

theorem step (settled : t.Settled) (exclusive : t.Exclusive) (step : Step t t') : t'.Settled := by
  rcases step.cases with rfl | ⟨n, rfl⟩ | ⟨i, s, s', o, ds, here, turn, rfl⟩
  · exact settled.congr (fun _ => at_arrive rfl) (fun _ _ => at_arrive rfl) rfl
  · exact settled.congr (fun _ => Iff.rfl) (fun _ _ => Iff.rfl) rfl
  · exact settled.turn exclusive here turn

/-- Where every request has been answered the state is idle. -/
theorem idle (settled : t.Settled) (answered : ∀ s ∈ t.calls, s.isAnswered = true) : t.state = .idle := by
  have nobody : ∀ P : Stage → Bool, (∀ r, P (.answered r) = false) → ¬∃ i, t.At P i := by
    rintro P away ⟨i, s, here, holds⟩
    cases s with
    | answered r =>
      rw [away] at holds
      cases holds
    | _ => cases answered _ (List.mem_of_getElem? here)
  rcases settled.settling with running | idle | lingering
  · exact absurd (settled.running.mp running) (nobody _ fun _ => rfl)
  · exact idle
  · exact absurd lingering (nobody _ fun _ => rfl)

end Settled

end

end Traffic

end MailboxSync
