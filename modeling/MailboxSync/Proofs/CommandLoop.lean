import MailboxSync.Cycle.Apply
import MailboxSync.Proofs.Reaction

namespace MailboxSync

open Program (Ends)

theorem Program.bind_assoc {α β γ : Type} (q : Program α) (k : α → Program β) (l : β → Program γ) :
    q >>= k >>= l = q >>= fun a => k a >>= l := by
  show (q.bind k).bind l = q.bind fun a => (k a).bind l
  induction q with
  | done a => rfl
  | call r next ih => exact congrArg (call r) (funext ih)

/-! The loop over the commands, and what it takes down. -/

namespace CarrierOutcome

/-- The commands that failed. -/
def failed (o : CarrierOutcome) : List Action := o.failures.map Prod.fst

/-- The outcome tells of each of these commands once: it was carried out or it failed. -/
inductive TellsOf : List Action → CarrierOutcome → Prop
  | none : TellsOf [] {}
  | next {as : List Action} {o : CarrierOutcome} (a : Action) (x : Except Failure Unit) :
      TellsOf as o → TellsOf (as ++ [a]) (o.record a x)

namespace TellsOf

variable {o : CarrierOutcome} {a : Action} {as : List Action}

theorem attempted (tells : TellsOf as o) : o.attempted = as.length := by
  induction tells with
  | none => rfl
  | next a x _ ih => cases x <;> simp [record, ih]

theorem succeeded (tells : TellsOf as o) : o.succeeded = o.completed.length := by
  induction tells with
  | none => rfl
  | next a x _ ih => cases x <;> simp [record, ih]

/-- Each command that was tried is counted among those that went through or among those that failed. -/
theorem divided (tells : TellsOf as o) : o.attempted = o.succeeded + o.failures.length := by
  induction tells with
  | none => rfl
  | next a x _ ih =>
    cases x with
    | ok _ =>
      simp only [record]
      omega
    | error e =>
      simp only [record, List.length_append, List.length_singleton]
      omega

theorem mem_iff (tells : TellsOf as o) : a ∈ as ↔ a ∈ o.completed ∨ a ∈ o.failed := by
  induction tells with
  | none => simp [failed]
  | next b x _ ih =>
    rw [List.mem_append, ih]
    cases x with
    | ok _ => simp [record, failed, or_right_comm]
    | error e => simp [record, failed, or_assoc]

/-- Where no command is tried twice, those that were carried out are those that did not fail, in their order, and the
other way round. -/
theorem complementary (tells : TellsOf as o) (distinct : as.Nodup) :
    o.completed = as.filter (· ∉ o.failed) ∧ o.failed = as.filter (· ∉ o.completed) := by
  induction tells with
  | none => exact ⟨rfl, rfl⟩
  | @next as o a x tells ih =>
    obtain ⟨before, -, apart⟩ := List.nodup_append.mp distinct
    have new : ∀ b ∈ as, b ≠ a := fun b mem => apart b mem a List.mem_cons_self
    obtain ⟨notCompleted, notFailed⟩ : a ∉ o.completed ∧ a ∉ o.failed := by
      rw [← not_or, ← tells.mem_iff]
      exact fun mem => new a mem rfl
    obtain ⟨completed, failed⟩ := ih before
    -- What is taken down of the new command is taken down of none of those before it.
    have others : ∀ done : List Action, as.filter (· ∉ done ++ [a]) = as.filter (· ∉ done) :=
      fun done => List.filter_congr fun b mem => by simp [new b mem]
    cases x with
    | ok _ =>
      have same : (o.record a (.ok ())).failed = o.failed := rfl
      have more : (o.record a (.ok ())).completed = o.completed ++ [a] := rfl
      rw [same, more, List.filter_append, List.filter_append, others, ← completed, ← failed]
      simp [notFailed]
    | error e =>
      have same : (o.record a (.error e)).completed = o.completed := rfl
      have more : (o.record a (.error e)).failed = o.failed ++ [a] := List.map_append
      rw [same, more, List.filter_append, List.filter_append, others, ← completed, ← failed]
      simp [notCompleted]

end TellsOf

/-! Outcomes one after the other -/

instance : Append CarrierOutcome where
  append o o' := {
    attempted := o.attempted + o'.attempted
    succeeded := o.succeeded + o'.succeeded
    completed := o.completed ++ o'.completed
    failures := o.failures ++ o'.failures }

variable (o o' : CarrierOutcome)

@[simp] theorem completed_append : (o ++ o').completed = o.completed ++ o'.completed := rfl

@[simp] theorem append_empty : o ++ ({} : CarrierOutcome) = o :=
  congrArg₂ (CarrierOutcome.mk _ _) (List.append_nil _) (List.append_nil _)

theorem append_record (a : Action) (x : Except Failure Unit) : o ++ o'.record a x = (o ++ o').record a x := by
  cases x with
  | ok _ => exact congrArg (CarrierOutcome.mk _ _ · _) (List.append_assoc ..).symm
  | error e => exact congrArg (CarrierOutcome.mk _ _ _) (List.append_assoc ..).symm

/-- What the loop takes down does not depend on what it had taken down before. -/
theorem foldlM_attempt_append (as : List Action) (o o' : CarrierOutcome) :
    as.foldlM attempt (o ++ o') = as.foldlM attempt o' >>= fun rest => pure (o ++ rest) := by
  induction as generalizing o' with
  | nil => rfl
  | cons a rest ih =>
    rw [List.foldlM_cons, List.foldlM_cons, attempt, attempt, Program.bind_assoc, Program.bind_assoc,
      Program.bind_assoc]
    congr 1
    funext x
    show rest.foldlM attempt ((o ++ o').record a x) = rest.foldlM attempt (o'.record a x) >>= _
    rw [← append_record, ih]

end CarrierOutcome

namespace Action

variable {σ : Type} {R : Reaction σ} {s t : σ} {a : Action} {as : List Action} {o : CarrierOutcome}

theorem attemptAll_cons (a : Action) (as : List Action) : attemptAll (a :: as) = a.execute >>= fun x =>
    attemptAll as >>= fun rest => pure (({} : CarrierOutcome).record a x ++ rest) := by
  rw [attemptAll, List.foldlM_cons, CarrierOutcome.attempt, Program.bind_assoc]
  congr 1
  funext x
  show as.foldlM CarrierOutcome.attempt (({} : CarrierOutcome).record a x) = _
  rw [← CarrierOutcome.append_empty (({} : CarrierOutcome).record a x), CarrierOutcome.foldlM_attempt_append,
    CarrierOutcome.append_empty]
  rfl

theorem attemptAll_cases (ends : Ends R (attemptAll (a :: as)) s o t) :
    ∃ x u rest, o = ({} : CarrierOutcome).record a x ++ rest ∧ Ends R a.execute s x u ∧
      Ends R (attemptAll as) u rest t := by
  rw [attemptAll_cons] at ends
  obtain ⟨x, u, first, others⟩ := Program.ends_bind_iff.mp ends
  obtain ⟨rest, v, later, last⟩ := Program.ends_bind_iff.mp others
  obtain ⟨rfl, rfl⟩ := Program.ends_pure_iff.mp last
  exact ⟨x, u, rest, rfl, first, later⟩

end Action

namespace CarrierOutcome.TellsOf

variable {σ : Type} {R : Reaction σ} {s t : σ} {o o' : CarrierOutcome} {as : List Action}

theorem attempt {a : Action} (tells : o.TellsOf as) (ends : Ends R (o.attempt a) s o' t) : o'.TellsOf (as ++ [a]) := by
  obtain ⟨x, u, _, taken⟩ := Program.ends_bind_iff.mp ends
  obtain ⟨rfl, rfl⟩ := Program.ends_pure_iff.mp taken
  exact .next a x tells

/-- The loop goes through all its commands, whatever becomes of them. -/
theorem attempts {rest : List Action} (tells : o.TellsOf as)
    (ends : Ends R (rest.foldlM CarrierOutcome.attempt o) s o' t) : o'.TellsOf (as ++ rest) := by
  induction rest generalizing as o s with
  | nil =>
    obtain ⟨rfl, rfl⟩ := Program.ends_pure_iff.mp ends
    rwa [List.append_nil]
  | cons a rest ih =>
    obtain ⟨o₁, u, first, later⟩ := Program.ends_bind_iff.mp ends
    rw [List.append_cons]
    exact ih (tells.attempt first) later

end CarrierOutcome.TellsOf

theorem Action.tellsOf_of_ends {σ : Type} {R : Reaction σ} {s t : σ} {as : List Action} {o : CarrierOutcome}
    (ends : Ends R (attemptAll as) s o t) : o.TellsOf as := CarrierOutcome.TellsOf.none.attempts ends

end MailboxSync
