import Mathlib.Data.List.Forall2
import MailboxSync.Proofs.CycleParts

namespace MailboxSync

/-- Which calls of two programs correspond, and which of the answers to them do. -/
abbrev Correspondence := (r r' : Request) → (r.Answer → r'.Answer → Prop) → Prop

namespace Program

variable {α α' β β' : Type} {M : Correspondence} {A : α → α' → Prop} {B : β → β' → Prop}

/-- Two programs go side by side: their calls correspond, for as long as the answers do, and so do
their ends. -/
inductive Matches (M : Correspondence) (A : α → α' → Prop) : Program α → Program α' → Prop
  | done {a a'} : A a a' → Matches M A (done a) (done a')
  | call {r r'} {L : r.Answer → r'.Answer → Prop} {next next'} : M r r' L →
      (∀ x x', L x x' → Matches M A (next x) (next' x')) → Matches M A (call r next) (call r' next')

theorem Matches.pure {a : α} {a' : α'} (ends : A a a') :
    Matches M A (Pure.pure a) (Pure.pure a') := .done ends

theorem Matches.ask {r r' : Request} {L : r.Answer → r'.Answer → Prop} (calls : M r r' L) :
    Matches M L (ask r) (ask r') := .call calls fun _ _ answers => .done answers

theorem Matches.bind {q : Program α} {q' : Program α'} {k : α → Program β} {k' : α' → Program β'}
    (first : Matches M A q q') (second : ∀ a a', A a a' → Matches M B (k a) (k' a')) :
    Matches M B (q >>= k) (q' >>= k') := by
  induction first with
  | done ends => exact second _ _ ends
  | call calls _ ih => exact .call calls ih

end Program

open Program (ask Matches)

variable {M : Correspondence}

namespace ActionList

/-- How a transaction ends, going by the device's answer. -/
def outcome (l : ActionList) : Except Failure Unit → DeviceOutcome
  | .ok _ => .committed l.size
  | .error e => .rolledBack e.asLocalTransaction

variable {l l' : ActionList}

theorem commit_eq (valid : ∀ a ∈ l.toList, a.isValidFor .device = true) :
    l.commit = if l.size = 0 then pure .skipped
      else ask (.applyDevice l.toList) >>= fun x => pure (l.outcome x) := by
  have placed : (l.toList.find? fun a => !a.isValidFor .device) = none := by
    rw [List.find?_eq_none]
    intro a mem
    simp [valid a mem]
  have empty : l.isEmpty = decide (l.size = 0) := by
    rw [isEmpty, size, Bool.eq_iff_iff]
    simp
  unfold commit
  rw [placed, empty]
  simp only [decide_eq_true_eq]
  split
  · rfl
  · congr 1
    funext x
    cases x <;> rfl

theorem commit_matches {D : DeviceOutcome → DeviceOutcome → Prop}
    {L : Except Failure Unit → Except Failure Unit → Prop}
    (valid : ∀ a ∈ l.toList, a.isValidFor .device = true)
    (valid' : ∀ a ∈ l'.toList, a.isValidFor .device = true) (sizes : l.size = l'.size)
    (transaction : M (.applyDevice l.toList) (.applyDevice l'.toList) L)
    (skipped : D .skipped .skipped) (outcomes : ∀ x x', L x x' → D (l.outcome x) (l'.outcome x')) :
    Matches M D l.commit l'.commit := by
  rw [commit_eq valid, commit_eq valid', sizes]
  split
  · exact .pure skipped
  · exact .bind (.ask transaction) fun x x' answers => .pure (outcomes x x' answers)

end ActionList

/-- Two loops over commands go side by side if they do so command by command. -/
theorem CarrierOutcome.attempts_match {T : CarrierOutcome → CarrierOutcome → Prop} {as as' : List Action}
    (each : List.Forall₂ (fun a a' => ∀ o o', T o o' → Matches M T (attempt o a) (attempt o' a')) as as')
    {o o' : CarrierOutcome} (start : T o o') : Matches M T (as.foldlM attempt o) (as'.foldlM attempt o') := by
  induction each generalizing o o' with
  | nil => exact .pure start
  | cons first _ ih => exact .bind (first _ _ start) fun _ _ same => ih same

/-- The transaction comes first. -/
theorem Plan.carryOut_eq {p : Plan} (valid : ∀ a ∈ p.device.toList, a.isValidFor .device = true)
    (some : p.device.size ≠ 0) : p.carryOut = ask (.applyDevice p.device.toList) >>= fun x =>
      p.carrier.send >>= fun sent => pure ⟨p.device.outcome x, sent⟩ := by
  rw [carryOut, ActionList.commit_eq valid, if_neg some, Program.bind_assoc]
  rfl

theorem Plan.carryOut_matches {p p' : Plan} {D : DeviceOutcome → DeviceOutcome → Prop}
    {T : CarrierOutcome → CarrierOutcome → Prop} (commits : Matches M D p.device.commit p'.device.commit)
    (sends : Matches M T p.carrier.send p'.carrier.send) :
    Matches M (fun x x' => D x.device x'.device ∧ T x.carrier x'.carrier) p.carryOut p'.carryOut :=
  .bind commits fun _ _ settled => .bind sends fun _ _ sent => .pure ⟨settled, sent⟩

namespace Policy

/-- How a cycle ends that was not rolled back, going by the mirror's answer. -/
def account (p : Policy) (plan : Plan) (applied : Applied) : Except Failure Unit → Except Failure Report
  | .ok _ => .ok (.ofApplied p.kind plan applied)
  | .error e => .error (.mirrorUpdate e.message)

variable {p : Policy} {c c' : Snapshot} {plan plan' : Plan} {applied applied' : Applied}

theorem conclude_eq (settled : applied.device.isSettled = true) : p.conclude c plan applied =
    ask (.replaceMirror ((c.retain p.family).observeAll applied.carrier.completed)) >>= fun x =>
      pure (p.account plan applied x) := by
  unfold conclude
  cases outcome : applied.device with
  | rolledBack e =>
    rw [outcome] at settled
    cases settled
  | skipped | committed n =>
    dsimp only
    congr 1
    funext x
    cases x <;> rfl

theorem conclude_matches {E : Except Failure Report → Except Failure Report → Prop}
    {L : Except Failure Unit → Except Failure Unit → Prop}
    (settled : applied.device.isSettled = applied'.device.isSettled)
    (rolledBack : ∀ e e', applied.device = .rolledBack e → applied'.device = .rolledBack e' → E (.error e) (.error e'))
    (renewal : M (.replaceMirror ((c.retain p.family).observeAll applied.carrier.completed))
      (.replaceMirror ((c'.retain p.family).observeAll applied'.carrier.completed)) L)
    (accounts : ∀ x x', L x x' → E (p.account plan applied x) (p.account plan' applied' x')) :
    Matches M E (p.conclude c plan applied) (p.conclude c' plan' applied') := by
  by_cases goes : applied.device.isSettled = true
  · rw [conclude_eq goes, conclude_eq (settled ▸ goes)]
    exact .bind (.ask renewal) fun x x' answers => .pure (accounts x x' answers)
  · have undone : ∀ o : DeviceOutcome, ¬o.isSettled = true → ∃ e, o = .rolledBack e := by
      intro o
      cases o <;> simp [DeviceOutcome.isSettled]
    obtain ⟨e, back⟩ := undone _ goes
    obtain ⟨e', back'⟩ := undone _ (settled ▸ goes)
    unfold conclude
    rw [back, back']
    exact .pure (rolledBack e e' back back')

end Policy

end MailboxSync
