import MailboxSync.Proofs.CycleParts
import MailboxSync.Proofs.History
import MailboxSync.Proofs.Transcript

namespace MailboxSync

open Program (ask)

/-- What holds at the places of a cycle, going by what it has listed. At `trying` it is told whether
the transaction was settled, which commands were carried out and which are still to be tried. -/
structure Outline (σ : Type) where
  start : σ → Prop
  afterDevice (device : Snapshot) : σ → Prop
  afterCarrier (device carrier : Snapshot) : σ → Prop
  afterMirror (device carrier mirror : Snapshot) : σ → Prop
  trying (device carrier mirror : Snapshot) (settled : Bool) (done rest : List Action) : σ → Prop
  finish : σ → Prop

namespace Outline

variable {σ : Type}

/-- After a call one thing holds if it was granted, and another if it failed. -/
def granted {α : Type} (good : α → σ → Prop) (bad : σ → Prop) : Except Failure α → σ → Prop
  | .ok a, s => good a s
  | .error _, s => bad s

/-- Each call of a cycle leads from what holds before it to what holds after it. -/
structure Valid (R : Reaction σ) (I : σ → Prop) (p : Policy) (O : Outline σ) : Prop where
  listDevice : ∀ {s}, O.start s → (ask .listDevice).Keeps R I (granted O.afterDevice O.finish) s
  listCarrier : ∀ {d s}, O.afterDevice d s →
    (ask .listCarrier).Keeps R I (granted (O.afterCarrier d) O.finish) s
  listMirror : ∀ {d c s}, O.afterCarrier d c s →
    (ask .listMirror).Keeps R I (granted (O.afterMirror d c) O.finish) s
  idle : ∀ {d c m s}, O.afterMirror d c m s → (p.planned d c m).device.toList = [] →
    O.trying d c m true [] (p.planned d c m).carrier.toList s
  transact : ∀ {d c m s}, O.afterMirror d c m s →
    (ask (.applyDevice (p.planned d c m).device.toList)).Keeps R I
      (fun x => O.trying d c m x.isOk [] (p.planned d c m).carrier.toList) s
  command : ∀ {d c m settled done a rest s}, a ∈ (p.planned d c m).carrier.toList →
    a.kind ≠ .fetchContent → O.trying d c m settled done (a :: rest) s →
    (ask (.applyCarrier a)).Keeps R I
      (fun x => O.trying d c m settled (if x.isOk then done ++ [a] else done) rest) s
  fetch : ∀ {d c m settled done a rest s}, a ∈ (p.planned d c m).carrier.toList →
    a.kind = .fetchContent → O.trying d c m settled done (a :: rest) s →
    (ask (.fetchContent a.item)).Keeps R I
      (granted
        (fun payload => (ask (.storeContent a.item payload)).Keeps R I
          fun x => O.trying d c m settled (if x.isOk then done ++ [a] else done) rest)
        (O.trying d c m settled done rest)) s
  giveUp : ∀ {d c m done s}, O.trying d c m false done [] s → O.finish s
  renew : ∀ {d c m done s}, O.trying d c m true done [] s →
    (ask (.replaceMirror ((c.retain p.family).observeAll done))).Keeps R I (fun _ => O.finish) s
  trying_within : ∀ {d c m settled done rest s}, O.trying d c m settled done rest s → I s
  finish_within : ∀ {s}, O.finish s → I s

variable {R : Reaction σ} {I : σ → Prop} {p : Policy} {O : Outline σ} {d c m : Snapshot}
  {settled : Bool} {done rest : List Action} {a : Action} {s : σ}

namespace Valid

variable (valid : Valid R I p O)

include valid

theorem commit (before : O.afterMirror d c m s) : (p.planned d c m).device.commit.Keeps R I
    (fun o => O.trying d c m o.isSettled [] (p.planned d c m).carrier.toList) s := by
  unfold ActionList.commit
  split
  · next nothing =>
    have after := valid.idle before (List.isEmpty_iff.mp nothing)
    exact ⟨valid.trying_within after, after⟩
  · split
    · next bad found =>
      have refused := List.find?_some found
      rw [Policy.isValidFor_device_of_planned bad (List.mem_of_find?_eq_some found)] at refused
      cases refused
    · refine .bind (valid.transact before) ?_
      rintro (e | _) t after <;> exact ⟨valid.trying_within after, after⟩

theorem execute (mem : a ∈ (p.planned d c m).carrier.toList)
    (before : O.trying d c m settled done (a :: rest) s) : a.execute.Keeps R I
      (fun x => O.trying d c m settled (if x.isOk then done ++ [a] else done) rest) s := by
  unfold Action.execute
  rw [Policy.isValidFor_carrier_of_planned a mem]
  simp only [Bool.not_true, Bool.false_eq_true, if_false]
  cases kind : a.kind with
  | fetchContent =>
    refine .bind (valid.fetch mem kind before) ?_
    rintro (e | payload) t after
    · exact ⟨valid.trying_within after, after⟩
    · exact after
  | insert | delete | markAsRead => exact valid.command mem (by simp [kind]) before

theorem attempt {o : CarrierOutcome} (mem : a ∈ (p.planned d c m).carrier.toList)
    (before : O.trying d c m settled o.completed (a :: rest) s) : (o.attempt a).Keeps R I
      (fun sent => O.trying d c m settled sent.completed rest) s := by
  refine .bind (valid.execute mem before) ?_
  rintro (e | _) t after <;> exact ⟨valid.trying_within after, after⟩

theorem attempts {o : CarrierOutcome} (planned : rest ⊆ (p.planned d c m).carrier.toList)
    (before : O.trying d c m settled o.completed rest s) : (rest.foldlM CarrierOutcome.attempt o).Keeps R I
      (fun sent => O.trying d c m settled sent.completed []) s := by
  induction rest generalizing o s with
  | nil => exact ⟨valid.trying_within before, before⟩
  | cons a rest ih =>
    obtain ⟨mem, others⟩ := List.cons_subset.mp planned
    exact .bind (valid.attempt mem before) fun sent t after => ih others after

theorem conclude {plan : Plan} {applied : Applied}
    (before : O.trying d c m applied.device.isSettled applied.carrier.completed [] s) :
    (p.conclude c plan applied).Keeps R I (fun _ => O.finish) s := by
  unfold Policy.conclude
  cases outcome : applied.device with
  | rolledBack e =>
    rw [outcome] at before
    have after := valid.giveUp before
    exact ⟨valid.finish_within after, after⟩
  | skipped | committed n =>
    rw [outcome] at before
    refine .bind (valid.renew before) ?_
    rintro (e | _) t after <;> exact ⟨valid.finish_within after, after⟩

/-- An outline that is valid call by call holds of the cycle as a whole. -/
theorem cycle (before : O.start s) : p.cycle.Keeps R I (fun _ => O.finish) s := by
  unfold Policy.cycle
  refine .bind (valid.listDevice before) ?_
  rintro (e | d) s after
  · exact ⟨valid.finish_within after, after⟩
  refine .bind (valid.listCarrier after) ?_
  rintro (e | c) s after
  · exact ⟨valid.finish_within after, after⟩
  refine .bind (valid.listMirror after) ?_
  rintro (e | m) s after
  · exact ⟨valid.finish_within after, after⟩
  simp only [Policy.planFor_eq]
  refine .bind (Q := fun applied => O.trying d c m applied.device.isSettled applied.carrier.completed []) ?_
    fun applied s after => valid.conclude after
  refine .bind (valid.commit after) fun o s after => ?_
  refine .bind (Q := fun sent => O.trying d c m o.isSettled sent.completed []) ?_ fun sent s after => ?_
  · exact valid.attempts (List.Subset.refl _) after
  · exact ⟨valid.trying_within after, after⟩

end Valid

end Outline

/-! A run as a whole, where other things may come between any two calls. `D` says what they may be. -/

/-- The call that was made, if this was one, and what it was answered. -/
def Moment.exchange? (x : Moment) : Option Exchange :=
  match x.what with
  | .event _ => none
  | .answered r => some ⟨r, (x.before.answer r).1⟩
  | .failed r e => some ⟨r, .error e⟩

namespace History

variable {D : History → History → Prop} {I A : History → Prop} {h h' : History} {r : Request} {x : r.Answer}

/-- The calls that were made so far, the latest first. -/
def calls (h : History) : List Exchange := h.past.filterMap Moment.exchange?

theorem calls_of_replies (reply : replies r h x h') : h'.calls = ⟨r, x⟩ :: h.calls := by
  rcases reply with ⟨rfl, rfl⟩ | ⟨e, rfl, rfl⟩ <;> rfl

/-- For one call it is enough to have an assertion that nothing else can upset, and that leads to what is
claimed of the call. -/
theorem keeps_ask {Q : r.Answer → History → Prop} (A : History → Prop)
    (stable : ∀ h h', D h h' → A h → A h') (holds : A h) (within : ∀ h, A h → I h)
    (after : ∀ h x h', A h → replies r h x h' → I h' ∧ Q x h') :
    (ask r).Keeps (replies.after D) I Q h :=
  .call A stable holds within after

end History

namespace System

/-- One step of a run. -/
inductive Goes (D : History → History → Prop) (p : Policy) : System → System → Prop
  | drift {h h' c} : D h h' → Goes D p ⟨h, c⟩ ⟨h', c⟩
  | start {h} : Goes D p ⟨h, none⟩ ⟨h, some p.cycle⟩
  | call {h h' r next x} : History.replies r h x h' → Goes D p ⟨h, some (.call r next)⟩ ⟨h', some (next x)⟩
  | finish {h x} : Goes D p ⟨h, some (.done x)⟩ ⟨h, none⟩

variable {D : History → History → Prop} {I J : History → Prop} {p : Policy} {s t : System}

theorem Step.goes (step : Step p s t) : Goes History.drifts p s t := by
  obtain ⟨h, c⟩ := s
  obtain ⟨h', c'⟩ := t
  rcases step.cases with ⟨drift, same⟩ | ⟨idle, same⟩ | ⟨r, next, x, h₁, busy, reply, same⟩ |
    ⟨x, busy, same⟩
  · cases same
    exact .drift drift
  · cases same
    cases idle
    exact .start
  · cases same
    cases busy
    exact .call reply
  · cases same
    cases busy
    exact .finish

theorem Goes.mono {D' : History → History → Prop} (weaker : ∀ h h', D h h' → D' h h')
    (step : Goes D p s t) : Goes D' p s t := by
  cases step with
  | drift other => exact .drift (weaker _ _ other)
  | start => exact .start
  | call reply => exact .call reply
  | finish => exact .finish

/-- `J` holds between the cycles. While a cycle is under way `I` holds, and `J` again at its end. -/
def Steady (D : History → History → Prop) (I J : History → Prop) (s : System) : Prop :=
  match s.cycle with
  | none => J s.history
  | some q => q.Keeps (History.replies.after D) I (fun _ => J) s.history

theorem Steady.now (within : ∀ h, J h → I h) (steady : Steady D I J s) : I s.history := by
  obtain ⟨h, c⟩ := s
  cases c with
  | none => exact within h steady
  | some q => exact Program.Keeps.now steady

theorem Steady.goes (stableI : ∀ h h', D h h' → I h → I h') (stableJ : ∀ h h', D h h' → J h → J h')
    (cycle : ∀ h, J h → p.cycle.Keeps (History.replies.after D) I (fun _ => J) h)
    (steady : Steady D I J s) (step : Goes D p s t) : Steady D I J t := by
  cases step with
  | @drift h h' c other =>
    cases c with
    | none => exact stableJ _ _ other steady
    | some q => exact Program.Keeps.drift steady stableI (fun _ => stableJ) other
  | start => exact cycle _ steady
  | @call h h' r next x reply => exact steady.2 x h' ⟨h, .refl, reply⟩
  | finish => exact steady.2

theorem Steady.reaches (stableI : ∀ h h', D h h' → I h → I h') (stableJ : ∀ h h', D h h' → J h → J h')
    (cycle : ∀ h, J h → p.cycle.Keeps (History.replies.after D) I (fun _ => J) h)
    (steady : Steady D I J s) (run : Relation.ReflTransGen (Goes D p) s t) : Steady D I J t := by
  induction run with
  | refl => exact steady
  | tail _ step ih => exact ih.goes stableI stableJ cycle step

end System

end MailboxSync
