import MailboxSync.Proofs.CommandLoop
import MailboxSync.Proofs.PlanByName

namespace MailboxSync

open Program (ask Ends)

/-! What a cycle consists of, whatever the stores answer. Nothing is said here about the stores. -/

namespace Policy

/-- What a policy calls for, given what the stores list. -/
def planned (p : Policy) (device carrier mirror : Snapshot) : Plan :=
  p.plan (classify (device.retain p.family) (carrier.retain p.family) (mirror.retain p.family))

end Policy

section

variable {σ : Type} {R : Reaction σ} {s t : σ}

/-- The ways in which a transaction can end that asks of the device only what has its place there. -/
theorem ActionList.commit_cases {l : ActionList} (valid : ∀ a ∈ l.toList, a.isValidFor .device = true)
    {o : DeviceOutcome} (ends : Ends R l.commit s o t) :
    (l.toList = [] ∧ o = .skipped ∧ t = s) ∨
      (R (.applyDevice l.toList) s (.ok ()) t ∧ o = .committed l.size) ∨
      ∃ e, R (.applyDevice l.toList) s (.error e) t ∧ o = .rolledBack e.asLocalTransaction := by
  unfold commit at ends
  split at ends
  · next nothing =>
    obtain ⟨rfl, rfl⟩ := Program.ends_pure_iff.mp ends
    exact Or.inl ⟨List.isEmpty_iff.mp nothing, rfl, rfl⟩
  · split at ends
    · next bad found =>
      have refused := List.find?_some found
      rw [valid bad (List.mem_of_find?_eq_some found)] at refused
      cases refused
    · obtain ⟨x, u, tried, rest⟩ := Program.ends_bind_iff.mp ends
      rw [Program.ends_ask_iff] at tried
      cases x with
      | ok _ =>
        obtain ⟨rfl, rfl⟩ := Program.ends_pure_iff.mp rest
        exact Or.inr (Or.inl ⟨tried, rfl⟩)
      | error e =>
        obtain ⟨rfl, rfl⟩ := Program.ends_pure_iff.mp rest
        exact Or.inr (Or.inr ⟨e, tried, rfl⟩)

namespace Action

variable {a : Action}

/-- The calls a command comes down to. -/
inductive Executes (R : Reaction σ) (a : Action) : σ → Except Failure Unit → σ → Prop
  | misplaced {s e} : a.isValidFor .carrier = false → Executes R a s (.error e) s
  | command {s x t} : a.isValidFor .carrier = true → a.kind ≠ .fetchContent →
      R (.applyCarrier a) s x t → Executes R a s x t
  | withheld {s e t} : a.isValidFor .carrier = true → a.kind = .fetchContent →
      R (.fetchContent a.item) s (.error e) t → Executes R a s (.error e) t
  | fetched {s p u x t} : a.isValidFor .carrier = true → a.kind = .fetchContent →
      R (.fetchContent a.item) s (.ok p) u → R (.storeContent a.item p) u x t → Executes R a s x t

theorem executes_of_ends {x : Except Failure Unit} (ends : Ends R a.execute s x t) :
    Executes R a s x t := by
  unfold execute at ends
  cases valid : a.isValidFor .carrier with
  | false =>
    rw [valid] at ends
    obtain ⟨rfl, rfl⟩ := Program.ends_pure_iff.mp ends
    exact .misplaced valid
  | true =>
    rw [valid] at ends
    cases kind : a.kind with
    | insert | delete | markAsRead =>
      rw [kind] at ends
      exact .command valid (by simp [kind]) (Program.ends_ask_iff.mp ends)
    | fetchContent =>
      rw [kind] at ends
      obtain ⟨y, u, tried, rest⟩ := Program.ends_bind_iff.mp ends
      rw [Program.ends_ask_iff] at tried
      cases y with
      | ok p => exact .fetched valid kind tried (Program.ends_ask_iff.mp rest)
      | error e =>
        obtain ⟨rfl, rfl⟩ := Program.ends_pure_iff.mp rest
        exact .withheld valid kind tried

end Action

namespace Policy

variable {p : Policy} {x : Except Failure Report}

/-- The ways in which a cycle can end after its plan has been carried out. -/
theorem conclude_cases {carrier : Snapshot} {plan : Plan} {applied : Applied}
    (ends : Ends R (p.conclude carrier plan applied) s x t) :
    (∃ e, applied.device = .rolledBack e ∧ x = .error e ∧ t = s) ∨
      applied.device.isSettled = true ∧
        ((R (.replaceMirror ((carrier.retain p.family).observeAll applied.carrier.completed)) s
            (.ok ()) t ∧ x = .ok (.ofApplied p.kind plan applied)) ∨
          ∃ e, R (.replaceMirror ((carrier.retain p.family).observeAll applied.carrier.completed)) s
            (.error e) t ∧ x = .error (.mirrorUpdate e.message)) := by
  unfold conclude at ends
  cases outcome : applied.device with
  | rolledBack e =>
    rw [outcome] at ends
    obtain ⟨rfl, rfl⟩ := Program.ends_pure_iff.mp ends
    exact Or.inl ⟨e, rfl, rfl, rfl⟩
  | skipped | committed n =>
    rw [outcome] at ends
    obtain ⟨y, u, tried, rest⟩ := Program.ends_bind_iff.mp ends
    rw [Program.ends_ask_iff] at tried
    refine Or.inr ⟨rfl, ?_⟩
    cases y with
    | ok _ =>
      obtain ⟨rfl, rfl⟩ := Program.ends_pure_iff.mp rest
      exact Or.inl ⟨tried, rfl⟩
    | error e =>
      obtain ⟨rfl, rfl⟩ := Program.ends_pure_iff.mp rest
      exact Or.inr ⟨e, tried, rfl⟩

/-- A cycle ends at a listing that fails, or it goes through with the plan for what was listed. -/
inductive Passes (R : Reaction σ) (p : Policy) : σ → Except Failure Report → σ → Prop
  | noDevice {s e t} : R .listDevice s (.error e) t → Passes R p s (.error (e.asSnapshotFetch "local")) t
  | noCarrier {s d s₁ e t} : R .listDevice s (.ok d) s₁ → R .listCarrier s₁ (.error e) t →
      Passes R p s (.error (e.asSnapshotFetch "remote")) t
  | noMirror {s d s₁ c s₂ e t} : R .listDevice s (.ok d) s₁ → R .listCarrier s₁ (.ok c) s₂ →
      R .listMirror s₂ (.error e) t → Passes R p s (.error (e.asSnapshotFetch "mirror")) t
  | through {s d s₁ c s₂ m s₃ o s₄ sent s₅ x t} : R .listDevice s (.ok d) s₁ →
      R .listCarrier s₁ (.ok c) s₂ → R .listMirror s₂ (.ok m) s₃ →
      Ends R (p.planned d c m).device.commit s₃ o s₄ →
      Ends R (Action.attemptAll (p.planned d c m).carrier.toList) s₄ sent s₅ →
      Ends R (p.conclude c (p.planned d c m) ⟨o, sent⟩) s₅ x t → Passes R p s x t

theorem passes_of_ends (ends : Ends R p.cycle s x t) : Passes R p s x t := by
  unfold cycle at ends
  obtain ⟨device, s₁, first, rest⟩ := Program.ends_bind_iff.mp ends
  rw [Program.ends_ask_iff] at first
  cases device with
  | error e =>
    obtain ⟨rfl, rfl⟩ := Program.ends_pure_iff.mp rest
    exact .noDevice first
  | ok d =>
    obtain ⟨carrier, s₂, second, rest⟩ := Program.ends_bind_iff.mp rest
    rw [Program.ends_ask_iff] at second
    cases carrier with
    | error e =>
      obtain ⟨rfl, rfl⟩ := Program.ends_pure_iff.mp rest
      exact .noCarrier first second
    | ok c =>
      obtain ⟨mirror, s₃, third, rest⟩ := Program.ends_bind_iff.mp rest
      rw [Program.ends_ask_iff] at third
      cases mirror with
      | error e =>
        obtain ⟨rfl, rfl⟩ := Program.ends_pure_iff.mp rest
        exact .noMirror first second third
      | ok m =>
        simp only [planFor_eq] at rest
        obtain ⟨applied, s₅, carried, concluded⟩ := Program.ends_bind_iff.mp rest
        obtain ⟨o, s₄, committed, rest⟩ := Program.ends_bind_iff.mp carried
        obtain ⟨sent, s₆, attempted, ended⟩ := Program.ends_bind_iff.mp rest
        obtain ⟨rfl, rfl⟩ := Program.ends_pure_iff.mp ended
        exact .through first second third committed attempted concluded

theorem isValidFor_device_of_planned {d c m : Snapshot} :
    ∀ a ∈ (p.planned d c m).device.toList, a.isValidFor .device = true :=
  fun _ mem => isValidFor_device_of_mem _ _ _ mem

theorem isValidFor_carrier_of_planned {d c m : Snapshot} :
    ∀ a ∈ (p.planned d c m).carrier.toList, a.isValidFor .carrier = true :=
  fun _ mem => isValidFor_carrier_of_mem _ _ _ mem

/-- What a plan is about has been listed, as an item of the policy's family. -/
theorem family_of_planned {d c m : Snapshot} {a : Action}
    (mem : a ∈ (p.planned d c m).device.toList ∨ a ∈ (p.planned d c m).carrier.toList) :
    a.item.family = p.family := by
  have retained : ∀ {s : Snapshot}, a.item ∈ (s.retain p.family).toList → a.item.family = p.family :=
    fun held => of_decide_eq_true (List.mem_filter.mp held).2
  rcases p.item_of_actions _ _ _ (Plan.mem_of_ofList mem) with held | held | held <;> exact retained held

end Policy

end

/-! Which calls a program may come to make. -/

namespace Program

variable {α β : Type} {P : Request → Prop}

/-- Every call the program may come to make has the property, whatever was answered before. -/
def Asks (P : Request → Prop) : Program α → Prop
  | done _ => True
  | call r next => P r ∧ ∀ x, (next x).Asks P

theorem Asks.ask {r : Request} (holds : P r) : (ask r).Asks P := ⟨holds, fun _ => trivial⟩

theorem Asks.bind {q : Program α} {k : α → Program β} (first : q.Asks P)
    (second : ∀ a, (k a).Asks P) : (q >>= k).Asks P := by
  induction q with
  | done a => exact second a
  | call r next ih => exact ⟨first.1, fun x => ih x (first.2 x)⟩

end Program

open Program (Asks)

variable {P : Request → Prop}

theorem ActionList.commit_asks {l : ActionList} (transaction : P (.applyDevice l.toList)) :
    l.commit.Asks P := by
  unfold commit
  split
  · exact trivial
  · split
    · exact trivial
    · refine .bind (.ask transaction) ?_
      intro x
      cases x <;> exact trivial

theorem Action.execute_asks {a : Action} (command : P (.applyCarrier a)) (fetch : P (.fetchContent a.item))
    (store : ∀ p, P (.storeContent a.item p)) : a.execute.Asks P := by
  unfold Action.execute
  split
  · exact trivial
  · split
    · refine .bind (.ask fetch) ?_
      intro x
      cases x with
      | ok p => exact .ask (store p)
      | error e => exact trivial
    all_goals exact .ask command

theorem Action.attemptAll_asks_each {as : List Action} (each : ∀ a ∈ as, a.execute.Asks P) :
    (Action.attemptAll as).Asks P := by
  induction as with
  | nil => exact trivial
  | cons a rest ih =>
    rw [Action.attemptAll_cons]
    have later := ih fun b mem => each b (List.mem_cons_of_mem _ mem)
    exact .bind (each a List.mem_cons_self) fun _ => .bind later fun _ => trivial

theorem Policy.conclude_asks_renewal (p : Policy) {carrier : Snapshot} (plan : Plan) {applied : Applied}
    (renewal : P (.replaceMirror ((carrier.retain p.family).observeAll applied.carrier.completed))) :
    (p.conclude carrier plan applied).Asks P := by
  unfold Policy.conclude
  split
  · exact trivial
  all_goals
    refine .bind (.ask renewal) ?_
    rintro (e | _) <;> exact trivial

section

variable (others : ∀ r : Request, r.method ≠ .applyDevice → P r)

include others

theorem Action.attemptAll_asks (as : List Action) : (Action.attemptAll as).Asks P :=
  attemptAll_asks_each fun _ _ => execute_asks (others _ (by simp [Request.method]))
    (others _ (by simp [Request.method])) fun _ => others _ (by simp [Request.method])

theorem ActionList.send_asks {β : Type} (l : ActionList) {k : CarrierOutcome → Program β}
    (later : ∀ sent, (k sent).Asks P) : (l.send >>= k).Asks P :=
  .bind (Action.attemptAll_asks others _) later

theorem Plan.carryOut_asks (plan : Plan) (transaction : P (.applyDevice plan.device.toList)) :
    plan.carryOut.Asks P :=
  .bind (ActionList.commit_asks transaction) fun _ => ActionList.send_asks others _ fun _ => trivial

theorem Policy.conclude_asks (p : Policy) (carrier : Snapshot) (plan : Plan) (applied : Applied) :
    (p.conclude carrier plan applied).Asks P :=
  conclude_asks_renewal p plan (others _ (by simp [Request.method]))

/-- The only transactions a cycle asks for are those it has planned. -/
theorem Policy.cycle_asks {p : Policy}
    (transaction : ∀ d c m, P (.applyDevice (p.planned d c m).device.toList)) : p.cycle.Asks P := by
  unfold Policy.cycle
  refine .bind (.ask (others _ (by simp [Request.method]))) ?_
  rintro (e | d)
  · exact trivial
  · refine .bind (.ask (others _ (by simp [Request.method]))) ?_
    rintro (e | c)
    · exact trivial
    · refine .bind (.ask (others _ (by simp [Request.method]))) ?_
      rintro (e | m)
      · exact trivial
      · simp only [Policy.planFor_eq]
        exact .bind (Plan.carryOut_asks others _ (transaction d c m)) fun applied =>
          Policy.conclude_asks others p c _ applied

end

end MailboxSync
