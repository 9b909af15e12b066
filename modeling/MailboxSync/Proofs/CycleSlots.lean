import MailboxSync.Proofs.CycleParts
import MailboxSync.Proofs.MemoryReaction

namespace MailboxSync

open Program (Ends)

/-- A cycle on this family takes notice of the item. -/
def Item.listed (f : Family) (i : Item) : Bool := i.isKeyed && i.family = f

/-- What a command that was carried out changes in the carrier's listing under the name. -/
def Action.observe (a : Action) (x : Option Item) : Option Item :=
  match a.kind with
  | .delete => none
  | .markAsRead => x.map Item.markRead
  | .insert | .fetchContent => x

theorem Snapshot.get?_observe (s : Snapshot) (a : Action) (k : String) :
    (s.observe a).get? k = if a.id = k then a.observe (s.get? k) else s.get? k := by
  unfold observe Action.observe
  cases kind : a.kind with
  | insert | fetchContent => simp
  | delete => simp only [get?_remove, eq_comm]
  | markAsRead => simp only [get?_markRead, eq_comm]

theorem Snapshot.get?_observeAll (s : Snapshot) (completed : List Action) (k : String) :
    (s.observeAll completed).get? k =
      (completed.filter fun a => a.id = k).foldl (fun x a => a.observe x) (s.get? k) := by
  induction completed generalizing s with
  | nil => rfl
  | cons a rest ih =>
    show ((s.observe a).observeAll rest).get? k = _
    rw [ih, get?_observe]
    by_cases own : a.id = k
    · rw [List.filter_cons_of_pos (by simpa using own), if_pos own]
      rfl
    · rw [List.filter_cons_of_neg (by simpa using own), if_neg own]

namespace Slot

/-- The slot as the listings of a family show it. -/
def seen (f : Family) (s : Slot) : Slot where
  item := s.item.filter (Item.listed f)
  content := s.content
  recording := s.recording.filter fun r => r.item.listed f
  mirror := s.mirror.filter (Item.listed f)

/-- What the carrier's listing shows. -/
def heard (f : Family) (s : Slot) : Option Item := (s.seen f).recording.map Recording.item

/-- What a policy asks for about one name. -/
def plan (p : Policy) (s : Slot) : Plan :=
  p.planAt (s.seen p.family).item (s.heard p.family) (s.seen p.family).mirror

/-- Nothing is left to do about the name. -/
structure Rests (p : Policy) (s : Slot) : Prop where
  device : (s.plan p).device.toList = []
  carrier : (s.plan p).carrier.toList = []
  mirror : s.mirror = s.heard p.family

/-- What a cycle may make of a slot. The transaction is carried out or not, the commands are tried,
and the mirror is renewed or not. Where no call fails all is done. -/
def Turns (p : Policy) (faulty : Prop) (f : Option Item → Option Item) (settled renewed : Bool)
    (s t : Slot) : Prop :=
  ∃ cs u, Obeys faulty (s.plan p).carrier.toList (if settled then s.transacted f else s) cs u ∧
    t = if renewed then { u with mirror := cs.foldl (fun x a => a.observe x) (s.heard p.family) } else u

theorem Obeys.all_failed {faulty : Prop} (fault : faulty) (as : List Action) (s : Slot) :
    Obeys faulty as s [] s := by
  induction as with
  | nil => exact .nil
  | cons a rest ih => exact .failed (Or.inl fault) ih

/-- A cycle that does nothing is one whose calls all fail. -/
theorem Turns.unchanged {p : Policy} {faulty : Prop} (fault : faulty) (f : Option Item → Option Item)
    (s : Slot) : s.Turns p faulty f false false s :=
  ⟨[], s, Obeys.all_failed fault _ s, rfl⟩

end Slot

open Memory

section

variable (m : Memory) (f : Family) (k : String)

theorem Device.get?_retain_snapshot :
    (m.device.snapshot.retain f).get? k = ((m.slot k).seen f).item := by
  rw [Snapshot.get?_retain, Device.get?_snapshot, Option.filter_filter]
  rfl

theorem Carrier.get?_retain_snapshot :
    (m.carrier.snapshot.retain f).get? k = (m.slot k).heard f := by
  rw [Snapshot.get?_retain, Carrier.get?_snapshot, Option.filter_filter, Option.filter_map]
  rfl

theorem Mirror.get?_retain_snapshot :
    (m.mirror.snapshot.retain f).get? k = ((m.slot k).seen f).mirror := by
  rw [Snapshot.get?_retain]
  show _ = (m.mirror.snapshot.get? k).filter _
  cases found : m.mirror.snapshot.get? k with
  | none => rfl
  | some i =>
    have keyed := Snapshot.keyed_of_get? found
    simp [Option.filter_some, Item.listed, keyed]

end

namespace Policy

variable (p : Policy) (m : Memory) (k : String)

/-- What the policy asks for, going by what the stores hold. -/
def planOf : Plan :=
  p.plan (classify (m.device.snapshot.retain p.family) (m.carrier.snapshot.retain p.family)
    (m.mirror.snapshot.retain p.family))

theorem planFor_listings :
    p.planFor m.device.snapshot m.carrier.snapshot m.mirror.snapshot = .ok (p.planOf m) :=
  p.planFor_eq _ _ _

theorem filter_device_planOf :
    ((p.planOf m).device.toList.filter fun a => a.id = k) = ((m.slot k).plan p).device.toList := by
  rw [planOf, filter_device_plan, Device.get?_retain_snapshot, Carrier.get?_retain_snapshot,
    Mirror.get?_retain_snapshot]
  rfl

theorem filter_carrier_planOf :
    ((p.planOf m).carrier.toList.filter fun a => a.id = k) = ((m.slot k).plan p).carrier.toList := by
  rw [planOf, filter_carrier_plan, Device.get?_retain_snapshot, Carrier.get?_retain_snapshot,
    Mirror.get?_retain_snapshot]
  rfl

variable {p m} in
theorem device_planOf_eq_nil (nothing : ∀ k, ((m.slot k).plan p).device.toList = []) :
    (p.planOf m).device.toList = [] := by
  rw [List.eq_nil_iff_forall_not_mem]
  intro a mem
  have own : a ∈ ((m.slot a.id).plan p).device.toList := by
    rw [← filter_device_planOf]
    simpa using mem
  rw [nothing] at own
  cases own

variable {p m} in
theorem carrier_planOf_eq_nil (nothing : ∀ k, ((m.slot k).plan p).carrier.toList = []) :
    (p.planOf m).carrier.toList = [] := by
  rw [List.eq_nil_iff_forall_not_mem]
  intro a mem
  have own : a ∈ ((m.slot a.id).plan p).carrier.toList := by
    rw [← filter_carrier_planOf]
    simpa using mem
  rw [nothing] at own
  cases own

/-- What the device's transaction makes of the item under a name. -/
def alters (k : String) : Option Item → Option Item := Action.alterAll (p.planOf m).device.toList k

theorem passive_alters (x : Option Item) : (p.alters m k x).map Item.passive =
    (Action.alterAll ((m.slot k).plan p).device.toList k x).map Item.passive := by
  rw [alters, ← filter_device_planOf]
  exact Action.map_passive_alterAll k rfl

/-- What a transaction leaves under a name comes from the actions about that name, but for which greeting is played. -/
theorem map_alters {α : Type} {f : Item → α} (blind : ∀ i, f i.passive = f i) (x : Option Item) :
    (p.alters m k x).map f = (Action.alterAll ((m.slot k).plan p).device.toList k x).map f := by
  have passive : f ∘ Item.passive = f := funext blind
  rw [← passive, ← Option.map_map, ← Option.map_map, passive_alters]

variable {p m} in
theorem alters_eq_id (nothing : ∀ k, ((m.slot k).plan p).device.toList = []) (k : String) :
    p.alters m k = id := by
  funext x
  rw [alters, device_planOf_eq_nil nothing]
  rfl

end Policy

variable {faulty : Prop} {p : Policy} {m m' : Memory}

namespace Memory

/-- Of a call that stores which are not armed would answer and stay as they are. -/
theorem reacts_of_answer {r : Request} {x : r.Answer} {y : r.Reply} (answer : m.answer r = (.ok y, m))
    (reply : reacts faulty r m x m') : m' = m ∧ (x = .ok y ∨ faulty ∧ ∃ e, x = .error e) := by
  rcases reply with answered | ⟨fault, e, rfl, rfl⟩
  · rw [answer] at answered
    cases answered
    exact ⟨rfl, Or.inl rfl⟩
  · exact ⟨rfl, Or.inr ⟨fault, e, rfl⟩⟩

/-- A listing that was not refused shows what the store holds. -/
theorem listed_device {s : Snapshot} (reply : reacts faulty .listDevice m (.ok s) m') :
    s = m.device.snapshot ∧ m' = m := by
  rcases reply with answered | ⟨_, e, failed, _⟩
  · obtain ⟨listed, rfl⟩ : m.device.list.1 = .ok s ∧ { m with device := m.device.list.2 } = m' := Prod.mk.inj answered
    obtain ⟨rfl, same⟩ := m.device.list_ok listed
    exact ⟨rfl, by rw [same]⟩
  · cases failed

theorem listed_carrier {s : Snapshot} (reply : reacts faulty .listCarrier m (.ok s) m') :
    s = m.carrier.snapshot ∧ m' = m := by
  rcases reply with answered | ⟨_, e, failed, _⟩
  · obtain ⟨listed, rfl⟩ : m.carrier.list.1 = .ok s ∧ { m with carrier := m.carrier.list.2 } = m' :=
      Prod.mk.inj answered
    obtain ⟨rfl, same⟩ := m.carrier.list_ok listed
    exact ⟨rfl, by rw [same]⟩
  · cases failed

theorem listed_mirror {s : Snapshot} (reply : reacts faulty .listMirror m (.ok s) m') :
    s = m.mirror.snapshot ∧ m' = m := by
  rcases reply with answered | ⟨_, e, failed, _⟩
  · cases answered
    exact ⟨rfl, rfl⟩
  · cases failed

theorem answer_listMirror (m : Memory) : m.answer .listMirror = (.ok m.mirror.snapshot, m) := rfl

theorem Unarmed.renewal (unarmed : m.Unarmed) {s : Snapshot} {x : Except Failure Unit}
    (reply : Memory.reacts faulty (.replaceMirror s) m x m') :
    (x = .ok () ∧ m' = { m with mirror := { m.mirror with snapshot := s } }) ∨
      faulty ∧ (∃ e, x = .error e) ∧ m' = m := by
  have answer : m.answer (.replaceMirror s) =
      (.ok (), { m with mirror := { m.mirror with snapshot := s } }) := by
    show ((m.mirror.replaceWith s).1, { m with mirror := (m.mirror.replaceWith s).2 }) = _
    rw [unarmed.replaceWith_eq]
  rcases reply with answered | ⟨fault, e, rfl, rfl⟩
  · rw [answer] at answered
    cases answered
    exact Or.inl ⟨rfl, rfl⟩
  · exact Or.inr ⟨fault, ⟨e, rfl⟩, rfl⟩

end Memory

namespace Policy

/-- A cycle that lists the three stores goes by what they hold. Otherwise a listing has failed. -/
theorem listed_of_passes (unarmed : m.Unarmed) {x : Except Failure Report}
    (passes : Passes (reacts faulty) p m x m') :
    (faulty ∧ m' = m ∧ ∃ e, x = .error e) ∨ ∃ o m₄ sent m₅,
      Ends (reacts faulty) (p.planOf m).device.commit m o m₄ ∧
      Ends (reacts faulty) (Action.attemptAll (p.planOf m).carrier.toList) m₄ sent m₅ ∧
      Ends (reacts faulty) (p.conclude m.carrier.snapshot (p.planOf m) ⟨o, sent⟩) m₅ x m' := by
  cases passes with
  | noDevice first =>
    obtain ⟨rfl, listed | ⟨fault, _⟩⟩ := reacts_of_answer unarmed.answer_listDevice first
    · cases listed
    · exact Or.inl ⟨fault, rfl, _, rfl⟩
  | noCarrier first second =>
    obtain ⟨rfl, _⟩ := reacts_of_answer unarmed.answer_listDevice first
    obtain ⟨rfl, listed | ⟨fault, _⟩⟩ := reacts_of_answer unarmed.answer_listCarrier second
    · cases listed
    · exact Or.inl ⟨fault, rfl, _, rfl⟩
  | noMirror first second third =>
    obtain ⟨rfl, _⟩ := reacts_of_answer unarmed.answer_listDevice first
    obtain ⟨rfl, _⟩ := reacts_of_answer unarmed.answer_listCarrier second
    obtain ⟨rfl, listed | ⟨fault, _⟩⟩ := reacts_of_answer (answer_listMirror _) third
    · cases listed
    · exact Or.inl ⟨fault, rfl, _, rfl⟩
  | @through d _ c _ n m₃ o m₄ sent m₅ _ _ first second third committed attempted concluded =>
    obtain ⟨rfl, rfl⟩ := listed_device first
    obtain ⟨rfl, rfl⟩ := listed_carrier second
    obtain ⟨rfl, rfl⟩ := listed_mirror third
    exact Or.inr ⟨o, m₄, sent, m₅, committed, attempted, concluded⟩

/-- What transaction and commands make of the stores, slot by slot. -/
theorem obeys_of_carried (unarmed : m.Unarmed) {o : DeviceOutcome} {sent : CarrierOutcome} {m₄ m₅ : Memory}
    (committed : Ends (reacts faulty) (p.planOf m).device.commit m o m₄)
    (attempted : Ends (reacts faulty) (Action.attemptAll (p.planOf m).carrier.toList) m₄ sent m₅) :
    m₅.Unarmed ∧
      (o.isSettled = true ∨ faulty ∨
        ∃ e, m.device.items.performAll (p.planOf m).device.toList = .error e) ∧
      ∀ k, Slot.Obeys faulty ((m.slot k).plan p).carrier.toList
        (if o.isSettled then (m.slot k).transacted (p.alters m k) else m.slot k)
        (sent.completed.filter fun a => a.id = k) (m₅.slot k) := by
  have validDevice : ∀ a ∈ (p.planOf m).device.toList, a.isValidFor .device = true :=
    fun a mem => isValidFor_device_of_mem _ _ _ mem
  have validCarrier : ∀ a ∈ (p.planOf m).carrier.toList, a.isValidFor .carrier = true :=
    fun a mem => isValidFor_carrier_of_mem _ _ _ mem
  have transaction := ActionList.ends_commit unarmed validDevice committed
  have unarmed₄ := Action.unarmed_of_ends unarmed committed
  have obeys := Action.obeys_of_ends_attemptAll unarmed₄ validCarrier attempted
  refine ⟨Action.unarmed_of_ends unarmed₄ attempted, ?_, ?_⟩
  · rcases transaction with ⟨settled, _⟩ | ⟨_, reason, _⟩
    · exact Or.inl settled
    · exact Or.inr reason
  · intro k
    rw [← filter_carrier_planOf]
    rcases transaction with ⟨settled, same⟩ | ⟨settled, _, same⟩
    · rw [settled, if_pos rfl, alters, ← same]
      exact obeys k
    · rw [settled, if_neg Bool.false_ne_true, ← same]
      exact obeys k

/-- What a cycle makes of the stores, slot by slot. -/
theorem turns_of_ends (unarmed : m.Unarmed) {x : Except Failure Report}
    (ends : Ends (reacts faulty) p.cycle m x m') :
    ∃ settled renewed, (renewed = true → settled = true) ∧
      (faulty ∨ (∃ e, m.device.items.performAll (p.planOf m).device.toList = .error e) ∨
        renewed = true ∧ ∃ r, x = .ok r) ∧
      ∀ k, (m.slot k).Turns p faulty (p.alters m k) settled renewed (m'.slot k) := by
  rcases listed_of_passes unarmed (passes_of_ends ends) with
    ⟨fault, rfl, _⟩ | ⟨o, m₄, sent, m₅, committed, attempted, concluded⟩
  · exact ⟨false, false, id, Or.inl fault, fun k => Slot.Turns.unchanged fault _ _⟩
  · obtain ⟨unarmed₅, transaction, obeys⟩ := obeys_of_carried unarmed committed attempted
    rcases conclude_cases concluded with ⟨e, rolledBack, rfl, rfl⟩ | ⟨settled, renewal⟩
    · have unsettled : o.isSettled = false := congrArg DeviceOutcome.isSettled rolledBack
      rw [unsettled] at transaction obeys
      refine ⟨false, false, id, ?_, fun k => ⟨_, _, obeys k, rfl⟩⟩
      rcases transaction with settled | fault | refused
      · cases settled
      · exact Or.inl fault
      · exact Or.inr (Or.inl refused)
    · have settled' : o.isSettled = true := settled
      rw [settled'] at obeys
      rcases renewal with ⟨renewal, rfl⟩ | ⟨e, renewal, rfl⟩
      · rcases unarmed₅.renewal renewal with ⟨_, rfl⟩ | ⟨_, ⟨_, failed⟩, _⟩
        · refine ⟨true, true, id, Or.inr (Or.inr ⟨rfl, _, rfl⟩), fun k => ⟨_, _, obeys k, ?_⟩⟩
          rw [if_pos rfl, ← Carrier.get?_retain_snapshot, ← Snapshot.get?_observeAll]
          rfl
        · cases failed
      · rcases unarmed₅.renewal renewal with ⟨done, _⟩ | ⟨fault, _, rfl⟩
        · cases done
        · exact ⟨true, false, fun _ => rfl, Or.inl fault, fun k => ⟨_, _, obeys k, rfl⟩⟩

/-- A cycle that completes has carried out its plan and renewed the mirror, and its report is about that. -/
theorem carried_of_completed (unarmed : m.Unarmed) {r : Report}
    (ends : Ends (reacts faulty) p.cycle m (.ok r) m') :
    ∃ m₄ m₅, Ends (reacts faulty) (p.planOf m).device.commit m r.device m₄ ∧
      Ends (reacts faulty) (Action.attemptAll (p.planOf m).carrier.toList) m₄ r.carrier m₅ ∧
      r.device.isSettled = true ∧
      reacts faulty (.replaceMirror ((m.carrier.snapshot.retain p.family).observeAll r.carrier.completed)) m₅
        (.ok ()) m' ∧
      r = .ofApplied p.kind (p.planOf m) ⟨r.device, r.carrier⟩ := by
  generalize outcome : Except.ok r = x at ends
  rcases listed_of_passes unarmed (passes_of_ends ends) with
    ⟨_, _, e, rfl⟩ | ⟨o, m₄, sent, m₅, committed, attempted, concluded⟩
  · cases outcome
  · rcases conclude_cases concluded with ⟨e, _, rfl, _⟩ | ⟨settled, ⟨renewal, rfl⟩ | ⟨e, _, rfl⟩⟩
    · cases outcome
    · cases outcome
      exact ⟨m₄, m₅, committed, attempted, settled, renewal, rfl⟩
    · cases outcome

/-- What a cycle that completes makes of them. The report tells which commands were carried out. -/
theorem obeys_of_completed (unarmed : m.Unarmed) {r : Report}
    (ends : Ends (reacts faulty) p.cycle m (.ok r) m') :
    r.carrier.TellsOf (p.planOf m).carrier.toList ∧
      ∀ k, ∃ u, Slot.Obeys faulty ((m.slot k).plan p).carrier.toList
          ((m.slot k).transacted (p.alters m k)) (r.carrier.completed.filter fun a => a.id = k) u ∧
        m'.slot k = { u with
          mirror := ((m.carrier.snapshot.retain p.family).observeAll r.carrier.completed).get? k } := by
  obtain ⟨m₄, m₅, committed, attempted, settled, renewal, -⟩ := carried_of_completed unarmed ends
  obtain ⟨unarmed₅, _, obeys⟩ := obeys_of_carried unarmed committed attempted
  rw [settled] at obeys
  refine ⟨Action.tellsOf_of_ends attempted, fun k => ⟨m₅.slot k, obeys k, ?_⟩⟩
  rcases unarmed₅.renewal renewal with ⟨_, rfl⟩ | ⟨_, ⟨_, failed⟩, _⟩
  · rfl
  · cases failed

end Policy

end MailboxSync
