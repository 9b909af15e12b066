import MailboxSync.Proofs.CycleParts
import MailboxSync.Proofs.Slot

namespace MailboxSync

open Program (Ends)

namespace Memory

variable {faulty : Prop} {m m' : Memory}

/-- The stores answer a call. Where calls may fail, it may fail instead and change nothing. -/
def reacts (faulty : Prop) : Reaction Memory := fun r m x m' =>
  m.answer r = (x, m') ∨ faulty ∧ ∃ e, x = .error e ∧ m' = m

theorem Unarmed.reacts (unarmed : m.Unarmed) {r : Request} {x : r.Answer}
    (reply : Memory.reacts faulty r m x m') : m'.Unarmed := by
  rcases reply with answered | ⟨_, e, _, rfl⟩
  · have after := unarmed.answer r
    rw [answered] at after
    exact after
  · exact unarmed

/-- The stores with no fault armed. -/
def disarmed (m : Memory) : Memory where
  device := { m.device with listFault := none, applyFault := none }
  carrier := { m.carrier with listFault := none, actionFaults := .empty, fetchFaults := .empty }
  mirror := { m.mirror with replaceFault := none }

theorem unarmed_disarmed (m : Memory) : m.disarmed.Unarmed := ⟨rfl, rfl, rfl, rfl, rfl, rfl⟩

/-- A call either meets a fault that was armed for it, or it is answered as if none were. -/
theorem answer_disarmed (r : Request) (m : Memory) :
    (∃ e, (m.answer r).1 = .error e ∧ (m.answer r).2.disarmed = m.disarmed) ∨
      m.disarmed.answer r = ((m.answer r).1, (m.answer r).2.disarmed) := by
  obtain ⟨⟨items, contents, deviceList, deviceApply⟩, carrier, mirror⟩ := m
  cases r with
  | listDevice =>
    cases deviceList with
    | some e => exact Or.inl ⟨_, rfl, rfl⟩
    | none => exact Or.inr rfl
  | listCarrier =>
    obtain ⟨recordings, applied, fault, _, _⟩ := carrier
    cases fault with
    | some e => exact Or.inl ⟨_, rfl, rfl⟩
    | none => exact Or.inr rfl
  | listMirror => exact Or.inr rfl
  | applyDevice as =>
    cases deviceApply with
    | some e => exact Or.inl ⟨_, rfl, rfl⟩
    | none =>
      simp only [answer, onDevice, disarmed, Device.apply]
      cases items.performAll as <;> exact Or.inr rfl
  | storeContent i p =>
    simp only [answer, onDevice, disarmed, Device.storeContent]
    by_cases held : items.contains i.id = true <;> simp [held]
  | applyCarrier a =>
    have free : (Shelf.empty : KeySet).contains a.id = false := rfl
    simp only [answer, onCarrier, disarmed, Carrier.apply, free]
    cases carrier.actionFaults.contains a.id with
    | true => exact Or.inl ⟨_, rfl, rfl⟩
    | false =>
      cases a.kind with
      | insert | delete | fetchContent => exact Or.inr rfl
      | markAsRead =>
        by_cases held : carrier.recordings.contains a.id = true <;>
          simp [held, Carrier.markRead, Carrier.log]
  | fetchContent i =>
    have free : (Shelf.empty : KeySet).contains i.id = false := rfl
    simp only [answer, onCarrier, disarmed, Carrier.fetchContent, free]
    cases carrier.fetchFaults.contains i.id with
    | true => exact Or.inl ⟨_, rfl, rfl⟩
    | false => cases carrier.recordings.get? i.id <;> exact Or.inr rfl
  | replaceMirror s =>
    obtain ⟨snapshot, fault⟩ := mirror
    cases fault with
    | some e => exact Or.inl ⟨_, rfl, rfl⟩
    | none => exact Or.inr rfl

theorem reacts_disarmed {r : Request} {x : r.Answer} (reply : reacts True r m x m') :
    reacts True r m.disarmed x m'.disarmed := by
  rcases reply with answered | ⟨_, e, rfl, rfl⟩
  · rcases answer_disarmed r m with ⟨e, failed, same⟩ | same
    · rw [answered] at failed same
      exact Or.inr ⟨trivial, e, failed, same⟩
    · rw [answered] at same
      exact Or.inl same
  · exact Or.inr ⟨trivial, e, rfl, rfl⟩

/-- Where any call may fail, it makes no difference which faults are armed. -/
theorem ends_disarmed {α : Type} {q : Program α} {x : α} (ends : Ends (reacts True) q m x m') :
    Ends (reacts True) q m.disarmed x m'.disarmed := by
  induction ends with
  | done => exact .done
  | call reply _ ih => exact .call (reacts_disarmed reply) ih

/-- Audio is handed out by a carrier that has it. -/
theorem Unarmed.get?_of_fetch (unarmed : m.Unarmed) {i : Item} {p : Payload}
    (answered : m.answer (.fetchContent i) = (.ok p, m')) :
    ∃ r, m.carrier.recordings.get? i.id = some r ∧ r.payload = p := by
  have fetched : (m.carrier.fetchContent i).1 = .ok p := congrArg Prod.fst answered
  rw [m.carrier.fetchContent_of_free (unarmed.fetches_free i.id)] at fetched
  cases found : m.carrier.recordings.get? i.id with
  | none =>
    rw [found] at fetched
    cases fetched
  | some r =>
    rw [found] at fetched
    exact ⟨r, rfl, Except.ok.inj fetched⟩

theorem Unarmed.get?_of_fetch_error (unarmed : m.Unarmed) {i : Item} {e : Failure}
    (answered : m.answer (.fetchContent i) = (.error e, m')) : m.carrier.recordings.get? i.id = none := by
  have refused : (m.carrier.fetchContent i).1 = .error e := congrArg Prod.fst answered
  rw [m.carrier.fetchContent_of_free (unarmed.fetches_free i.id)] at refused
  cases found : m.carrier.recordings.get? i.id with
  | none => rfl
  | some r =>
    rw [found] at refused
    cases refused

theorem Unarmed.performAll_of_error (unarmed : m.Unarmed) {as : List Action} {e : Failure}
    (answered : m.answer (.applyDevice as) = (.error e, m')) :
    m.device.items.performAll as = .error e ∧ m' = m := by
  have answer : m.answer (.applyDevice as) =
      ((m.device.apply as).1, { m with device := (m.device.apply as).2 }) := rfl
  rw [answer, unarmed.apply_eq] at answered
  cases outcome : m.device.items.performAll as with
  | ok items =>
    rw [outcome] at answered
    cases answered
  | error e' =>
    rw [outcome] at answered
    cases answered
    exact ⟨rfl, rfl⟩

theorem slot_fetchContent (m : Memory) (i : Item) (k : String) :
    (m.answer (.fetchContent i)).2.slot k = m.slot k := by
  have recordings := m.carrier.recordings_fetchContent i
  show Slot.mk _ _ ((m.carrier.fetchContent i).2.recordings.get? k) _ = _
  rw [recordings]
  rfl

end Memory

open Memory

variable {faulty : Prop} {m m' : Memory}

namespace Action

variable {a : Action} {x : Except Failure Unit}

theorem unarmed_of_ends {α : Type} {q : Program α} {b : α} (unarmed : m.Unarmed)
    (ends : Ends (reacts faulty) q m b m') : m'.Unarmed := by
  induction ends with
  | done => exact unarmed
  | call reply _ ih => exact ih (unarmed.reacts reply)

/-- A command that has its place at the carrier is carried out on the slot of its item and on no other,
or nothing happens. -/
theorem granted_of_executes (unarmed : m.Unarmed) (valid : a.isValidFor .carrier = true)
    (executes : Executes (reacts faulty) a m x m') :
    (x = .ok () ∧ (m.slot a.id).grants a = true ∧
        ∀ k, m'.slot k = if k = a.id then (m.slot k).obey a else m.slot k) ∨
      (∃ e, x = .error e) ∧ (faulty ∨ (m.slot a.id).grants a = false) ∧ ∀ k, m'.slot k = m.slot k := by
  cases executes with
  | misplaced invalid =>
    rw [valid] at invalid
    cases invalid
  | command _ kind reply =>
    rcases reply with answered | ⟨fault, e, rfl, rfl⟩
    · have outcome := slot_applyCarrier (unarmed.actions_free a.id) kind
      rw [answered] at outcome
      cases x with
      | ok _ => exact Or.inl ⟨rfl, (outcome "").1.mp rfl, fun k => (outcome k).2⟩
      | error e =>
        have refused : (m.slot a.id).grants a = false := by
          rw [← Bool.not_eq_true, ← (outcome "").1]
          simp
        refine Or.inr ⟨⟨e, rfl⟩, Or.inr refused, ?_⟩
        intro k
        rw [(outcome k).2]
        by_cases own : k = a.id
        · subst own
          rw [if_pos rfl, Slot.obey_of_refused refused]
        · rw [if_neg own]
    · exact Or.inr ⟨⟨e, rfl⟩, Or.inl fault, fun _ => rfl⟩
  | @withheld e _ _ kind reply =>
    rcases reply with answered | ⟨fault, _, _, rfl⟩
    · have same := slot_fetchContent m a.item
      rw [answered] at same
      have missing : (m.slot a.id).recording = none := unarmed.get?_of_fetch_error answered
      exact Or.inr ⟨⟨e, rfl⟩, Or.inr (by simp [Slot.grants, kind, missing]), same⟩
    · exact Or.inr ⟨⟨e, rfl⟩, Or.inl fault, fun _ => rfl⟩
  | @fetched p m₁ _ _ _ kind reply kept =>
    rcases reply with answered | ⟨_, _, failed, _⟩
    rotate_left
    · cases failed
    have same := slot_fetchContent m a.item
    rw [answered] at same
    obtain ⟨r, recording, rfl⟩ : ∃ r, (m.slot a.id).recording = some r ∧ r.payload = p :=
      unarmed.get?_of_fetch answered
    rcases kept with stored | ⟨fault, e, rfl, rfl⟩
    rotate_left
    · exact Or.inr ⟨⟨e, rfl⟩, Or.inl fault, same⟩
    cases held : (m.slot a.id).item.isSome with
    | true =>
      have held₁ : (m₁.slot a.item.id).item.isSome = true := by rw [same]; exact held
      have kept := slot_storeContent (p := r.payload) held₁
      rw [stored] at kept
      refine Or.inl ⟨(kept "").1, by simp [Slot.grants, kind, recording, held], ?_⟩
      intro k
      rw [(kept k).2, same]
      by_cases own : k = a.id
      · rw [if_pos own, if_pos (show k = a.item.id from own), own]
        obtain ⟨i, item⟩ := Option.isSome_iff_exists.mp held
        simp only [Slot.obey, kind, recording, item, Option.map_some]
      · rw [if_neg own, if_neg (show ¬k = a.item.id from own)]
    | false =>
      have missing : (m₁.slot a.item.id).item.isSome = false := by rw [same]; exact held
      rw [storeContent_missing _ missing] at stored
      obtain ⟨rfl, rfl⟩ := Prod.mk.inj stored
      exact Or.inr ⟨⟨_, rfl⟩, Or.inr (by simp [Slot.grants, kind, held]), same⟩

/-- Slot by slot, a sequence of commands is the sequence of those for this slot. -/
theorem obeys_of_ends_attemptAll {as : List Action} (unarmed : m.Unarmed)
    (valid : ∀ a ∈ as, a.isValidFor .carrier = true) {o : CarrierOutcome}
    (ends : Ends (reacts faulty) (attemptAll as) m o m') (k : String) :
    Slot.Obeys faulty (as.filter fun a => a.id = k) (m.slot k)
      (o.completed.filter fun a => a.id = k) (m'.slot k) := by
  induction as generalizing m o with
  | nil =>
    obtain ⟨rfl, rfl⟩ := Program.ends_pure_iff.mp ends
    exact .nil
  | cons a rest ih =>
    obtain ⟨x, m₁, o', rfl, first, later⟩ := attemptAll_cases ends
    have obeys := ih (unarmed_of_ends unarmed first)
      (fun b mem => valid b (List.mem_cons_of_mem _ mem)) later
    rcases granted_of_executes unarmed (valid a List.mem_cons_self) (executes_of_ends first) with
      ⟨rfl, granted, effect⟩ | ⟨⟨e, rfl⟩, reason, same⟩
    · rw [effect] at obeys
      by_cases own : a.id = k
      · subst own
        rw [if_pos rfl] at obeys
        simpa [CarrierOutcome.record] using .done granted obeys
      · rw [if_neg (Ne.symm own)] at obeys
        simpa [CarrierOutcome.record, own] using obeys
    · rw [same] at obeys
      by_cases own : a.id = k
      · subst own
        simpa [CarrierOutcome.record] using .failed reason obeys
      · simpa [CarrierOutcome.record, own] using obeys

end Action

/-- The transaction of a plan is carried out as a whole or not at all. -/
theorem ActionList.ends_commit {l : ActionList} (unarmed : m.Unarmed)
    (valid : ∀ a ∈ l.toList, a.isValidFor .device = true) {o : DeviceOutcome}
    (ends : Ends (reacts faulty) l.commit m o m') :
    (o.isSettled = true ∧ ∀ k, m'.slot k = (m.slot k).transacted (Action.alterAll l.toList k)) ∨
      o.isSettled = false ∧ (faulty ∨ ∃ e, m.device.items.performAll l.toList = .error e) ∧
        ∀ k, m'.slot k = m.slot k := by
  rcases commit_cases valid ends with ⟨nothing, rfl, rfl⟩ | ⟨reply, rfl⟩ | ⟨e, reply, rfl⟩
  · refine Or.inl ⟨rfl, ?_⟩
    intro k
    rw [nothing]
    exact (Slot.transacted_id _).symm
  · rcases reply with answered | ⟨_, e, failed, _⟩
    · obtain ⟨items, done, _⟩ := m.device.apply_ok (congrArg Prod.fst answered)
      rw [unarmed.answer_applyDevice done] at answered
      exact Or.inl ⟨rfl, fun k => slot_transacted done (Prod.mk.inj answered).2.symm⟩
    · cases failed
  · rcases reply with answered | ⟨fault, _, _, rfl⟩
    · obtain ⟨refused, rfl⟩ := unarmed.performAll_of_error answered
      exact Or.inr ⟨rfl, Or.inr ⟨e, refused⟩, fun _ => rfl⟩
    · exact Or.inr ⟨rfl, Or.inl fault, fun _ => rfl⟩

end MailboxSync
