import MailboxSync.Proofs.CycleStages

namespace MailboxSync

open Program (ask)

namespace Policy

variable {p : Policy} {device carrier mirror : Snapshot}

/-- What a transaction that goes through does with one message: it brings it in if only the carrier
had it, it may take it out if the carrier had it not, and otherwise it may mark it as read. -/
theorem performAll_plan_cases (voicemail : p.family = .voicemail)
    (family : ∀ k i, carrier.get? k = some i → i.family = .voicemail) {items after : Folder}
    (done : items.performAll (p.plan (classify device carrier mirror)).device.toList = .ok after)
    (k : String) :
    (device.contains k = false ∧ mirror.contains k = false ∧
      ∃ i, carrier.get? k = some i ∧ after.get? k = some i.bare) ∨
    (device.contains k = true ∧ carrier.contains k = false ∧ after.get? k = none) ∨
    ((device.contains k = true ∨ mirror.contains k = true ∨ carrier.contains k = false) ∧
      (after.get? k = items.get? k ∨ after.get? k = (items.get? k).map Item.markRead)) := by
  have inserts : ∀ a ∈ (p.plan (classify device carrier mirror)).device.toList, a.kind = .insert →
      a.item.family = .voicemail := by
    intro a mem kind
    rw [mem_device_plan_iff, device_planAt_of_voicemail _ _ _ voicemail] at mem
    split at mem
    · cases mem
    · next found =>
      split at mem
      · cases mem
      · obtain rfl := List.mem_singleton.mp mem
        exact family _ _ found
    · cases p with
      | greetingSync probe => cases voicemail
      | fullSync => simp [onDeviceOnly] at mem; rw [mem] at kind; cases kind
      | noLocalDeletion => simp [onDeviceOnly] at mem; rw [mem.2] at kind; cases kind
    · split at mem
      · obtain rfl := List.mem_singleton.mp mem
        cases kind
      · cases mem
  rw [Folder.get?_performAll done, Action.alterAll_filter k inserts, filter_device_plan,
    device_planAt_of_voicemail _ _ _ voicemail]
  simp only [Snapshot.contains_eq_isSome]
  cases atDevice : device.get? k with
  | none =>
    cases atCarrier : carrier.get? k with
    | none => exact Or.inr (Or.inr ⟨by simp, Or.inl rfl⟩)
    | some c =>
      cases atMirror : mirror.get? k with
      | none =>
        refine Or.inl ⟨rfl, rfl, c, rfl, ?_⟩
        simp [Action.alterAll, Action.alter, Action.id, Snapshot.id_of_get? atCarrier]
      | some m => exact Or.inr (Or.inr ⟨by simp, Or.inl rfl⟩)
  | some d =>
    have own : d.id = k := Snapshot.id_of_get? atDevice
    cases atCarrier : carrier.get? k with
    | none =>
      cases p with
      | greetingSync probe => cases voicemail
      | fullSync =>
        refine Or.inr (Or.inl ⟨rfl, rfl, ?_⟩)
        simp [onDeviceOnly, Action.alterAll, Action.alter, Action.id, own]
      | noLocalDeletion =>
        refine Or.inr (Or.inr ⟨by simp, ?_⟩)
        cases read : d.isRead
        · right
          simp [onDeviceOnly, read, Action.alterAll, Action.alter, Action.id, own]
        · left
          simp [onDeviceOnly, read, Action.alterAll]
    | some c =>
      refine Or.inr (Or.inr ⟨by simp, ?_⟩)
      by_cases behind : (!d.isRead && c.isRead) = true
      · right
        simp [behind, Action.alterAll, Action.alter, Action.id, own]
      · left
        simp [behind, Action.alterAll]

section

variable (voicemail : p.family = .voicemail)
  (family : ∀ k i, carrier.get? k = some i → i.family = .voicemail) {items after : Folder}
  (done : items.performAll (p.plan (classify device carrier mirror)).device.toList = .ok after)
  {k : String}

include voicemail family done

theorem listed_of_performAll_plan
    (listed : ∀ i, items.get? k = some i → i.isKeyed = true ∧ i.family = .voicemail) :
    ∀ i, after.get? k = some i → i.isKeyed = true ∧ i.family = .voicemail := by
  intro i found
  rcases performAll_plan_cases voicemail family done k with
    ⟨_, _, c, atCarrier, brought⟩ | ⟨_, _, erased⟩ | ⟨_, same | marked⟩
  · cases found.symm.trans brought
    have keyed : c.isKeyed = true := Snapshot.keyed_of_get? atCarrier
    exact ⟨keyed, family k c atCarrier⟩
  · cases found.symm.trans erased
  · exact listed i (same.symm.trans found)
  · obtain ⟨i', before, rfl⟩ := Option.map_eq_some_iff.mp (marked.symm.trans found)
    exact listed i' before

theorem arrived_of_performAll_plan (held : after.contains k = true) :
    items.contains k = true ∨
      device.contains k = false ∧ mirror.contains k = false ∧ carrier.contains k = true := by
  rw [Shelf.contains_eq_isSome] at held ⊢
  rcases performAll_plan_cases voicemail family done k with
    ⟨lacks, unknown, c, atCarrier, _⟩ | ⟨_, _, erased⟩ | ⟨_, same | marked⟩
  · exact Or.inr ⟨lacks, unknown, Snapshot.contains_eq_true_iff.mpr ⟨c, atCarrier⟩⟩
  · rw [erased] at held
    cases held
  · exact Or.inl (by rw [← same, held])
  · exact Or.inl (by rw [marked, Option.isSome_map] at held; exact held)

theorem remained_of_performAll_plan (held : items.contains k = true) :
    after.contains k = true ∨ device.contains k = true ∧ carrier.contains k = false := by
  rw [Shelf.contains_eq_isSome] at held ⊢
  rcases performAll_plan_cases voicemail family done k with
    ⟨_, _, c, _, brought⟩ | ⟨listed, lacks, _⟩ | ⟨_, same | marked⟩
  · exact Or.inl (by rw [brought]; rfl)
  · exact Or.inr ⟨listed, lacks⟩
  · exact Or.inl (by rw [same, held])
  · exact Or.inl (by rw [marked, Option.isSome_map, held])

theorem brought_of_performAll_plan (lacks : device.contains k = false)
    (unknown : mirror.contains k = false) (has : carrier.contains k = true) :
    after.contains k = true := by
  rw [Shelf.contains_eq_isSome]
  rcases performAll_plan_cases voicemail family done k with
    ⟨_, _, c, _, brought⟩ | ⟨listed, _, _⟩ | ⟨listed | known | away, _⟩
  · rw [brought]
    rfl
  · exact absurd (lacks.symm.trans listed) (by decide)
  · exact absurd (lacks.symm.trans listed) (by decide)
  · exact absurd (unknown.symm.trans known) (by decide)
  · exact absurd (away.symm.trans has) (by decide)

end

/-- The carrier is asked to delete only what the device lacks and the mirror knows. -/
theorem missed_of_delete (voicemail : p.family = .voicemail) {a : Action}
    (mem : a ∈ (p.plan (classify device carrier mirror)).carrier.toList) (kind : a.kind = .delete) :
    mirror.contains a.id = true ∧ device.contains a.id = false := by
  have paired : ∀ i ∈ device.get? a.id, ∀ j ∈ carrier.get? a.id, i.id = j.id := by
    intro i found j other
    rw [Snapshot.id_of_get? found, Snapshot.id_of_get? other]
  rw [mem_carrier_plan_iff, carrier_planAt_of_voicemail _ _ _ voicemail paired] at mem
  simp only [Snapshot.contains_eq_isSome]
  cases atDevice : device.get? a.id with
  | none =>
    refine ⟨?_, rfl⟩
    cases atMirror : mirror.get? a.id with
    | none =>
      cases atCarrier : carrier.get? a.id <;>
        simp [messageCommands, atDevice, atMirror, atCarrier] at mem
    | some m => rfl
  | some d =>
    rw [atDevice] at mem
    exact absurd kind (kind_ne_delete_of_mem_messageCommands mem)

end Policy

namespace History

variable {α : Type} {p : Policy} {h : History} {f : Family} {device carrier mirror listing : Snapshot}
  {settled : Bool} {sent : CarrierOutcome}

/-- The ledger is in order whenever the program makes a call, whatever happens in between and
whichever calls fail. -/
abbrev Leads (f : Family) (Q : α → History → Prop) (q : Program α) (h : History) : Prop :=
  q.Keeps (replies.after drifts) (Ledger f) Q h

theorem leads_ask (r : Request) (A : History → Prop) {Q : r.Answer → History → Prop} (holds : A h)
    (ledger : ∀ h, A h → Ledger f h)
    (gentle : ∀ {h what now}, A h → Gentle h what now → A (h.note what now))
    (answered : ∀ h, A h → Ledger f (h.note (.answered r) (h.now.answer r).2) ∧
      Q (h.now.answer r).1 (h.note (.answered r) (h.now.answer r).2))
    (failed : ∀ h e, A h → Q (.error e) h) : Leads f Q (ask r) h := by
  refine .call A ?_ holds ledger ?_
  · rintro h _ ⟨e, admitted, rfl⟩ before
    exact gentle before (gentle_event admitted)
  · rintro h x _ before (⟨rfl, rfl⟩ | ⟨e, rfl, rfl⟩)
    · exact answered h before
    · have after := gentle before (gentle_failed r e)
      exact ⟨ledger _ after, failed _ e after⟩

theorem leads_listDevice (ledger : Ledger f h) :
    Leads f (fun x h => Ledger f h ∧ ∀ s, x = .ok s → SawDevice f (s.retain f) h) (ask .listDevice) h := by
  refine leads_ask _ (Ledger f) ledger (fun _ now => now) Ledger.gentle ?_ ?_
  · intro h ledger
    have gentle : Gentle h (.answered .listDevice) (h.now.answer .listDevice).2 :=
      gentle_answered _ (by simp [Request.method]) (by rintro k ⟨a, command, _⟩; cases command)
    refine ⟨ledger.gentle gentle, ledger.gentle gentle, ?_⟩
    intro s listed
    obtain ⟨rfl, _⟩ := h.now.device.list_ok listed
    exact ledger.sawDevice.gentle gentle
  · intro h e ledger
    exact ⟨ledger, fun s listed => by cases listed⟩

theorem leads_listCarrier (saw : SawDevice f device h) :
    Leads f (fun x h => Ledger f h ∧ ∀ s, x = .ok s → SawCarrier f device (s.retain f) h)
      (ask .listCarrier) h := by
  refine leads_ask _ (SawDevice f device) saw (fun _ saw => saw.ledger) SawDevice.gentle ?_ ?_
  · intro h saw
    have gentle : Gentle h (.answered .listCarrier) (h.now.answer .listCarrier).2 :=
      gentle_answered _ (by simp [Request.method]) (by rintro k ⟨a, command, _⟩; cases command)
    refine ⟨saw.ledger.gentle gentle, saw.ledger.gentle gentle, ?_⟩
    intro s listed
    obtain ⟨rfl, _⟩ := h.now.carrier.list_ok listed
    exact saw.sawCarrier.gentle gentle
  · intro h e saw
    exact ⟨saw.ledger, fun s listed => by cases listed⟩

theorem leads_listMirror (saw : SawCarrier f device carrier h) :
    Leads f (fun x h => Ledger f h ∧ ∀ s, x = .ok s → SawMirror f device carrier (s.retain f) h)
      (ask .listMirror) h := by
  refine leads_ask _ (SawCarrier f device carrier) saw (fun _ saw => saw.ledger) SawCarrier.gentle ?_ ?_
  · intro h saw
    have gentle : Gentle h (.answered .listMirror) (h.now.answer .listMirror).2 :=
      gentle_answered _ (by simp [Request.method]) (by rintro k ⟨a, command, _⟩; cases command)
    refine ⟨saw.ledger.gentle gentle, saw.ledger.gentle gentle, ?_⟩
    intro s listed
    cases Except.ok.inj listed
    exact saw.sawMirror.gentle gentle
  · intro h e saw
    exact ⟨saw.ledger, fun s listed => by cases listed⟩

/-- After a transaction that went through what the carrier listed may be recorded. -/
theorem SawMirror.transacted (saw : SawMirror .voicemail device carrier mirror h)
    (voicemail : p.family = .voicemail) (as : List Action) (now : Memory)
    (done : h.now.device.items.performAll (p.plan (classify device carrier mirror)).device.toList =
      .ok now.device.items)
    (sameCarrier : now.carrier = h.now.carrier) (sameMirror : now.mirror = h.now.mirror) :
    Transacted .voicemail device carrier mirror true (h.note (.answered (.applyDevice as)) now) := by
  have gone : ∀ k, h.Gone k → (h.note (.answered (.applyDevice as)) now).Gone k := by
    intro k gone
    refine ⟨knows_note gone.1, ?_⟩
    show ¬now.carrier.recordings.contains k = true
    rw [sameCarrier]
    exact gone.2
  have native : ∀ k, h.Native .voicemail k →
      (h.note (.answered (.applyDevice as)) now).Native .voicemail k := by
    intro k native
    refine ⟨knows_note native.1, ?_⟩
    show ∀ r, now.carrier.recordings.get? k = some r → _
    rw [sameCarrier]
    exact native.2
  have inMirror : ∀ k, (h.note (.answered (.applyDevice as)) now).InMirror k ↔ h.InMirror k := by
    intro k
    show now.mirror.snapshot.contains k = true ↔ _
    rw [sameMirror]
  have missed : ∀ k, mirror.contains k = true → device.contains k = false →
      (h.note (.answered (.applyDevice as)) now).TakenOff k ∨
        (h.note (.answered (.applyDevice as)) now).Gone k :=
    fun k known lacks => (saw.missed k known lacks).imp TakenOff.note (gone k)
  have safely : ∀ k, (h.note (.answered (.applyDevice as)) now).SafelyTakenOff k → h.SafelyTakenOff k := by
    rintro k ⟨x, mem, ⟨remove, held⟩, remembers⟩
    rcases List.mem_cons.mp mem with rfl | old
    · cases remove
    · exact ⟨x, old, ⟨remove, held⟩, remembers⟩
  refine ⟨⟨?_, ?_, ?_, ?_, ?_, ?_⟩, missed, fun _ => ⟨saw.family, ?_, ?_⟩⟩
  · exact fun k => Policy.listed_of_performAll_plan voicemail saw.family done (saw.ledger.listed k)
  · intro k i found
    have before : now.mirror.snapshot.get? k = some i := found
    rw [sameMirror] at before
    exact saw.ledger.recorded k i before
  · intro k held
    rw [inMirror] at held
    rcases held with held | known
    · rcases Policy.arrived_of_performAll_plan voicemail saw.family done held with
        before | ⟨_, _, has⟩
      · exact native k (saw.ledger.native k (Or.inl before))
      · exact native k (saw.native k has)
    · exact native k (saw.ledger.native k (Or.inr known))
  · intro k known
    rw [inMirror] at known
    rcases saw.ledger.remembered k known with held | taken | away
    · rcases Policy.remained_of_performAll_plan voicemail saw.family done held with
        still | ⟨_, lacks⟩
      · exact Or.inl still
      · exact Or.inr (Or.inr (gone k (saw.gone k lacks (Or.inr known))))
    · exact Or.inr (Or.inl taken.note)
    · exact Or.inr (Or.inr (gone k away))
  · intro k taken
    obtain ⟨off, away⟩ := saw.ledger.stayOff k (safely k taken)
    refine ⟨?_, away.imp (gone k) (inMirror k).mpr⟩
    intro held
    rcases Policy.arrived_of_performAll_plan voicemail saw.family done held with
      before | ⟨lacks, unknown, has⟩
    · exact off before
    · have known := (saw.same k).mpr (saw.stayOff k has lacks (safely k taken))
      exact absurd (unknown.symm.trans known) (by decide)
  · refine saw.ledger.accounted.note ?_
    rintro k ⟨a, command, _⟩
    cases command
  · intro k has
    refine ⟨native k (saw.native k has), ?_⟩
    cases listed : device.contains k with
    | true =>
      rcases (saw.present k listed).1 with held | taken
      · rcases Policy.remained_of_performAll_plan voicemail saw.family done held with
          still | ⟨_, lacks⟩
        · exact Or.inl still
        · exact absurd (lacks.symm.trans has) (by decide)
      · exact Or.inr (Or.inl taken.note)
    | false =>
      cases known : mirror.contains k with
      | true => exact Or.inr (missed k known listed)
      | false =>
        exact Or.inl (Policy.brought_of_performAll_plan voicemail saw.family done listed known has)
  · intro k lacks known
    exact gone k (saw.gone k lacks (Or.inr ((inMirror k).mp known)))

/-- The same holds if there was nothing to do. -/
theorem SawMirror.skipped (saw : SawMirror .voicemail device carrier mirror h)
    (voicemail : p.family = .voicemail)
    (nothing : (p.plan (classify device carrier mirror)).device.toList = []) :
    Transacted .voicemail device carrier mirror true h := by
  have done : h.now.device.items.performAll (p.plan (classify device carrier mirror)).device.toList =
      .ok h.now.device.items := by
    rw [nothing]
    rfl
  refine ⟨saw.ledger, saw.missed, fun _ => ⟨saw.family, ?_, ?_⟩⟩
  · intro k has
    refine ⟨saw.native k has, ?_⟩
    cases listed : device.contains k with
    | true => exact (saw.present k listed).1.imp_right Or.inl
    | false =>
      cases known : mirror.contains k with
      | true => exact Or.inr (saw.missed k known listed)
      | false =>
        exact Or.inl (Policy.brought_of_performAll_plan voicemail saw.family done listed known has)
  · intro k lacks known
    exact saw.gone k lacks (Or.inr known)

theorem leads_commit (voicemail : p.family = .voicemail)
    (saw : SawMirror .voicemail device carrier mirror h) :
    Leads .voicemail (fun o => Transacted .voicemail device carrier mirror o.isSettled)
      (p.plan (classify device carrier mirror)).device.commit h := by
  unfold ActionList.commit
  split
  · next nothing =>
    have done := saw.skipped voicemail (List.isEmpty_iff.mp nothing)
    exact ⟨done.ledger, done⟩
  · have refusedAll : ∀ h, SawMirror .voicemail device carrier mirror h →
        Transacted .voicemail device carrier mirror false h :=
      fun h saw => ⟨saw.ledger, saw.missed, fun settled => by cases settled⟩
    split
    · exact ⟨saw.ledger, refusedAll h saw⟩
    · refine .bind (leads_ask (Q := fun x => Transacted .voicemail device carrier mirror x.isOk)
        (.applyDevice _) (SawMirror .voicemail device carrier mirror) saw (fun _ saw => saw.ledger)
        SawMirror.gentle ?_ fun h _ saw => refusedAll h saw) ?_
      · intro h saw
        cases answer : (h.now.answer (.applyDevice _)).1 with
        | error e =>
          have gentle := gentle_answered (h := h) (.applyDevice _) (fun _ => ⟨e, answer⟩)
            (by rintro k ⟨a, command, _⟩; cases command)
          have after := refusedAll _ (saw.gentle gentle)
          exact ⟨after.ledger, after⟩
        | ok _ =>
          obtain ⟨items, done, result⟩ := h.now.device.apply_ok answer
          have after := saw.transacted voicemail (p.plan (classify device carrier mirror)).device.toList
            (h.now.answer (.applyDevice _)).2
            (by rw [done]; exact congrArg (fun d => Except.ok d.items) result.symm) rfl rfl
          exact ⟨after.ledger, after⟩
      · intro x h done
        cases x with
        | ok _ => exact ⟨done.ledger, done⟩
        | error e => exact ⟨done.ledger, done⟩

/-- A command deletes nothing that the user did not take off. -/
theorem leads_applyCarrier (done : Attempted f device carrier mirror settled sent h) {a : Action}
    (asked : a.kind = .delete → mirror.contains a.id = true ∧ device.contains a.id = false) :
    Leads f (fun x h => Attempted f device carrier mirror settled sent h ∧
      (x = .ok () → a.kind = .delete → h.Gone a.id)) (ask (.applyCarrier a)) h := by
  refine leads_ask (.applyCarrier a) (Attempted f device carrier mirror settled sent) done
    (fun _ done => done.ledger) Attempted.gentle ?_ fun _ _ done => ⟨done, fun ok => by cases ok⟩
  intro h done
  have missed : a.kind = .delete → h.TakenOff a.id ∨ h.Gone a.id :=
    fun delete => done.missed a.id (asked delete).1 (asked delete).2
  have taken : ∀ k, Moment.erases ⟨h.now, .answered (.applyCarrier a)⟩ k → h.TakenOff k := by
    rintro k ⟨b, command, delete, rfl, held⟩
    cases command
    rcases missed delete with taken | gone
    · exact taken
    · exact absurd held gone.2
  have after := done.gentle (gentle_answered (.applyCarrier a) (by simp [Request.method]) taken)
  refine ⟨after.ledger, after, ?_⟩
  intro ok delete
  rcases h.now.carrier.apply_ok ok with ⟨_, erased⟩ | ⟨mark, _⟩
  · refine ⟨knows_note ((missed delete).elim TakenOff.knows And.left), ?_⟩
    show ¬(h.now.carrier.apply a).2.recordings.contains a.id = true
    rw [erased, Shelf.contains_eq_isSome, Carrier.get?_remove, if_pos rfl]
    decide
  · rw [mark] at delete
    cases delete

theorem leads_fetchContent (done : Attempted f device carrier mirror settled sent h) (i : Item) :
    Leads f (fun _ => Attempted f device carrier mirror settled sent) (ask (.fetchContent i)) h := by
  refine leads_ask (.fetchContent i) (Attempted f device carrier mirror settled sent) done
    (fun _ done => done.ledger) Attempted.gentle ?_ fun _ _ done => done
  intro h done
  have after := done.gentle (gentle_answered (.fetchContent i) (by simp [Request.method])
    (by rintro k ⟨a, command, _⟩; cases command))
  exact ⟨after.ledger, after⟩

theorem leads_storeContent (done : Attempted f device carrier mirror settled sent h) (i : Item)
    (payload : Payload) :
    Leads f (fun _ => Attempted f device carrier mirror settled sent)
      (ask (.storeContent i payload)) h := by
  refine leads_ask (.storeContent i payload) (Attempted f device carrier mirror settled sent) done
    (fun _ done => done.ledger) Attempted.gentle ?_ fun _ _ done => done
  intro h done
  have after := done.gentle (gentle_answered (.storeContent i payload) (by simp [Request.method])
    (by rintro k ⟨a, command, _⟩; cases command))
  exact ⟨after.ledger, after⟩

theorem leads_execute (done : Attempted f device carrier mirror settled sent h) {a : Action}
    (asked : a.kind = .delete → mirror.contains a.id = true ∧ device.contains a.id = false) :
    Leads f (fun x h => Attempted f device carrier mirror settled sent h ∧
      (x = .ok () → a.kind = .delete → h.Gone a.id)) a.execute h := by
  unfold Action.execute
  split
  · exact ⟨done.ledger, done, fun ok => by cases ok⟩
  · split
    · next kind =>
      refine .bind (leads_fetchContent done a.item) ?_
      intro x h done
      cases x with
      | error e => exact ⟨done.ledger, done, fun ok => by cases ok⟩
      | ok payload =>
        refine (leads_storeContent done a.item payload).mono ?_
        intro x h done
        exact ⟨done, fun _ delete => by rw [kind] at delete; cases delete⟩
    · exact leads_applyCarrier done asked
    · exact leads_applyCarrier done asked
    · exact leads_applyCarrier done asked

theorem leads_attempt (done : Attempted f device carrier mirror settled sent h) {a : Action}
    (asked : a.kind = .delete → mirror.contains a.id = true ∧ device.contains a.id = false) :
    Leads f (fun sent => Attempted f device carrier mirror settled sent) (sent.attempt a) h := by
  refine .bind (leads_execute done asked) ?_
  rintro x h ⟨done, gone⟩
  refine ⟨done.ledger, done.toTransacted, ?_⟩
  cases x with
  | ok _ =>
    intro b mem
    rcases List.mem_append.mp mem with old | new
    · exact done.gone b old
    · obtain rfl := List.mem_singleton.mp new
      exact gone rfl
  | error e => exact done.gone

/-- The commands are tried one after the other, whatever becomes of those before. -/
theorem leads_attempts {as : List Action}
    (asked : ∀ a ∈ as, a.kind = .delete → mirror.contains a.id = true ∧ device.contains a.id = false)
    (done : Attempted f device carrier mirror settled sent h) :
    Leads f (fun sent => Attempted f device carrier mirror settled sent) (as.foldlM CarrierOutcome.attempt sent) h := by
  induction as generalizing sent h with
  | nil => exact ⟨done.ledger, done⟩
  | cons a rest ih =>
    refine .bind (leads_attempt done (asked a List.mem_cons_self)) ?_
    intro sent h done
    exact ih (fun b mem => asked b (List.mem_cons_of_mem _ mem)) done

theorem leads_send {l : ActionList}
    (asked : ∀ a ∈ l.toList, a.kind = .delete →
      mirror.contains a.id = true ∧ device.contains a.id = false)
    (done : Transacted f device carrier mirror settled h) :
    Leads f (fun sent => Attempted f device carrier mirror settled sent) l.send h :=
  leads_attempts asked ⟨done, fun a mem => by cases mem⟩

/-- Deletions that were carried out are left out of what is going to be recorded. -/
theorem Recordable.observeAll {completed : List Action} (recordable : Recordable f listing h)
    (gone : ∀ a ∈ completed, a.kind = .delete → h.Gone a.id) :
    Recordable f (listing.observeAll completed) h := by
  induction completed generalizing listing with
  | nil => exact recordable
  | cons a rest ih =>
    refine ih ?_ fun b mem => gone b (List.mem_cons_of_mem _ mem)
    have goneFirst := gone a List.mem_cons_self
    unfold Snapshot.observe
    split
    · next kind =>
      refine ⟨?_, ?_, ?_⟩
      · intro k i found
        rw [Snapshot.get?_markRead] at found
        split at found
        · obtain ⟨i', before, rfl⟩ := Option.map_eq_some_iff.mp found
          exact recordable.family k i' before
        · exact recordable.family k i found
      · intro k has
        refine recordable.native k ?_
        rw [Snapshot.contains_eq_isSome, Snapshot.get?_markRead] at has
        rw [Snapshot.contains_eq_isSome]
        split at has
        · rwa [Option.isSome_map] at has
        · exact has
      · intro k lacks known
        refine recordable.gone k ?_ known
        rw [Snapshot.contains_eq_isSome, Snapshot.get?_markRead] at lacks
        rw [Snapshot.contains_eq_isSome]
        split at lacks
        · rwa [Option.isSome_map] at lacks
        · exact lacks
    · next kind =>
      refine ⟨?_, ?_, ?_⟩
      · intro k i found
        rw [Snapshot.get?_remove] at found
        split at found
        · cases found
        · exact recordable.family k i found
      · intro k has
        refine recordable.native k ?_
        rw [Snapshot.contains_eq_isSome, Snapshot.get?_remove] at has
        split at has
        · cases has
        · rwa [Snapshot.contains_eq_isSome]
      · intro k lacks known
        by_cases own : k = a.id
        · rw [own]
          exact goneFirst kind
        · refine recordable.gone k ?_ known
          rw [Snapshot.contains_eq_isSome, Snapshot.get?_remove, if_neg own] at lacks
          rwa [Snapshot.contains_eq_isSome]
    · exact recordable
    · exact recordable

theorem Recordable.ledger (recordable : Recordable f listing h) (what : Occurrence) (now : Memory)
    (ledger : Ledger f h) (calm : ∀ k, what ≠ .event (.device (.remove k)))
    (harmless : ∀ k, ¬Moment.erases ⟨h.now, what⟩ k) (sameDevice : now.device = h.now.device)
    (sameCarrier : now.carrier = h.now.carrier) (renewed : now.mirror.snapshot = listing) :
    Ledger f (h.note what now) := by
  have onDevice : ∀ k, (h.note what now).OnDevice k ↔ h.OnDevice k := by
    intro k
    show now.device.items.contains k = true ↔ _
    rw [sameDevice]
  have inMirror : ∀ k, (h.note what now).InMirror k ↔ listing.contains k = true := by
    intro k
    show now.mirror.snapshot.contains k = true ↔ _
    rw [renewed]
  have gone : ∀ k, h.Gone k → (h.note what now).Gone k := by
    intro k gone
    refine ⟨knows_note gone.1, ?_⟩
    show ¬now.carrier.recordings.contains k = true
    rw [sameCarrier]
    exact gone.2
  have native : ∀ k, h.Native f k → (h.note what now).Native f k := by
    intro k native
    refine ⟨knows_note native.1, ?_⟩
    show ∀ r, now.carrier.recordings.get? k = some r → _
    rw [sameCarrier]
    exact native.2
  refine ⟨?_, ?_, ?_, ?_, ?_, ledger.accounted.note fun k erases => absurd erases (harmless k)⟩
  · show ∀ k i, now.device.items.get? k = some i → _
    rw [sameDevice]
    exact ledger.listed
  · show ∀ k i, now.mirror.snapshot.get? k = some i → _
    rw [renewed]
    exact recordable.family
  · intro k held
    rw [onDevice, inMirror] at held
    rcases held with held | has
    · exact native k (ledger.native k (Or.inl held))
    · exact native k (recordable.native k has).1
  · intro k known
    rw [inMirror] at known
    rcases (recordable.native k known).2 with held | taken | away
    · exact Or.inl ((onDevice k).mpr held)
    · exact Or.inr (Or.inl taken.note)
    · exact Or.inr (Or.inr (gone k away))
  · rintro k ⟨x, mem, ⟨remove, held⟩, remembers⟩
    rcases List.mem_cons.mp mem with rfl | old
    · exact absurd remove (calm k)
    · obtain ⟨off, away⟩ := ledger.stayOff k ⟨x, old, ⟨remove, held⟩, remembers⟩
      refine ⟨fun held => off ((onDevice k).mp held), ?_⟩
      rw [inMirror]
      cases has : listing.contains k with
      | true => exact Or.inr rfl
      | false =>
        rcases away with away | known
        · exact Or.inl (gone k away)
        · exact Or.inl (gone k (recordable.gone k has known))

/-- Renewed or not, the mirror says nothing of the device that is not so. -/
theorem leads_replaceMirror {s : Snapshot} (ledger : Ledger p.family h)
    (recordable : Recordable p.family s h) :
    Leads p.family (fun _ h => Ledger p.family h) (ask (.replaceMirror s)) h := by
  refine leads_ask (Q := fun _ => Ledger p.family) (.replaceMirror s)
    (fun h => Ledger p.family h ∧ Recordable p.family s h) ⟨ledger, recordable⟩ (fun _ ready => ready.1)
    (fun ready gentle => ⟨ready.1.gentle gentle, ready.2.gentle gentle⟩) ?_ fun _ _ ready => ready.1
  rintro h ⟨ledger, recordable⟩
  have harmless : ∀ k, ¬Moment.erases ⟨h.now, .answered (.replaceMirror s)⟩ k := by
    rintro k ⟨a, command, _⟩
    cases command
  cases answer : (h.now.answer (.replaceMirror s)).1 with
  | error e =>
    have after := ledger.gentle (gentle_answered (h := h) (.replaceMirror _) (fun _ => ⟨e, answer⟩)
      fun k erases => absurd erases (harmless k))
    exact ⟨after, after⟩
  | ok _ =>
    have after := recordable.ledger (.answered (.replaceMirror _))
      (h.now.answer (.replaceMirror _)).2 ledger (fun k same => by cases same) harmless rfl rfl
      (h.now.mirror.replaceWith_ok _ answer)
    exact ⟨after, after⟩

theorem leads_conclude {plan : Plan} {applied : Applied}
    (done : Attempted p.family device (carrier.retain p.family) mirror applied.device.isSettled
      applied.carrier h) :
    Leads p.family (fun _ _ => True) (p.conclude carrier plan applied) h := by
  have renewal := leads_replaceMirror (p := p)
    (s := (carrier.retain p.family).observeAll applied.carrier.completed) (h := h)
  unfold Policy.conclude
  cases outcome : applied.device with
  | rolledBack e => exact ⟨done.ledger, trivial⟩
  | skipped | committed n =>
    rw [outcome] at done
    refine .bind (renewal done.ledger ((done.recordable rfl).observeAll done.gone)) ?_
    intro x h ledger
    cases x with
    | ok _ => exact ⟨ledger, trivial⟩
    | error e => exact ⟨ledger, trivial⟩

/-- A cycle keeps the ledger in order, whatever happens between its calls and whichever of them
fail. -/
theorem leads_cycle (voicemail : p.family = .voicemail) (ledger : Ledger .voicemail h) :
    Leads .voicemail (fun _ _ => True) p.cycle h := by
  unfold Policy.cycle
  refine .bind (leads_listDevice ledger) ?_
  rintro x h ⟨ledger, sawDevice⟩
  cases x with
  | error e => exact ⟨ledger, trivial⟩
  | ok device =>
    refine .bind (leads_listCarrier (sawDevice device rfl)) ?_
    rintro x h ⟨ledger, sawCarrier⟩
    cases x with
    | error e => exact ⟨ledger, trivial⟩
    | ok carrier =>
      refine .bind (leads_listMirror (sawCarrier carrier rfl)) ?_
      rintro x h ⟨ledger, sawMirror⟩
      cases x with
      | error e => exact ⟨ledger, trivial⟩
      | ok mirror =>
        have saw := sawMirror mirror rfl
        simp only [Policy.planFor_eq, voicemail]
        refine .bind (Q := fun applied => Attempted .voicemail (device.retain .voicemail)
          (carrier.retain .voicemail) (mirror.retain .voicemail) applied.device.isSettled
          applied.carrier) ?_ ?_
        · refine .bind (leads_commit voicemail saw) ?_
          intro o h done
          refine .bind (leads_send (fun a mem => Policy.missed_of_delete voicemail mem) done) ?_
          intro sent h done
          exact ⟨done.ledger, done⟩
        · intro applied h done
          rw [← voicemail] at done ⊢
          exact leads_conclude done

end History

end MailboxSync
