import MailboxSync.Proofs.Convergence
import MailboxSync.Proofs.Interruption
import MailboxSync.Proofs.Lockstep

namespace MailboxSync

section

variable {d d' c m : Snapshot}
  (orphans : ∀ k, d.get? k = d'.get? k ∨ d.get? k = none ∧ c.get? k = none ∧ m.get? k = none)

include orphans

/-- A device listing without the orphans of another is a part of it. -/
theorem Snapshot.toList_of_orphans : d.toList = d'.toList.filter fun i => d.contains i.id := by
  have part : d = d'.filter fun i => d.contains i.id := by
    refine Snapshot.ext_get? fun k => ?_
    rw [Snapshot.get?_filter]
    cases held : d'.get? k with
    | none =>
      rcases orphans k with same | ⟨absent, -⟩
      · rw [same, held]
        rfl
      · rw [absent]
        rfl
    | some i =>
      obtain rfl := Snapshot.id_of_get? held
      rcases orphans i.id with same | ⟨absent, -⟩
      · rw [Option.filter_some, d.contains_eq_isSome, same, held]
        rfl
      · rw [Option.filter_some, d.contains_eq_isSome, absent]
        rfl
  exact congrArg Snapshot.toList part

theorem Snapshot.contains_of_orphans {k : String} (known : (c.get? k).isSome = true ∨ (m.get? k).isSome = true) :
    d.contains k = d'.contains k := by
  rw [d.contains_eq_isSome, d'.contains_eq_isSome]
  rcases orphans k with same | ⟨-, silent, forgotten⟩
  · rw [same]
  · rw [silent, forgotten] at known
    rcases known with known | known <;> cases known

/-- Pairs that are made of device items and of what another store has of the same name leave orphans out. -/
theorem Snapshot.filterMap_of_orphans {α : Type} {g : Item → Option α}
    (unknown : ∀ i, c.get? i.id = none → m.get? i.id = none → g i = none) :
    d.toList.filterMap g = d'.toList.filterMap g := by
  rw [Snapshot.toList_of_orphans orphans, List.filterMap_filter]
  refine List.filterMap_congr fun i mem => ?_
  have held : d'.get? i.id = some i := Snapshot.get?_eq_some_iff.mpr ⟨mem, rfl⟩
  rcases orphans i.id with same | ⟨absent, silent, forgotten⟩
  · rw [d.contains_eq_isSome, same, held]
    rfl
  · rw [d.contains_eq_isSome, absent, unknown i silent forgotten]
    rfl

/-- Orphans show up in one category only. -/
theorem classify_of_orphans : classify d c m =
    { classify d' c m with deviceOnly := (classify d c m).deviceOnly } := by
  have carrierOnly : (c.toList.filter fun i => !d.contains i.id) = c.toList.filter fun i => !d'.contains i.id := by
    refine List.filter_congr fun i mem => ?_
    rw [Snapshot.contains_of_orphans orphans (Or.inl _)]
    rw [Snapshot.get?_eq_some_iff.mpr ⟨mem, rfl⟩]
    rfl
  have mirrorOnly : (m.toList.filter fun i => !c.contains i.id && !d.contains i.id) =
      m.toList.filter fun i => !c.contains i.id && !d'.contains i.id := by
    refine List.filter_congr fun i mem => ?_
    rw [Snapshot.contains_of_orphans orphans (Or.inr _)]
    rw [Snapshot.get?_eq_some_iff.mpr ⟨mem, rfl⟩]
    rfl
  have both : d.toList.filterMap (fun i => (c.get? i.id).map fun x => Shared.mk i x) =
      d'.toList.filterMap fun i => (c.get? i.id).map fun x => ⟨i, x⟩ :=
    Snapshot.filterMap_of_orphans orphans fun i silent _ => by rw [silent]; rfl
  have remembered : d.toList.filterMap (fun i => (m.get? i.id).map fun x => Remembered.mk i x) =
      d'.toList.filterMap fun i => (m.get? i.id).map fun x => ⟨i, x⟩ :=
    Snapshot.filterMap_of_orphans orphans fun i _ forgotten => by rw [forgotten]; rfl
  simp only [classify, carrierOnly, mirrorOnly, both, remembered]

end

namespace Policy

/-- On account of what only the device has, nothing is asked of the carrier. -/
theorem filter_onDeviceOnly (p : Policy) (items : List Item) :
    ((items.flatMap p.onDeviceOnly).filter fun a => a.target = .carrier) = [] := by
  rw [List.filter_eq_nil_iff]
  intro a mem
  obtain ⟨i, -, on⟩ := List.mem_flatMap.mp mem
  have near : a.target = .device := by
    cases p <;> simp [onDeviceOnly] at on <;> grind
  rw [near]
  decide

/-- What a message policy asks of the carrier depends neither on what only the device has nor on which of the
message policies it is. -/
theorem carrier_plan_of_deviceOnly (c : Classification) (items : List Item) :
    (fullSync.plan { c with deviceOnly := items }).carrier = (noLocalDeletion.plan c).carrier := by
  rw [plan, plan, Plan.carrier_ofList, Plan.carrier_ofList]
  simp only [actions, List.filter_append, filter_onDeviceOnly]
  rfl

end Policy

namespace Slot

variable {s t : Slot} {i : Item}

/-- What the two systems have under a name: they differ at most in an orphan, a message on the device of the
second that no other store knows. -/
structure Beside (s t : Slot) : Prop where
  recording : s.recording = t.recording
  mirror : s.mirror = t.mirror
  item : s.item = t.item ∨ s.item = none ∧ t.recording = none ∧ t.mirror = none
  message : ∀ i, t.item = some i → i.listed .voicemail = true

namespace Beside

variable (beside : s.Beside t)

include beside

theorem holds (held : s.Holds i) : t.Holds i := by
  rcases held with item | recording | mirror
  · rcases beside.item with same | ⟨absent, -⟩
    · exact Or.inl (same ▸ item)
    · cases absent.symm.trans item
  · exact Or.inr (Or.inl (beside.recording ▸ recording))
  · exact Or.inr (Or.inr (beside.mirror ▸ mirror))

theorem item_of_recorded (recorded : t.recording.isSome = true) : s.item = t.item := by
  rcases beside.item with same | ⟨-, absent, -⟩
  · exact same
  · rw [absent] at recorded
    cases recorded

/-- About what the carrier has both policies ask the same of the device. -/
theorem device_plan (apart : t.Apart .voicemail) (recorded : t.recording.isSome = true) :
    (s.plan .fullSync).device.toList = (t.plan .noLocalDeletion).device.toList := by
  have item := beside.item_of_recorded recorded
  obtain ⟨same, otherMirror, -, -⟩ := beside
  obtain ⟨d, x, c, m⟩ := s
  obtain ⟨d', y, c', m'⟩ := t
  cases item
  cases same
  cases otherMirror
  show ((Slot.mk d y c m).plan .fullSync).device.toList = _
  rcases apart with listed | unlisted
  · obtain ⟨r, rfl⟩ := Option.isSome_iff_exists.mp recorded
    rw [plan_of_listed rfl listed, plan_of_listed rfl listed, Policy.device_planAt_of_voicemail _ _ _ rfl,
      Policy.device_planAt_of_voicemail _ _ _ rfl]
    cases d <;> rfl
  · rw [plan, plan, heard, heard]
    show (Policy.planAt _ ((Slot.mk d y c m).seen .voicemail).item _ _).device.toList =
      (Policy.planAt _ ((Slot.mk d y c m).seen .voicemail).item _ _).device.toList
    simp only [Policy.family, Policy.kind, PolicyKind.family, seen_of_unlisted unlisted]
    rfl

/-- A cycle of each leaves them like that, and of the device items of the second the first has those that the
carrier has. -/
theorem landed (apart : t.Apart .voicemail) (descends : t.Descends (t.landed .noLocalDeletion)) :
    (s.landed .fullSync).Beside (t.landed .noLocalDeletion) ∧
      (s.landed .fullSync).item =
        if (t.landed .noLocalDeletion).recording.isSome then (t.landed .noLocalDeletion).item else none := by
  have within : ∀ i, s.Holds i → t.Holds i := fun _ => beside.holds
  obtain ⟨same, otherMirror, item, message⟩ := beside
  rcases apart with listed | unlisted
  · have later := listed_of_descends listed descends
    have message : ∀ i, (t.landed .noLocalDeletion).item = some i → i.listed .voicemail = true :=
      fun i held => later i (Or.inl held)
    rw [landed_of_listed listed] at message ⊢
    rw [landed_of_listed fun i held => listed i (within i held)]
    clear descends later within listed
    obtain ⟨d, x, c, m⟩ := s
    obtain ⟨d', y, c', m'⟩ := t
    cases same
    cases otherMirror
    cases c with
    | none =>
      cases d' with
      | none =>
        rcases item with item | ⟨item, -⟩ <;> cases item <;> exact ⟨⟨rfl, rfl, Or.inl rfl, message⟩, rfl⟩
      | some i =>
        cases d <;> exact ⟨⟨rfl, rfl, Or.inr ⟨rfl, rfl, rfl⟩, message⟩, rfl⟩
    | some r =>
      rcases item with item | ⟨-, absent, -⟩
      · cases item
        cases d <;> cases m <;> exact ⟨⟨rfl, rfl, Or.inl rfl, message⟩, rfl⟩
      · cases absent
  · rw [(landed_of_unlisted unlisted).1, (landed_of_unlisted fun i held => unlisted i (within i held)).1]
    have nothing : t.item = none := by
      rw [Option.eq_none_iff_forall_ne_some]
      intro i held
      have listed := message i held
      rw [unlisted i (Or.inl held)] at listed
      cases listed
    have absent : s.item = none := by
      rcases item with item | ⟨item, -⟩
      · rw [item, nothing]
      · exact item
    refine ⟨⟨same, rfl, Or.inl (absent.trans nothing.symm), message⟩, ?_⟩
    show s.item = if t.recording.isSome then t.item else none
    rw [absent, nothing, ite_self]

end Beside

end Slot

namespace CarrierEvent

def id : CarrierEvent → String
  | .arrive i _ => i.id
  | .read id | .remove id => id

/-- What becomes of the recording the event is about. -/
def alter : CarrierEvent → Option Recording → Option Recording
  | .arrive i p, _ => some ⟨{ i.bare with hasContent := !p.isEmpty }, p⟩
  | .read _, x => x.map Recording.markRead
  | .remove _, _ => none

theorem get?_happen (e : CarrierEvent) (c : Carrier) (k : String) : (c.happen e).recordings.get? k =
    if k = e.id then e.alter (c.recordings.get? k) else c.recordings.get? k := by
  cases e with
  | arrive i p =>
    simp only [@eq_comm _ k]
    exact c.get?_put i p k
  | read id => exact c.get?_markRead id k
  | remove id => exact c.get?_remove id k

end CarrierEvent

namespace Event

/-- The name of what comes in at the carrier. -/
def arrival? : Event → Option String
  | .carrier (.arrive i _) => some i.id
  | .carrier (.read _) | .carrier (.remove _) | .device _ => none

/-- What becomes of the device item of a name. -/
def onItem (e : Event) (k : String) (x : Option Item) : Option Item :=
  match e with
  | .device e => if k = e.id then e.alter x else x
  | .carrier _ => x

/-- What becomes of the recording of a name. -/
def onRecording (e : Event) (k : String) (x : Option Recording) : Option Recording :=
  match e with
  | .device _ => x
  | .carrier e => if k = e.id then e.alter x else x

variable {e : Event} {k : String}

theorem alike_onItem {x : Option Item} {j : Item} (left : e.onItem k x = some j) : ∃ i, x = some i ∧ i.Alike j := by
  match e with
  | .device (.read id) =>
    change (if k = id then x.map Item.markRead else x) = some j at left
    split at left
    · obtain ⟨i, before, rfl⟩ := Option.map_eq_some_iff.mp left
      exact ⟨i, before, i.alike_markRead⟩
    · exact ⟨j, left, .refl j⟩
  | .device (.remove id) =>
    change (if k = id then none else x) = some j at left
    split at left
    · cases left
    · exact ⟨j, left, .refl j⟩
  | .carrier _ => exact ⟨j, left, .refl j⟩

theorem onItem_none : e.onItem k none = none := by
  rw [Option.eq_none_iff_forall_ne_some]
  intro j left
  obtain ⟨i, before, -⟩ := alike_onItem left
  cases before

theorem alike_onRecording (old : e.arrival? ≠ some k) {x : Option Recording} {r : Recording}
    (left : e.onRecording k x = some r) : ∃ r', x = some r' ∧ r'.item.Alike r.item := by
  match e with
  | .device _ => exact ⟨r, left, .refl _⟩
  | .carrier e =>
    change (if k = e.id then e.alter x else x) = some r at left
    split at left
    · next own =>
      cases e with
      | arrive i p => exact absurd (congrArg some own.symm) old
      | read id =>
        obtain ⟨r', before, rfl⟩ := Option.map_eq_some_iff.mp left
        exact ⟨r', before, r'.item.alike_markRead⟩
      | remove id => cases left
    · exact ⟨r, left, .refl _⟩

theorem onRecording_none (old : e.arrival? ≠ some k) : e.onRecording k none = none := by
  rw [Option.eq_none_iff_forall_ne_some]
  intro r left
  obtain ⟨r', before, -⟩ := alike_onRecording old left
  cases before

end Event

namespace Memory

variable {f n m : Memory} {e : Event} {k : String}

theorem item_happen (m : Memory) (e : Event) (k : String) :
    ((m.happen e).slot k).item = e.onItem k (m.slot k).item := by
  match e with
  | .device e =>
    show (m.device.happen e).items.get? k = _
    rw [e.happen_eq]
    exact e.get?_touch m.device.items k
  | .carrier _ => rfl

theorem recording_happen (m : Memory) (e : Event) (k : String) :
    ((m.happen e).slot k).recording = e.onRecording k (m.slot k).recording := by
  match e with
  | .device _ => rfl
  | .carrier e => exact e.get?_happen m.carrier k

theorem mirror_happen (m : Memory) (e : Event) : (m.happen e).mirror = m.mirror := by
  cases e <;> rfl

theorem slot_mirror_happen (m : Memory) (e : Event) (k : String) :
    ((m.happen e).slot k).mirror = (m.slot k).mirror := by
  cases e <;> rfl

/-- An event brings nothing under a name but what comes in under it. -/
theorem descends_happen (old : e.arrival? ≠ some k) : (m.slot k).Descends ((m.happen e).slot k) := by
  intro j held
  rcases held with item | ⟨r, recording, rfl⟩ | mirror
  · rw [item_happen] at item
    obtain ⟨i, before, alike⟩ := Event.alike_onItem item
    exact ⟨i, Or.inl before, alike⟩
  · rw [recording_happen] at recording
    obtain ⟨r', before, alike⟩ := Event.alike_onRecording old recording
    exact ⟨r'.item, Or.inr (Or.inl ⟨r', before, rfl⟩), alike⟩
  · rw [slot_mirror_happen] at mirror
    exact ⟨j, Or.inr (Or.inr mirror), .refl j⟩

/-- No store has anything under the name of what comes in. -/
def Fresh (m : Memory) (e : Event) : Prop := ∀ k, e.arrival? = some k → ∀ i, ¬(m.slot k).Holds i

/-- What comes in under a fresh name is alone there. -/
theorem Fresh.alone (fresh : m.Fresh e) (arrives : e.arrival? = some k) :
    ((m.happen e).slot k).item = none ∧ ((m.happen e).slot k).mirror = none := by
  have absent := fresh k arrives
  rw [item_happen, slot_mirror_happen]
  constructor
  · have item : (m.slot k).item = none :=
      Option.eq_none_iff_forall_ne_some.mpr fun i held => absent i (Or.inl held)
    rw [item, Event.onItem_none]
  · exact Option.eq_none_iff_forall_ne_some.mpr fun i held => absent i (Or.inr (Or.inr held))

theorem FamiliesApart.happen (apart : m.FamiliesApart) (fresh : m.Fresh e) : (m.happen e).FamiliesApart := by
  intro k i j heldI heldJ
  by_cases arrives : e.arrival? = some k
  · obtain ⟨item, mirror⟩ := fresh.alone arrives
    rw [Slot.Holds, item, mirror] at heldI heldJ
    simp only [reduceCtorEq, or_false, false_or] at heldI heldJ
    obtain ⟨r, recording, rfl⟩ := heldI
    obtain ⟨r', recording', rfl⟩ := heldJ
    rw [recording] at recording'
    cases recording'
    rfl
  · obtain ⟨i', before, alike⟩ := descends_happen arrives i heldI
    obtain ⟨j', before', alike'⟩ := descends_happen arrives j heldJ
    rw [alike.2, alike'.2]
    exact apart k i' j' before before'

/-- Two systems that have seen the same, of which the second keeps orphans. -/
structure Beside (f n : Memory) : Prop where
  left : f.Unarmed
  right : n.Unarmed
  apart : n.FamiliesApart
  carrier : f.carrier = n.carrier
  mirror : f.mirror = n.mirror
  slots : ∀ k, (f.slot k).Beside (n.slot k)

namespace Beside

variable (beside : f.Beside n)

include beside

theorem apartLeft : f.FamiliesApart :=
  fun k i j heldI heldJ => beside.apart k i j ((beside.slots k).holds heldI) ((beside.slots k).holds heldJ)

/-- Whatever happens is met by both in the same way, if what comes in has a fresh name. -/
theorem happen (fresh : n.Fresh e) : (f.happen e).Beside (n.happen e) := by
  refine ⟨beside.left.happen e, beside.right.happen e, beside.apart.happen fresh, ?_, ?_, fun k => ?_⟩
  · match e with
    | .device _ => exact beside.carrier
    | .carrier e => exact congrArg (Carrier.happen · e) beside.carrier
  · rw [mirror_happen, mirror_happen, beside.mirror]
  obtain ⟨recording, mirror, item, message⟩ := beside.slots k
  refine ⟨?_, ?_, ?_, ?_⟩
  · rw [recording_happen, recording_happen, recording]
  · rw [slot_mirror_happen, slot_mirror_happen, mirror]
  · rw [item_happen, item_happen, recording_happen, slot_mirror_happen]
    rcases item with same | ⟨absent, silent, forgotten⟩
    · exact Or.inl (same ▸ rfl)
    -- The carrier could learn of an orphan only if something came in under its name.
    by_cases arrives : e.arrival? = some k
    · have alone := (fresh.alone arrives).1
      rw [item_happen] at alone
      rw [absent, Event.onItem_none, alone]
      exact Or.inl rfl
    · rw [absent, Event.onItem_none, silent, Event.onRecording_none arrives]
      exact Or.inr ⟨rfl, rfl, forgotten⟩
  · intro j held
    rw [item_happen] at held
    obtain ⟨i, before, alike⟩ := Event.alike_onItem held
    rw [Item.listed_of_alike alike]
    exact message i before

theorem level : Level f n :=
  ⟨beside.left, beside.right, beside.carrier, beside.mirror,
    fun k recorded => (beside.slots k).item_of_recorded recorded⟩

open Policy

/-- Both plan the same for the carrier. -/
theorem carrier_planOf : (fullSync.planOf f).carrier = (noLocalDeletion.planOf n).carrier := by
  have orphans : ∀ k, (f.device.snapshot.retain .voicemail).get? k = (n.device.snapshot.retain .voicemail).get? k ∨
      (f.device.snapshot.retain .voicemail).get? k = none ∧ (n.carrier.snapshot.retain .voicemail).get? k = none ∧
        (n.mirror.snapshot.retain .voicemail).get? k = none := by
    intro k
    rw [Device.get?_retain_snapshot, Device.get?_retain_snapshot, Carrier.get?_retain_snapshot,
      Mirror.get?_retain_snapshot, Slot.heard, Slot.seen, Slot.seen]
    rcases (beside.slots k).item with same | ⟨absent, silent, forgotten⟩
    · exact Or.inl (by rw [same])
    · exact Or.inr ⟨by rw [absent]; rfl, by rw [silent]; rfl, by rw [forgotten]; rfl⟩
  show (fullSync.plan (classify (f.device.snapshot.retain .voicemail) (f.carrier.snapshot.retain .voicemail)
    (f.mirror.snapshot.retain .voicemail))).carrier = _
  rw [beside.carrier, beside.mirror, classify_of_orphans orphans, carrier_plan_of_deviceOnly]
  rfl

/-- Apart from what they do to the devices, the cycles of both are the same. -/
theorem cycle : (fullSync.sync f).carrier = (noLocalDeletion.sync n).carrier ∧
    (fullSync.sync f).mirror = (noLocalDeletion.sync n).mirror ∧
    (fullSync.cycle.course Memory.answer f).filterMap outlook =
      (noLocalDeletion.cycle.course Memory.answer n).filterMap outlook := by
  refine beside.level.cycle rfl beside.apartLeft beside.apart beside.carrier_planOf ?_
  intro k recorded
  have plans := (beside.slots k).device_plan (beside.apart.apart .voicemail k) recorded
  have item : f.device.items.get? k = n.device.items.get? k := (beside.slots k).item_of_recorded recorded
  rw [alters_of_voicemail rfl, alters_of_voicemail rfl, plans, item]

theorem landed (k : String) :
    ((fullSync.sync f).slot k).Beside ((noLocalDeletion.sync n).slot k) ∧
      ((fullSync.sync f).slot k).item = if ((noLocalDeletion.sync n).slot k).recording.isSome then
        ((noLocalDeletion.sync n).slot k).item else none := by
  have descends := descends_of_turns ((sync_turns (p := noLocalDeletion) beside.right beside.apart).2 k)
  rw [slot_sync_of_voicemail rfl beside.right beside.apart] at descends ⊢
  rw [slot_sync_of_voicemail rfl beside.left beside.apartLeft]
  exact (beside.slots k).landed (beside.apart.apart .voicemail k) descends

theorem sync : (fullSync.sync f).Beside (noLocalDeletion.sync n) where
  left := unarmed_sync beside.left
  right := unarmed_sync beside.right
  apart := familiesApart_sync beside.right beside.apart
  carrier := beside.cycle.1
  mirror := beside.cycle.2.1
  slots k := (beside.landed k).1

/-- After a cycle the listing of the first is what the other's shows of the items that the carrier has. -/
theorem listing : (fullSync.sync f).device.snapshot = (noLocalDeletion.sync n).device.snapshot.filter fun i =>
    (noLocalDeletion.sync n).carrier.recordings.contains i.id := by
  refine Snapshot.ext_get? fun k => ?_
  have item : (fullSync.sync f).device.items.get? k =
      if ((noLocalDeletion.sync n).carrier.recordings.get? k).isSome then
        (noLocalDeletion.sync n).device.items.get? k else none := (beside.landed k).2
  rw [Snapshot.get?_filter, Device.get?_snapshot, Device.get?_snapshot, item]
  cases held : (noLocalDeletion.sync n).device.items.get? k with
  | none => rw [ite_self]; rfl
  | some i =>
    have own : i.id = k := Shelf.get?_key held
    cases keyed : i.isKeyed <;>
      cases recorded : ((noLocalDeletion.sync n).carrier.recordings.get? k).isSome <;>
      simp [Option.filter_some, keyed, recorded, own, Shelf.contains_eq_isSome]

end Beside

end Memory

/-- One thing after the other: something happens, or a cycle is run that nothing disturbs. -/
inductive Tick where
  | event (e : Event)
  | cycle

def Tick.arrival? : Tick → Option String
  | .event e => e.arrival?
  | .cycle => none

namespace Policy

open Memory

def tick (p : Policy) (m : Memory) : Tick → Memory
  | .event e => m.happen e
  | .cycle => p.sync m

/-- The stores of a system that started with nothing. -/
def live (p : Policy) (ts : List Tick) : Memory := ts.foldl p.tick {}

end Policy

namespace Memory.Beside

open Policy

variable {f n : Memory} {t : Tick} {ts : List Tick}

/-- What is held after a tick was held before under the same name, or has come in. -/
theorem known_tick (beside : f.Beside n) {k : String} {j : Item}
    (held : ((noLocalDeletion.tick n t).slot k).Holds j) : (∃ i, (n.slot k).Holds i) ∨ t.arrival? = some k := by
  match t with
  | .cycle =>
    obtain ⟨i, before, -⟩ :=
      descends_of_turns ((sync_turns (p := noLocalDeletion) beside.right beside.apart).2 k) j held
    exact Or.inl ⟨i, before⟩
  | .event e =>
    by_cases arrives : e.arrival? = some k
    · exact Or.inr arrives
    · obtain ⟨i, before, -⟩ := descends_happen arrives j held
      exact Or.inl ⟨i, before⟩

theorem tick (beside : f.Beside n) (fresh : ∀ e, t = .event e → n.Fresh e) :
    (fullSync.tick f t).Beside (noLocalDeletion.tick n t) := by
  match t with
  | .cycle => exact beside.sync
  | .event e => exact beside.happen (fresh e rfl)

/-- From then on the systems stay like that, as long as what comes in has a name of its own. -/
theorem ticks (beside : f.Beside n) (fresh : (ts.filterMap Tick.arrival?).Nodup)
    (unknown : ∀ k ∈ ts.filterMap Tick.arrival?, ∀ i, ¬(n.slot k).Holds i) :
    (ts.foldl fullSync.tick f).Beside (ts.foldl noLocalDeletion.tick n) := by
  induction ts generalizing f n with
  | nil => exact beside
  | cons t rest ih =>
    have own : ∀ e, t = .event e → n.Fresh e := by
      rintro e rfl k arrives
      exact unknown k (List.mem_filterMap.mpr ⟨_, List.mem_cons_self, arrives⟩)
    have later : ∀ k ∈ rest.filterMap Tick.arrival?, k ∈ (t :: rest).filterMap Tick.arrival? := by
      intro k mem
      obtain ⟨u, mem, arrives⟩ := List.mem_filterMap.mp mem
      exact List.mem_filterMap.mpr ⟨u, List.mem_cons_of_mem _ mem, arrives⟩
    refine ih (beside.tick own) ?_ ?_
    · exact fresh.sublist ((List.sublist_cons_self t rest).filterMap _)
    · intro k mem j held
      rcases beside.known_tick held with ⟨i, before⟩ | arrives
      · exact unknown k (later k mem) i before
      · rw [List.filterMap_cons_some arrives, List.nodup_cons] at fresh
        exact fresh.1 mem

theorem live (fresh : (ts.filterMap Tick.arrival?).Nodup) : (fullSync.live ts).Beside (noLocalDeletion.live ts) := by
  have vacant : ∀ k i, ¬(({} : Memory).slot k).Holds i := by
    rintro k i (item | ⟨r, recording, -⟩ | mirror)
    · cases item
    · cases recording
    · cases mirror
  have unarmed : ({} : Memory).Unarmed := ⟨rfl, rfl, rfl, rfl, rfl, rfl⟩
  refine ticks ⟨unarmed, unarmed, fun k i _ held => absurd held (vacant k i), rfl, rfl, fun k => ?_⟩ fresh
    fun k _ => vacant k
  exact ⟨rfl, rfl, Or.inl rfl, fun i item => absurd (Or.inl item) (vacant k i)⟩

end Memory.Beside

namespace Policy

open Memory

/-- What lets one policy for messages take the place of the other: at the carrier and in the mirror the two systems
cannot be told apart, now and after every call of the cycle that comes next. Of the devices, what one keeps and
the other erases is orphans. -/
structure Interchangeable (f n : Memory) : Prop where
  carrier : f.carrier = n.carrier
  mirror : f.mirror = n.mirror
  plans : ∃ x y, fullSync.planFor f.device.snapshot f.carrier.snapshot f.mirror.snapshot = .ok x ∧
    noLocalDeletion.planFor n.device.snapshot n.carrier.snapshot n.mirror.snapshot = .ok y ∧
    x.carrier = y.carrier
  course : (fullSync.cycle.course Memory.answer f).filterMap outlook =
    (noLocalDeletion.cycle.course Memory.answer n).filterMap outlook
  completed : ∃ x y, (fullSync.cycle.run Memory.answer f).1 = .ok x ∧
    (noLocalDeletion.cycle.run Memory.answer n).1 = .ok y
  listing : (fullSync.sync f).device.snapshot = (noLocalDeletion.sync n).device.snapshot.filter fun i =>
    (noLocalDeletion.sync n).carrier.recordings.contains i.id

/-- Full sync and no local deletion are interchangeable throughout, whatever the user does with the orphans. -/
theorem message_policies_interchangeable (ts : List Tick) (fresh : (ts.filterMap Tick.arrival?).Nodup) :
    Interchangeable (fullSync.live ts) (noLocalDeletion.live ts) := by
  have beside := Beside.live fresh
  obtain ⟨x, completed⟩ := (sync_turns (p := fullSync) beside.left beside.apartLeft).1
  obtain ⟨y, completed'⟩ := (sync_turns (p := noLocalDeletion) beside.right beside.apart).1
  exact ⟨beside.carrier, beside.mirror, ⟨_, _, planFor_listings _ _, planFor_listings _ _, beside.carrier_planOf⟩,
    beside.cycle.2.2, ⟨x, y, completed, completed'⟩, beside.listing⟩

/-- A message is taken off the carrier once the device has it, and listened to afterwards. A greeting and an item
without a name come in as well. -/
def lateListener : List Tick :=
  let arrive (i : Item) : Tick := .event (.carrier (.arrive i (.silence 4 "audio/amr")))
  [arrive (.voicemail "a"), arrive (.voicemail "b"), arrive ⟨"g", .greeting .normal true, false, false, none, none⟩,
    arrive (.voicemail " "), .cycle, .event (.carrier (.remove "a")), .event (.device (.read "b")), .cycle,
    .event (.device (.read "a")), arrive (.voicemail "c")]

theorem lateListener_interchangeable : (lateListener.filterMap Tick.arrival?).Nodup ∧
    (noLocalDeletion.live lateListener).device.snapshot.keys = ["a", "b"] ∧
    (fullSync.live lateListener).device.snapshot.keys = ["b"] ∧
    Interchangeable (fullSync.live lateListener) (noLocalDeletion.live lateListener) := by
  have fresh : (lateListener.filterMap Tick.arrival?).Nodup := by decide
  exact ⟨fresh, by decide +kernel, by decide +kernel, message_policies_interchangeable lateListener fresh⟩

end Policy

end MailboxSync
