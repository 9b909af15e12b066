import MailboxSync.Proofs.CycleSlots

namespace MailboxSync

open Memory

/-- Two states of what is the same item. -/
def Item.Alike (i j : Item) : Prop := j.id = i.id ∧ j.family = i.family

namespace Item

theorem Alike.refl (i : Item) : i.Alike i := ⟨rfl, rfl⟩

theorem Alike.trans {i j k : Item} (first : i.Alike j) (second : j.Alike k) : i.Alike k :=
  ⟨second.1.trans first.1, second.2.trans first.2⟩

theorem alike_bare (i : Item) : i.Alike i.bare := ⟨rfl, rfl⟩

theorem alike_markRead (i : Item) : i.Alike i.markRead := ⟨rfl, rfl⟩

theorem alike_yieldTo (new i : Item) : i.Alike (yieldTo new i) :=
  ⟨eq_yieldTo passive_id new i, eq_yieldTo passive_family new i⟩

theorem listed_of_alike {i j : Item} {f : Family} (alike : i.Alike j) : j.listed f = i.listed f := by
  rw [listed, listed, isKeyed, isKeyed, alike.1, alike.2]

end Item

/-- What a transaction leaves under a name was there, or is brought in. -/
theorem Action.alike_of_alterAll {as : List Action} {k : String} {x : Option Item} {j : Item}
    (left : alterAll as k x = some j) :
    (∃ i, x = some i ∧ i.Alike j) ∨ ∃ a ∈ as, a.kind = .insert ∧ a.id = k ∧ a.item.Alike j := by
  induction as generalizing x with
  | nil => exact Or.inl ⟨j, left, .refl j⟩
  | cons a rest ih =>
    rcases ih left with ⟨i, altered, alike⟩ | ⟨b, mem, insert, own, alike⟩
    · change a.alter k x = some i at altered
      unfold alter at altered
      split at altered
      · next kind =>
        split at altered
        · next own =>
          cases altered
          exact Or.inr ⟨a, List.mem_cons_self, kind, own, a.item.alike_bare.trans alike⟩
        · obtain ⟨i', before, rfl⟩ := Option.map_eq_some_iff.mp altered
          exact Or.inl ⟨i', before, (Item.alike_yieldTo a.item i').trans alike⟩
      · split at altered
        · cases altered
        · exact Or.inl ⟨i, altered, alike⟩
      · split at altered
        · obtain ⟨i', before, rfl⟩ := Option.map_eq_some_iff.mp altered
          exact Or.inl ⟨i', before, i'.alike_markRead.trans alike⟩
        · exact Or.inl ⟨i, altered, alike⟩
      · exact Or.inl ⟨i, altered, alike⟩
    · exact Or.inr ⟨b, List.mem_cons_of_mem _ mem, insert, own, alike⟩

namespace Slot

variable {s t u : Slot} {f : Family} {i : Item}

/-- Some store has the item under the name. -/
def Holds (s : Slot) (i : Item) : Prop :=
  s.item = some i ∨ (∃ r, s.recording = some r ∧ r.item = i) ∨ s.mirror = some i

/-- Whatever is under the name now was there before. -/
def Descends (s t : Slot) : Prop := ∀ j, t.Holds j → ∃ i, s.Holds i ∧ i.Alike j

/-- The stores agree on whether the name is one for the cycles of this family. -/
def Apart (f : Family) (s : Slot) : Prop :=
  (∀ i, s.Holds i → i.listed f = true) ∨ ∀ i, s.Holds i → i.listed f = false

theorem Descends.refl (s : Slot) : s.Descends s := fun i held => ⟨i, held, .refl i⟩

theorem Descends.trans (first : s.Descends t) (second : t.Descends u) : s.Descends u := by
  intro k held
  obtain ⟨j, heldT, alike⟩ := second k held
  obtain ⟨i, heldS, alike'⟩ := first j heldT
  exact ⟨i, heldS, alike'.trans alike⟩

theorem listed_of_descends (listed : ∀ i, s.Holds i → i.listed f = true) (descends : s.Descends t) :
    ∀ i, t.Holds i → i.listed f = true := by
  intro j held
  obtain ⟨i, before, alike⟩ := descends j held
  rw [Item.listed_of_alike alike]
  exact listed i before

theorem unlisted_of_descends (unlisted : ∀ i, s.Holds i → i.listed f = false) (descends : s.Descends t) :
    ∀ i, t.Holds i → i.listed f = false := by
  intro j held
  obtain ⟨i, before, alike⟩ := descends j held
  rw [Item.listed_of_alike alike]
  exact unlisted i before

/-- Where all that is under a name is of the family, the listings show all of it. -/
theorem seen_of_listed (listed : ∀ i, s.Holds i → i.listed f = true) : s.seen f = s := by
  obtain ⟨item, content, recording, mirror⟩ := s
  have seenItem : item.filter (Item.listed f) = item := by
    cases item with
    | none => rfl
    | some i => rw [Option.filter_some, if_pos (listed i (Or.inl rfl))]
  have seenRecording : (recording.filter fun r => r.item.listed f) = recording := by
    cases recording with
    | none => rfl
    | some r => rw [Option.filter_some, if_pos (listed r.item (Or.inr (Or.inl ⟨r, rfl, rfl⟩)))]
  have seenMirror : mirror.filter (Item.listed f) = mirror := by
    cases mirror with
    | none => rfl
    | some i => rw [Option.filter_some, if_pos (listed i (Or.inr (Or.inr rfl)))]
  simp only [seen, seenItem, seenRecording, seenMirror]

/-- Where none of it is, they show nothing. -/
theorem seen_of_unlisted (unlisted : ∀ i, s.Holds i → i.listed f = false) :
    s.seen f = ⟨none, s.content, none, none⟩ := by
  obtain ⟨item, content, recording, mirror⟩ := s
  have seenItem : item.filter (Item.listed f) = none := by
    rw [Option.filter_eq_none_iff]
    exact fun i held => by simp [unlisted i (Or.inl held)]
  have seenRecording : (recording.filter fun r => r.item.listed f) = none := by
    rw [Option.filter_eq_none_iff]
    exact fun r held => by simp [unlisted r.item (Or.inr (Or.inl ⟨r, held, rfl⟩))]
  have seenMirror : mirror.filter (Item.listed f) = none := by
    rw [Option.filter_eq_none_iff]
    exact fun i held => by simp [unlisted i (Or.inr (Or.inr held))]
  simp only [seen, seenItem, seenRecording, seenMirror]

theorem heard_of_listed (listed : ∀ i, s.Holds i → i.listed f = true) :
    s.heard f = s.recording.map Recording.item := by
  rw [heard, seen_of_listed listed]

theorem descends_obey (a : Action) (s : Slot) : s.Descends (s.obey a) := by
  obtain ⟨item, content, recording, mirror⟩ := s
  intro j held
  unfold obey at held
  split at held
  · rcases held with held | ⟨r, recording, _⟩ | held
    · exact ⟨j, Or.inl held, .refl j⟩
    · cases recording
    · exact ⟨j, Or.inr (Or.inr held), .refl j⟩
  · rcases held with held | ⟨r', marked, rfl⟩ | held
    · exact ⟨j, Or.inl held, .refl j⟩
    · obtain ⟨r, before, rfl⟩ := Option.map_eq_some_iff.mp marked
      exact ⟨r.item, Or.inr (Or.inl ⟨r, before, rfl⟩), r.item.alike_markRead⟩
    · exact ⟨j, Or.inr (Or.inr held), .refl j⟩
  · split at held
    · next r i recorded had =>
      rcases held with held | heard | held
      · cases held
        exact ⟨i, Or.inl had, rfl, rfl⟩
      · exact ⟨j, Or.inr (Or.inl heard), .refl j⟩
      · exact ⟨j, Or.inr (Or.inr held), .refl j⟩
    · exact ⟨j, held, .refl j⟩
  · exact ⟨j, held, .refl j⟩

theorem Obeys.descends {faulty : Prop} {as cs : List Action} (obeys : Obeys faulty as s cs t) :
    s.Descends t := by
  induction obeys with
  | nil => exact .refl _
  | @done a as s cs t _ _ ih => exact (descends_obey a s).trans ih
  | failed _ _ ih => exact ih

theorem alike_of_observed {cs : List Action} {x : Option Item} {j : Item}
    (left : cs.foldl (fun x a => a.observe x) x = some j) : ∃ i, x = some i ∧ i.Alike j := by
  induction cs generalizing x with
  | nil => exact ⟨j, left, .refl j⟩
  | cons a rest ih =>
    obtain ⟨i, observed, alike⟩ := ih left
    change a.observe x = some i at observed
    unfold Action.observe at observed
    split at observed
    · cases observed
    · obtain ⟨i', before, rfl⟩ := Option.map_eq_some_iff.mp observed
      exact ⟨i', before, i'.alike_markRead.trans alike⟩
    · exact ⟨i, observed, alike⟩
    · exact ⟨i, observed, alike⟩

theorem holds_of_heard (heard : s.heard f = some i) : s.Holds i ∧ i.listed f = true := by
  obtain ⟨r, seen, rfl⟩ := Option.map_eq_some_iff.mp heard
  obtain ⟨recorded, listed⟩ := Option.filter_eq_some_iff.mp seen
  exact ⟨Or.inr (Or.inl ⟨r, recorded, rfl⟩), listed⟩

end Slot

/-- What a plan brings in is what the carrier's listing shows. -/
theorem Policy.heard_of_insert {p : Policy} {m : Memory} {a : Action}
    (mem : a ∈ (p.planOf m).device.toList) (kind : a.kind = .insert) :
    (m.slot a.id).heard p.family = some a.item := by
  have own : a ∈ ((m.slot a.id).plan p).device.toList := by
    rw [← filter_device_planOf]
    simpa using mem
  exact ((owes_of_mem own).of_insert kind).2

namespace Memory

variable {p : Policy} {m m' : Memory} {faulty : Prop} {k : String}

/-- No name is a message in one store and a greeting in another. -/
def FamiliesApart (m : Memory) : Prop :=
  ∀ k i j, (m.slot k).Holds i → (m.slot k).Holds j → i.family = j.family

theorem id_of_holds {i : Item} (held : (m.slot k).Holds i) : i.id = k := by
  rcases held with item | ⟨r, recording, rfl⟩ | mirror
  · exact Shelf.get?_key item
  · have named : r.id = k := Shelf.get?_key recording
    exact named
  · exact Snapshot.id_of_get? mirror

/-- All that is held in some store. -/
def holdings (m : Memory) : List Item :=
  m.device.items.toList ++ m.carrier.recordings.toList.map Recording.item ++ m.mirror.snapshot.toList

theorem mem_holdings_iff {i : Item} : i ∈ m.holdings ↔ (m.slot i.id).Holds i := by
  have device : (m.slot i.id).item = some i ↔ i ∈ m.device.items.toList := by
    show m.device.items.get? i.id = some i ↔ _
    simp [Shelf.get?_eq_some_iff]
  have carrier : (∃ r, (m.slot i.id).recording = some r ∧ r.item = i) ↔
      i ∈ m.carrier.recordings.toList.map Recording.item := by
    show (∃ r, m.carrier.recordings.get? i.id = some r ∧ r.item = i) ↔ _
    simp only [Shelf.get?_eq_some_iff, List.mem_map]
    constructor
    · rintro ⟨r, ⟨mem, _⟩, same⟩
      exact ⟨r, mem, same⟩
    · rintro ⟨r, mem, rfl⟩
      exact ⟨r, ⟨mem, rfl⟩, rfl⟩
  have mirror : (m.slot i.id).mirror = some i ↔ i ∈ m.mirror.snapshot.toList := by
    show m.mirror.snapshot.get? i.id = some i ↔ _
    simp [Snapshot.get?_eq_some_iff]
  rw [Slot.Holds, device, carrier, mirror, holdings, List.mem_append, List.mem_append, or_assoc]

theorem familiesApart_iff : m.FamiliesApart ↔
    ∀ i ∈ m.holdings, ∀ j ∈ m.holdings, i.id = j.id → i.family = j.family := by
  constructor
  · intro apart i heldI j heldJ same
    rw [mem_holdings_iff] at heldI heldJ
    rw [← same] at heldJ
    exact apart i.id i j heldI heldJ
  · intro apart k i j heldI heldJ
    have ownI := id_of_holds heldI
    have ownJ := id_of_holds heldJ
    refine apart i ?_ j ?_ (ownI.trans ownJ.symm)
    · rw [mem_holdings_iff, ownI]
      exact heldI
    · rw [mem_holdings_iff, ownJ]
      exact heldJ

instance : Decidable m.FamiliesApart := decidable_of_iff _ familiesApart_iff.symm

theorem FamiliesApart.apart (apart : m.FamiliesApart) (f : Family) (k : String) :
    (m.slot k).Apart f := by
  by_cases some : ∃ i, (m.slot k).Holds i ∧ i.listed f = true
  · left
    obtain ⟨i, held, listed⟩ := some
    intro j held'
    rw [Item.listed_of_alike ⟨(id_of_holds held').trans (id_of_holds held).symm, apart k j i held' held⟩]
    exact listed
  · right
    intro i held
    rw [← Bool.not_eq_true]
    exact fun listed => some ⟨i, held, listed⟩

theorem descends_transacted : (m.slot k).Descends ((m.slot k).transacted (p.alters m k)) := by
  intro j held
  rcases held with altered | heard | mirror
  · rcases Action.alike_of_alterAll altered with ⟨i, before, alike⟩ | ⟨a, mem, insert, rfl, alike⟩
    · exact ⟨i, Or.inl before, alike⟩
    · exact ⟨a.item, (Slot.holds_of_heard (Policy.heard_of_insert mem insert)).1, alike⟩
  · exact ⟨j, Or.inr (Or.inl heard), .refl j⟩
  · exact ⟨j, Or.inr (Or.inr mirror), .refl j⟩

/-- A cycle brings nothing under a name that was not there in some store. -/
theorem descends_of_turns {settled renewed : Bool} {t : Slot}
    (turns : (m.slot k).Turns p faulty (p.alters m k) settled renewed t) : (m.slot k).Descends t := by
  obtain ⟨cs, u, obeys, rfl⟩ := turns
  have start : (m.slot k).Descends
      (if settled then (m.slot k).transacted (p.alters m k) else m.slot k) := by
    cases settled with
    | false => exact .refl _
    | true => exact descends_transacted
  have after := start.trans obeys.descends
  cases renewed with
  | false => exact after
  | true =>
    intro j held
    rcases held with item | recording | observed
    · exact after j (Or.inl item)
    · exact after j (Or.inr (Or.inl recording))
    · obtain ⟨i, heard, alike⟩ := Slot.alike_of_observed observed
      exact ⟨i, (Slot.holds_of_heard heard).1, alike⟩

theorem FamiliesApart.of_descends (apart : m.FamiliesApart)
    (descends : ∀ k, (m.slot k).Descends (m'.slot k)) : m'.FamiliesApart := by
  intro k i j heldI heldJ
  obtain ⟨i', before, alike⟩ := descends k i heldI
  obtain ⟨j', before', alike'⟩ := descends k j heldJ
  rw [alike.2, alike'.2]
  exact apart k i' j' before before'

/-- Where families are kept apart the device lacks whatever a plan brings in. -/
theorem FamiliesApart.lacks_of_insert (apart : m.FamiliesApart) {a : Action}
    (mem : a ∈ (p.planOf m).device.toList) (insert : a.kind = .insert) :
    m.device.items.contains a.id = false := by
  have absent := Policy.get?_eq_none_of_insert _ _ _ mem insert
  rw [Device.get?_retain_snapshot] at absent
  obtain ⟨held, listed⟩ := Slot.holds_of_heard (Policy.heard_of_insert mem insert)
  rw [Shelf.contains_eq_isSome]
  cases found : m.device.items.get? a.id with
  | none => rfl
  | some i =>
    have heldI : (m.slot a.id).Holds i := Or.inl found
    have listedI : i.listed p.family = true := by
      rw [Item.listed_of_alike ⟨id_of_holds heldI, apart _ _ _ heldI held⟩]
      exact listed
    have seen : (m.slot a.id).item.filter (Item.listed p.family) = some i := by
      rw [show (m.slot a.id).item = some i from found, Option.filter_some, if_pos listedI]
    cases absent.symm.trans seen

/-- Where families are kept apart a transaction goes through. -/
theorem FamiliesApart.performAll_planOf (apart : m.FamiliesApart) (p : Policy) :
    ∃ items, m.device.items.performAll (p.planOf m).device.toList = .ok items :=
  Folder.performAll_ok (fun _ mem => Policy.isValidFor_device_of_mem _ _ _ mem)
    (ActionList.distinct _) fun _ mem insert => apart.lacks_of_insert mem insert

/-- To run a program is one course of it in which nothing goes wrong. -/
theorem ends_run {α : Type} (q : Program α) (m : Memory) :
    Program.Ends (reacts False) q m (q.run Memory.answer m).1 (q.run Memory.answer m).2 :=
  Program.ends_run (fun _ _ => Or.inl rfl) q m

end Memory

namespace Policy

variable (p : Policy) (m : Memory)

/-- The stores after a cycle that nothing disturbs. -/
def sync : Memory := (p.cycle.run Memory.answer m).2

/-- The stores after several such cycles. -/
def after : Nat → Memory → Memory
  | 0, m => m
  | n + 1, m => after n (p.sync m)

variable {p m}

theorem ends_sync : Program.Ends (reacts False) p.cycle m (p.cycle.run Memory.answer m).1 (p.sync m) :=
  Memory.ends_run p.cycle m

/-- A cycle that nothing disturbs completes, and does all that is called for. -/
theorem sync_turns (unarmed : m.Unarmed) (apart : m.FamiliesApart) :
    (∃ r, (p.cycle.run Memory.answer m).1 = .ok r) ∧
      ∀ k, (m.slot k).Turns p False (p.alters m k) true true ((p.sync m).slot k) := by
  obtain ⟨settled, renewed, bound, outcome, turns⟩ := turns_of_ends unarmed (ends_sync (p := p))
  obtain ⟨items, fits⟩ := apart.performAll_planOf p
  rcases outcome with fault | ⟨e, refused⟩ | ⟨rfl, completed⟩
  · exact fault.elim
  · rw [fits] at refused
    cases refused
  · rw [bound rfl] at turns
    exact ⟨completed, turns⟩

theorem unarmed_sync (unarmed : m.Unarmed) : (p.sync m).Unarmed :=
  Action.unarmed_of_ends unarmed ends_sync

theorem familiesApart_sync (unarmed : m.Unarmed) (apart : m.FamiliesApart) :
    (p.sync m).FamiliesApart :=
  apart.of_descends fun k => descends_of_turns ((sync_turns unarmed apart).2 k)

end Policy

end MailboxSync
