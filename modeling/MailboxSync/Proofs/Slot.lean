import MailboxSync.Cycle.Run
import MailboxSync.Proofs.Reaction
import MailboxSync.Proofs.Stores
import MailboxSync.Proofs.Transaction

namespace MailboxSync

/-- What the stores have under one name. -/
structure Slot where
  item : Option Item
  content : Option Payload
  recording : Option Recording
  mirror : Option Item

namespace Slot

/-- What a transaction makes of a slot. An item that disappears takes its content along. -/
def transacted (f : Option Item → Option Item) (s : Slot) : Slot :=
  { s with item := f s.item, content := if s.item.isSome && (f s.item).isNone then none else s.content }

/-- A command can be carried out. To delete what is gone is nothing to refuse. -/
def grants (a : Action) (s : Slot) : Bool :=
  match a.kind with
  | .delete => true
  | .markAsRead => s.recording.isSome
  | .fetchContent => s.recording.isSome && s.item.isSome
  | .insert => false

/-- What a command makes of a slot if it can be carried out. -/
def obey (a : Action) (s : Slot) : Slot :=
  match a.kind with
  | .delete => { s with recording := none }
  | .markAsRead => { s with recording := s.recording.map Recording.markRead }
  | .fetchContent =>
    match s.recording, s.item with
    | some r, some i => { s with item := some (a.item.holding r.payload i), content := some r.payload }
    | _, _ => s
  | .insert => s

/-- Commands are tried one after the other. One that can be carried out fails only if calls may
fail. -/
inductive Obeys (faulty : Prop) : List Action → Slot → List Action → Slot → Prop
  | nil {s} : Obeys faulty [] s [] s
  | done {a as s cs t} : s.grants a = true → Obeys faulty as (s.obey a) cs t →
      Obeys faulty (a :: as) s (a :: cs) t
  | failed {a as s cs t} : faulty ∨ s.grants a = false → Obeys faulty as s cs t →
      Obeys faulty (a :: as) s cs t

section

variable {faulty : Prop} {s t : Slot} {as bs cs : List Action} {a : Action}

/-- Only what was asked for is carried out. -/
theorem Obeys.subset (obeys : Obeys faulty as s cs t) : cs ⊆ as := by
  induction obeys with
  | nil => exact List.Subset.refl _
  | done _ _ ih => exact List.cons_subset_cons _ ih
  | failed _ _ ih => exact List.subset_cons_of_subset _ ih

theorem Obeys.of_nil (obeys : Obeys faulty [] s cs t) : cs = [] ∧ t = s := by
  cases obeys
  exact ⟨rfl, rfl⟩

theorem Obeys.of_singleton (obeys : Obeys faulty [a] s cs t) :
    (s.grants a = true ∧ cs = [a] ∧ t = s.obey a) ∨ ((faulty ∨ s.grants a = false) ∧ cs = [] ∧ t = s) := by
  cases obeys with
  | done granted rest =>
    obtain ⟨rfl, rfl⟩ := rest.of_nil
    exact Or.inl ⟨granted, rfl, rfl⟩
  | failed reason rest =>
    obtain ⟨rfl, rfl⟩ := rest.of_nil
    exact Or.inr ⟨reason, rfl, rfl⟩

theorem Obeys.of_append (obeys : Obeys faulty (as ++ bs) s cs t) :
    ∃ cs₁ u cs₂, cs = cs₁ ++ cs₂ ∧ Obeys faulty as s cs₁ u ∧ Obeys faulty bs u cs₂ t := by
  induction as generalizing s cs with
  | nil => exact ⟨[], s, cs, rfl, .nil, obeys⟩
  | cons a rest ih =>
    cases obeys with
    | done granted others =>
      obtain ⟨cs₁, u, cs₂, rfl, first, second⟩ := ih others
      exact ⟨a :: cs₁, u, cs₂, rfl, .done granted first, second⟩
    | failed reason others =>
      obtain ⟨cs₁, u, cs₂, rfl, first, second⟩ := ih others
      exact ⟨cs₁, u, cs₂, rfl, .failed reason first, second⟩

end

theorem obey_of_refused {a : Action} {s : Slot} (refused : s.grants a = false) : s.obey a = s := by
  obtain ⟨item, content, recording, mirror⟩ := s
  cases kind : a.kind with
  | insert => simp [obey, kind]
  | delete => simp [grants, kind] at refused
  | markAsRead =>
    have missing : recording = none := by simpa [grants, kind] using refused
    simp [obey, kind, missing]
  | fetchContent =>
    cases recording <;> cases item <;> simp_all [grants, obey]

theorem transacted_id (s : Slot) : s.transacted id = s := by
  obtain ⟨item, content, recording, mirror⟩ := s
  cases item <;> rfl

end Slot

namespace Memory

def slot (m : Memory) (k : String) : Slot where
  item := m.device.items.get? k
  content := m.device.content k
  recording := m.carrier.recordings.get? k
  mirror := m.mirror.snapshot.get? k

variable {m m' : Memory} {k : String}

/-- The slots tell all that the stores hold. -/
theorem eq_of_slot (same : ∀ k, m'.slot k = m.slot k) :
    m'.device.items = m.device.items ∧ m'.device.contents = m.device.contents ∧
      m'.carrier.recordings = m.carrier.recordings ∧ m'.mirror.snapshot = m.mirror.snapshot := by
  refine ⟨Shelf.ext_get? fun k => congrArg Slot.item (same k), Shelf.ext_get? ?_,
    Shelf.ext_get? fun k => congrArg Slot.recording (same k),
    Snapshot.ext_get? fun k => congrArg Slot.mirror (same k)⟩
  intro k
  have content : (m'.device.contents.get? k).map Prod.snd = (m.device.contents.get? k).map Prod.snd :=
    congrArg Slot.content (same k)
  have named : ∀ {s : Contents} {x : String × Payload}, s.get? k = some x → x = (k, x.2) :=
    fun found => Prod.ext (Shelf.get?_key found) rfl
  cases found' : m'.device.contents.get? k with
  | none =>
    rw [found'] at content
    exact (Option.map_eq_none_iff.mp content.symm).symm
  | some x' =>
    rw [found'] at content
    obtain ⟨x, found, payload⟩ := Option.map_eq_some_iff.mp content.symm
    rw [found, named found', named found, payload]

/-- A transaction that goes through. -/
theorem slot_transacted {as : List Action} {items : Folder}
    (done : m.device.items.performAll as = .ok items)
    (result : m' = { m with device := { m.device with items, contents := m.device.keptContents items } }) :
    m'.slot k = (m.slot k).transacted (Action.alterAll as k) := by
  have after := Folder.get?_performAll done k
  have kept := m.device.get?_keptContents items k
  subst result
  show Slot.mk (items.get? k) (((m.device.keptContents items).get? k).map Prod.snd) _ _ = _
  rw [kept, after]
  simp only [Slot.transacted, slot, Device.content]
  congr 1
  rw [apply_ite (Option.map Prod.snd)]
  rfl

theorem slot_storeContent {i : Item} {p : Payload} (held : (m.slot i.id).item.isSome = true) (k : String) :
    (m.answer (.storeContent i p)).1 = .ok () ∧
    (m.answer (.storeContent i p)).2.slot k =
      if k = i.id then { m.slot k with item := (m.slot k).item.map (i.holding p), content := some p }
      else m.slot k := by
  have contains : m.device.items.contains i.id = true := by
    rw [Shelf.contains_eq_isSome]
    exact held
  have items := m.device.get?_storeContent i p k
  refine ⟨?_, ?_⟩
  · show (m.device.storeContent i p).1 = _
    rw [Device.storeContent, if_pos contains]
  · have contents : (m.device.storeContent i p).2.contents = m.device.contents.put (i.id, p) := by
      rw [Device.storeContent, if_pos contains]
    show Slot.mk ((m.device.storeContent i p).2.items.get? k)
      (((m.device.storeContent i p).2.contents.get? k).map Prod.snd) _ _ = _
    rw [items, contents, Shelf.get?_put]
    by_cases own : k = i.id
    · rw [if_pos own, if_pos own, if_pos own.symm]
      rfl
    · rw [if_neg own, if_neg own, if_neg (Ne.symm own)]
      rfl

theorem storeContent_missing {i : Item} (p : Payload) (missing : (m.slot i.id).item.isSome = false) :
    m.answer (.storeContent i p) = (.error (.itemNotFound i.id), m) := by
  have lacks : ¬m.device.items.contains i.id = true := by
    rw [Shelf.contains_eq_isSome, Bool.not_eq_true]
    exact missing
  show ((m.device.storeContent i p).1, { m with device := (m.device.storeContent i p).2 }) = _
  rw [Device.storeContent, if_neg lacks]

theorem slot_applyCarrier {a : Action} (free : m.carrier.actionFaults.contains a.id = false)
    (kind : a.kind ≠ .fetchContent) (k : String) :
    ((m.answer (.applyCarrier a)).1 = .ok () ↔ (m.slot a.id).grants a = true) ∧
    (m.answer (.applyCarrier a)).2.slot k = if k = a.id then (m.slot k).obey a else m.slot k := by
  have answer : m.answer (.applyCarrier a) =
      ((m.carrier.apply a).1, { m with carrier := (m.carrier.apply a).2 }) := rfl
  rw [answer, m.carrier.apply_of_free free]
  cases kind' : a.kind with
  | fetchContent => exact absurd kind' kind
  | insert =>
    refine ⟨by simp [Slot.grants, kind'], ?_⟩
    simp only [Slot.obey, kind', ite_self]
  | delete =>
    refine ⟨by simp [Slot.grants, kind'], ?_⟩
    have recordings := m.carrier.get?_remove a.id k
    show Slot.mk _ _ ((m.carrier.remove a.id).recordings.get? k) _ = _
    rw [recordings]
    by_cases own : k = a.id <;> simp only [own, if_true, if_false, Slot.obey, kind'] <;> rfl
  | markAsRead =>
    by_cases held : m.carrier.recordings.contains a.id = true
    · refine ⟨by simp [Slot.grants, kind', held, slot, ← Shelf.contains_eq_isSome], ?_⟩
      have recordings := m.carrier.get?_markRead a.id k
      simp only [held, if_true]
      show Slot.mk _ _ ((m.carrier.markRead a.id).recordings.get? k) _ = _
      rw [recordings]
      by_cases own : k = a.id <;> simp only [own, if_true, if_false, Slot.obey, kind'] <;> rfl
    · refine ⟨by simp [Slot.grants, kind', held, slot, ← Shelf.contains_eq_isSome], ?_⟩
      by_cases own : k = a.id
      · subst own
        rw [Shelf.contains_eq_isSome, Bool.not_eq_true, Option.isSome_eq_false_iff,
          Option.isNone_iff_eq_none] at held
        simp [Slot.obey, kind', slot, Shelf.contains_eq_isSome, held]
      · simp [own, held]

end Memory

end MailboxSync
