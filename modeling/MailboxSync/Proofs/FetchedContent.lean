import MailboxSync.Proofs.CompletedCycle

/-! What the device holds of the contents a cycle fetched, and of those it did not fetch. -/

namespace MailboxSync

open Memory
open Program (Ends)

namespace Item

/-- What an item says of its content. -/
def contentNote (i : Item) : Bool × Option UInt64 × Option String := (i.hasContent, i.contentLen, i.uri)

/-- What is said of content that was never stored. -/
def noContent : Bool × Option UInt64 × Option String := (false, none, none)

theorem contentNote_passive (i : Item) : i.passive.contentNote = i.contentNote := by
  obtain ⟨id, kind, read, content, uri, len⟩ := i
  cases kind <;> rfl

end Item

namespace Slot

variable {faulty : Prop} {s t : Slot} {as cs : List Action} {a : Action}

/-- The audio at the carrier is what it was, for as long as it is there. -/
theorem payload_obey {r : Recording} (left : (s.obey a).recording = some r) :
    ∃ r', s.recording = some r' ∧ r'.payload = r.payload := by
  unfold obey at left
  split at left
  · cases left
  · obtain ⟨r', held, rfl⟩ := Option.map_eq_some_iff.mp left
    exact ⟨r', held, rfl⟩
  · split at left
    · exact ⟨r, left, rfl⟩
    · exact ⟨r, left, rfl⟩
  · exact ⟨r, left, rfl⟩

/-- Without a fetch the device is left alone. -/
theorem Obeys.device_of_unfetched (obeys : Obeys faulty as s cs t) (unfetched : ∀ a ∈ cs, a.kind ≠ .fetchContent) :
    t.item = s.item ∧ t.content = s.content := by
  induction obeys with
  | nil => exact ⟨rfl, rfl⟩
  | @done a _ s _ _ _ _ ih =>
    have same : (s.obey a).item = s.item ∧ (s.obey a).content = s.content := by
      unfold obey
      split
      · exact ⟨rfl, rfl⟩
      · exact ⟨rfl, rfl⟩
      · next fetch => exact absurd fetch (unfetched a List.mem_cons_self)
      · exact ⟨rfl, rfl⟩
    obtain ⟨item, content⟩ := ih fun b mem => unfetched b (List.mem_cons_of_mem _ mem)
    exact ⟨item.trans same.1, content.trans same.2⟩
  | failed _ _ ih => exact ih unfetched

/-- After a fetch the device holds what the carrier had at the start, as the latest of the fetches has noted it. -/
theorem Obeys.device_of_fetched (obeys : Obeys faulty as s cs t) (fetched : ∃ a ∈ cs, a.kind = .fetchContent) :
    ∃ a ∈ cs, ∃ r i, s.recording = some r ∧ t.item = some (a.item.holding r.payload i) ∧
      t.content = some r.payload := by
  induction obeys with
  | nil =>
    obtain ⟨a, mem, _⟩ := fetched
    cases mem
  | @done a as s cs t granted rest ih =>
    by_cases again : ∃ b ∈ cs, b.kind = .fetchContent
    · obtain ⟨b, mem, r, i, recording, item, content⟩ := ih again
      obtain ⟨r', held, same⟩ := payload_obey recording
      rw [← same] at item content
      exact ⟨b, List.mem_cons_of_mem _ mem, r', i, held, item, content⟩
    · obtain ⟨b, mem, fetch⟩ := fetched
      obtain rfl : b = a := (List.mem_cons.mp mem).resolve_right fun later => again ⟨b, later, fetch⟩
      obtain ⟨item, content⟩ := rest.device_of_unfetched fun c later kind => again ⟨c, later, kind⟩
      simp only [grants, fetch, Bool.and_eq_true, Option.isSome_iff_exists] at granted
      obtain ⟨⟨r, recording⟩, ⟨i, held⟩⟩ := granted
      simp only [obey, fetch, recording, held] at item content
      exact ⟨b, List.mem_cons_self, r, i, recording, item, content⟩
  | failed _ _ ih => exact ih fetched

end Slot

namespace Memory

/-- What the carrier had under the name has become the content of the device's item, which tells of it. -/
def Delivers (p : Policy) (m m' : Memory) (k : String) : Prop :=
  ∃ r i, m.carrier.recordings.get? k = some r ∧ m'.deviceItem k = some i ∧
    i.contentNote = (true, some r.payload.length, some (Device.locator p.family k)) ∧
    m'.device.content k = some r.payload

/-- The content on the device is what it was, and so is what the item tells of it. Content goes with an item that is
taken off, and there is none for an item that comes in. -/
def SparesContent (m m' : Memory) (k : String) : Prop :=
  (∀ i, m'.deviceItem k = some i → i.contentNote = ((m.deviceItem k).map Item.contentNote).getD Item.noContent) ∧
    m'.device.content k =
      if (m.deviceItem k).isSome && (m'.deviceItem k).isNone then none else m.device.content k

end Memory

namespace Policy

variable {p : Policy} {m m' : Memory} {r : Report} {k : String}

theorem delivers_of_completed (ends : Ends (reacts True) p.cycle m (.ok r) m') {a : Action}
    (completed : a ∈ r.carrier.completed) (fetch : a.kind = .fetchContent) : m.Delivers p m' a.id := by
  obtain ⟨u, obeys, item, content⟩ := obeyed_of_completed ends a.id
  obtain ⟨b, mem, rec, i, recording, held, kept⟩ :=
    obeys.device_of_fetched ⟨a, List.mem_filter.mpr ⟨completed, decide_eq_true rfl⟩, fetch⟩
  have own : b.id = a.id := of_decide_eq_true (List.mem_filter.mp mem).2
  have family : b.item.family = p.family := by
    have planned := obeys.subset mem
    rw [← filter_carrier_planOf, List.mem_filter] at planned
    exact family_of_planned (Or.inr planned.1)
  refine ⟨rec, b.item.holding rec.payload i, recording, item.trans held, ?_, content.trans kept⟩
  show (true, some rec.payload.length, some (Device.locator b.item.family b.id)) = _
  rw [family, own]

/-- A transaction tells nothing new of content, and brings none in. -/
theorem contentNote_alters (ends : Ends (reacts True) p.cycle m (.ok r) m') {i : Item}
    (left : p.alters m k (m.deviceItem k) = some i) :
    i.contentNote = ((m.deviceItem k).map Item.contentNote).getD Item.noContent := by
  have noted := p.map_alters m k Item.contentNote_passive (m.deviceItem k)
  rw [left, Option.map_some] at noted
  rcases (m.slot k).device_plan_cases p with nothing | ⟨a, one, owes⟩
  · rw [nothing] at noted
    have same : Action.alterAll [] k (m.deviceItem k) = m.deviceItem k := rfl
    rw [same] at noted
    rw [← noted, Option.getD_some]
  · have planned : a ∈ ((m.slot k).plan p).device.toList := one ▸ List.mem_cons_self
    rw [← filter_device_planOf, List.mem_filter, decide_eq_true_eq] at planned
    obtain ⟨mem, rfl⟩ := planned
    have altered : Action.alterAll [a] a.id (m.deviceItem a.id) = a.alter a.id (m.deviceItem a.id) := rfl
    rw [one, altered] at noted
    cases kind : a.kind with
    | insert =>
      rw [absent_of_insert ends mem kind] at noted ⊢
      simp only [Action.alter, kind, if_true, Option.map_some] at noted
      exact Option.some.inj noted
    | delete => simp [Action.alter, kind] at noted
    | markAsRead =>
      have same : Item.contentNote ∘ Item.markRead = Item.contentNote := rfl
      simp only [Action.alter, kind, if_true, Option.map_map, same] at noted
      rw [← noted, Option.getD_some]
    | fetchContent =>
      simp only [Action.alter, kind] at noted
      rw [← noted, Option.getD_some]

theorem sparesContent_of_completed (ends : Ends (reacts True) p.cycle m (.ok r) m')
    (unfetched : ∀ a ∈ r.carrier.completed, a.kind = .fetchContent → a.id ≠ k) : m.SparesContent m' k := by
  obtain ⟨u, obeys, item, content⟩ := obeyed_of_completed ends k
  obtain ⟨sameItem, sameContent⟩ := obeys.device_of_unfetched fun a mem fetch =>
    unfetched a (List.mem_filter.mp mem).1 fetch (of_decide_eq_true (List.mem_filter.mp mem).2)
  have altered : m'.deviceItem k = p.alters m k (m.deviceItem k) := item.trans sameItem
  refine ⟨fun i held => contentNote_alters ends (altered.symm.trans held), ?_⟩
  rw [content, sameContent, altered]
  rfl

end Policy

end MailboxSync
