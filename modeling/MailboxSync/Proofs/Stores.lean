import MailboxSync.Store.Memory

namespace MailboxSync

/-- The item once this content is kept for it. -/
def Item.holding (i : Item) (p : Payload) (x : Item) : Item :=
  { x with hasContent := true, contentLen := some p.length, uri := some (Device.locator i.family i.id) }

namespace Device

variable (d : Device)

theorem get?_remove (id k : String) :
    (d.remove id).items.get? k = if k = id then none else d.items.get? k :=
  d.items.get?_erase id k

theorem get?_markRead (id k : String) :
    (d.markRead id).items.get? k =
      if k = id then (d.items.get? k).map Item.markRead else d.items.get? k :=
  d.items.get?_adjust id Item.markRead Item.markRead_id k

theorem items_list : d.list.2.items = d.items := by
  unfold list
  split <;> rfl

theorem list_ok {s : Snapshot} (listed : d.list.1 = .ok s) : s = d.snapshot ∧ d.list.2 = d := by
  unfold list at listed ⊢
  split at listed
  · cases listed
  · exact ⟨(Except.ok.inj listed).symm, rfl⟩

theorem apply_of_quiet {as : List Action} (quiet : d.applyFault = none) : d.apply as =
    match d.items.performAll as with
    | .error e => (.error e, d)
    | .ok items => (.ok (), { d with items, contents := d.keptContents items }) := by
  unfold apply
  split
  · next armed =>
    rw [quiet] at armed
    cases armed
  · rfl

theorem apply_ok {as : List Action} (done : (d.apply as).1 = .ok ()) :
    ∃ items, d.items.performAll as = .ok items ∧
      (d.apply as).2 = { d with items, contents := d.keptContents items } := by
  unfold apply at done ⊢
  split at done
  · cases done
  · cases all : d.items.performAll as with
    | error e => simp [all] at done
    | ok items => exact ⟨items, rfl, rfl⟩

theorem apply_error {as : List Action} {e : Failure} (refused : (d.apply as).1 = .error e) :
    (d.apply as).2.items = d.items ∧ (d.apply as).2.contents = d.contents := by
  unfold apply at refused ⊢
  split
  · exact ⟨rfl, rfl⟩
  · cases all : d.items.performAll as with
    | error e => exact ⟨rfl, rfl⟩
    | ok items => simp_all

theorem get?_keptContents (items : Folder) (k : String) : (d.keptContents items).get? k =
    if (d.items.get? k).isSome && (items.get? k).isNone then none else d.contents.get? k := by
  rw [keptContents, Shelf.get?_filter]
  cases found : d.contents.get? k with
  | none => simp
  | some x =>
    have named : x.1 = k := Shelf.get?_key found
    cases before : d.items.get? k <;> cases after : items.get? k <;>
      simp [named, Shelf.contains_eq_isSome, before, after]

theorem get?_storeContent (i : Item) (p : Payload) (k : String) :
    (d.storeContent i p).2.items.get? k =
      if k = i.id then (d.items.get? k).map (i.holding p) else d.items.get? k := by
  unfold storeContent
  split
  · exact d.items.get?_adjust i.id (i.holding p) (fun _ => rfl) k
  · next away =>
    rw [Bool.not_eq_true, Shelf.contains_eq_isSome, Option.isSome_eq_false_iff,
      Option.isNone_iff_eq_none] at away
    by_cases own : k = i.id
    · rw [if_pos own, own, away]
      rfl
    · rw [if_neg own]

theorem get?_storeContent_contents (i : Item) (p : Payload) (k : String) :
    (d.storeContent i p).2.contents.get? k =
      if k = i.id ∧ (d.items.get? i.id).isSome = true then some (i.id, p) else d.contents.get? k := by
  unfold storeContent
  rw [Shelf.contains_eq_isSome]
  split
  · next held =>
    rw [Shelf.get?_put]
    simp only [held, and_true, eq_comm]
  · next away => simp [away]

end Device

namespace Carrier

variable (c : Carrier)

theorem get?_put (i : Item) (p : Payload) (k : String) :
    (c.put i p).recordings.get? k =
      if i.id = k then some ⟨{ i.bare with hasContent := !p.isEmpty }, p⟩ else c.recordings.get? k :=
  c.recordings.get?_put _ k

theorem get?_remove (id k : String) :
    (c.remove id).recordings.get? k = if k = id then none else c.recordings.get? k :=
  c.recordings.get?_erase id k

theorem get?_markRead (id k : String) :
    (c.markRead id).recordings.get? k =
      if k = id then (c.recordings.get? k).map Recording.markRead else c.recordings.get? k :=
  c.recordings.get?_adjust id Recording.markRead (fun _ => rfl) k

theorem recordings_list : c.list.2.recordings = c.recordings := by
  unfold list
  split <;> rfl

theorem list_ok {s : Snapshot} (listed : c.list.1 = .ok s) : s = c.snapshot ∧ c.list.2 = c := by
  unfold list at listed ⊢
  split at listed
  · cases listed
  · exact ⟨(Except.ok.inj listed).symm, rfl⟩

/-- A command that is refused changes nothing. -/
theorem apply_error {a : Action} {e : Failure} (refused : (c.apply a).1 = .error e) :
    (c.apply a).2.recordings = c.recordings := by
  unfold apply at refused ⊢
  split
  · rfl
  · split
    · simp_all
    · split
      · simp_all
      · rfl
    · rfl
    · rfl

theorem apply_ok {a : Action} (done : (c.apply a).1 = .ok ()) :
    (a.kind = .delete ∧ (c.apply a).2.recordings = (c.remove a.id).recordings) ∨
      (a.kind = .markAsRead ∧ c.recordings.contains a.id = true ∧
        (c.apply a).2.recordings = (c.markRead a.id).recordings) := by
  unfold apply at done ⊢
  split at done
  · cases done
  · next free =>
    rw [if_neg free]
    split at done
    · next kind => exact Or.inl ⟨kind, rfl⟩
    · next kind =>
      split at done
      · next held => exact Or.inr ⟨kind, held, by simp only [if_pos held]; rfl⟩
      · cases done
    · cases done
    · cases done

/-- A command that meets no fault. -/
theorem apply_of_free {a : Action} (free : c.actionFaults.contains a.id = false) : c.apply a =
    match a.kind with
    | .delete => (.ok (), (c.remove a.id).log a.render)
    | .markAsRead =>
      if c.recordings.contains a.id then (.ok (), (c.markRead a.id).log a.render)
      else (.error (.itemNotFound a.id), c)
    | .insert | .fetchContent => (.error (.invalidAction a.render), c) := by
  rw [apply, free]
  rfl

theorem fetchContent_of_free {i : Item} (free : c.fetchFaults.contains i.id = false) : c.fetchContent i =
    match c.recordings.get? i.id with
    | some r => (.ok r.payload, c.log (Action.render ⟨.fetchContent, .carrier, i⟩))
    | none => (.error (.itemNotFound i.id), c) := by
  rw [fetchContent, free]
  rfl

theorem recordings_fetchContent (i : Item) : (c.fetchContent i).2.recordings = c.recordings := by
  unfold fetchContent
  split
  · rfl
  · split <;> rfl

end Carrier

namespace Mirror

variable (x : Mirror) (s : Snapshot)

theorem replaceWith_ok (done : (x.replaceWith s).1 = .ok ()) : (x.replaceWith s).2.snapshot = s := by
  unfold replaceWith at done ⊢
  split
  · simp_all
  · rfl

theorem replaceWith_error {e : Failure} (refused : (x.replaceWith s).1 = .error e) :
    (x.replaceWith s).2.snapshot = x.snapshot := by
  unfold replaceWith at refused ⊢
  split
  · rfl
  · simp_all

end Mirror

namespace Memory

/-- No call is going to fail because a fault was armed for it. -/
structure Unarmed (m : Memory) : Prop where
  deviceList : m.device.listFault = none
  deviceApply : m.device.applyFault = none
  carrierList : m.carrier.listFault = none
  actions : m.carrier.actionFaults = .empty
  fetches : m.carrier.fetchFaults = .empty
  mirror : m.mirror.replaceFault = none

namespace Unarmed

variable {m : Memory} (unarmed : m.Unarmed)

include unarmed

theorem happen (e : Event) : (m.happen e).Unarmed := by
  match e with
  | .device (.read _) | .device (.remove _) | .carrier (.arrive _ _) | .carrier (.read _)
  | .carrier (.remove _) =>
    exact ⟨unarmed.deviceList, unarmed.deviceApply, unarmed.carrierList, unarmed.actions,
      unarmed.fetches, unarmed.mirror⟩

theorem deviceList_ok : m.device.list = (.ok m.device.snapshot, m.device) := by
  simp [Device.list, unarmed.deviceList]

theorem carrierList_ok : m.carrier.list = (.ok m.carrier.snapshot, m.carrier) := by
  simp [Carrier.list, unarmed.carrierList]

theorem replaceWith_eq (s : Snapshot) :
    m.mirror.replaceWith s = (.ok (), { m.mirror with snapshot := s }) := by
  simp [Mirror.replaceWith, unarmed.mirror]

theorem apply_eq (as : List Action) : m.device.apply as =
    match m.device.items.performAll as with
    | .error e => (.error e, m.device)
    | .ok items => (.ok (), { m.device with items, contents := m.device.keptContents items }) :=
  m.device.apply_of_quiet unarmed.deviceApply

theorem actions_free (k : String) : m.carrier.actionFaults.contains k = false := by
  rw [unarmed.actions]
  rfl

theorem fetches_free (k : String) : m.carrier.fetchFaults.contains k = false := by
  rw [unarmed.fetches]
  rfl

theorem answer_listDevice : m.answer .listDevice = (.ok m.device.snapshot, m) := by
  show (m.device.list.1, { m with device := m.device.list.2 }) = _
  rw [unarmed.deviceList_ok]

theorem answer_listCarrier : m.answer .listCarrier = (.ok m.carrier.snapshot, m) := by
  show (m.carrier.list.1, { m with carrier := m.carrier.list.2 }) = _
  rw [unarmed.carrierList_ok]

theorem answer_applyDevice {as : List Action} {items : Folder}
    (done : m.device.items.performAll as = .ok items) : m.answer (.applyDevice as) =
      (.ok (), { m with device := { m.device with items, contents := m.device.keptContents items } }) := by
  show ((m.device.apply as).1, { m with device := (m.device.apply as).2 }) = _
  rw [unarmed.apply_eq, done]

/-- Nothing that a cycle asks for arms a fault. -/
theorem answer (r : Request) : (m.answer r).2.Unarmed := by
  have same : m.Unarmed := unarmed
  obtain ⟨deviceList, deviceApply, carrierList, actions, fetches, mirror⟩ := unarmed
  cases r with
  | listDevice =>
    rw [same.answer_listDevice]
    exact same
  | listCarrier =>
    rw [same.answer_listCarrier]
    exact same
  | listMirror => exact same
  | applyDevice as =>
    show Unarmed { m with device := (m.device.apply as).2 }
    rw [same.apply_eq]
    split <;> exact ⟨deviceList, deviceApply, carrierList, actions, fetches, mirror⟩
  | storeContent i p =>
    show Unarmed { m with device := (m.device.storeContent i p).2 }
    unfold Device.storeContent
    split <;> exact ⟨deviceList, deviceApply, carrierList, actions, fetches, mirror⟩
  | applyCarrier a =>
    show Unarmed { m with carrier := (m.carrier.apply a).2 }
    rw [m.carrier.apply_of_free (same.actions_free a.id)]
    split
    · exact ⟨deviceList, deviceApply, carrierList, actions, fetches, mirror⟩
    · split <;> exact ⟨deviceList, deviceApply, carrierList, actions, fetches, mirror⟩
    · exact ⟨deviceList, deviceApply, carrierList, actions, fetches, mirror⟩
    · exact ⟨deviceList, deviceApply, carrierList, actions, fetches, mirror⟩
  | fetchContent i =>
    show Unarmed { m with carrier := (m.carrier.fetchContent i).2 }
    rw [m.carrier.fetchContent_of_free (same.fetches_free i.id)]
    split <;> exact ⟨deviceList, deviceApply, carrierList, actions, fetches, mirror⟩
  | replaceMirror s =>
    show Unarmed { m with mirror := (m.mirror.replaceWith s).2 }
    rw [same.replaceWith_eq]
    exact ⟨deviceList, deviceApply, carrierList, actions, fetches, mirror⟩

end Unarmed

end Memory

end MailboxSync
