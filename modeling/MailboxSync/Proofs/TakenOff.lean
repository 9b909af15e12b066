import MailboxSync.Proofs.History
import MailboxSync.Proofs.Stores

namespace MailboxSync

/-- At this moment the user takes the message off the device, where it is. -/
def Moment.takesOff (x : Moment) (k : String) : Prop :=
  x.what = .event (.device (.remove k)) ∧ x.before.device.items.contains k = true

/-- At this moment a cycle deletes from the carrier a message that is there. -/
def Moment.erases (x : Moment) (k : String) : Prop :=
  ∃ a, x.what = .answered (.applyCarrier a) ∧ a.kind = .delete ∧ a.id = k ∧
    x.before.carrier.recordings.contains k = true

instance (x : Moment) (k : String) : Decidable (x.takesOff k) :=
  match same : x.what with
  | .event e => decidable_of_iff (e = .device (.remove k) ∧ x.before.device.items.contains k = true) (by
      simp [Moment.takesOff, same])
  | .answered _ | .failed _ _ => isFalse (by simp [Moment.takesOff, same])

instance (x : Moment) (k : String) : Decidable (x.erases k) :=
  match same : x.what with
  | .answered (.applyCarrier a) =>
    decidable_of_iff (a.kind = .delete ∧ a.id = k ∧ x.before.carrier.recordings.contains k = true) (by
      simp [Moment.erases, same])
  | .answered .listDevice | .answered .listCarrier | .answered .listMirror | .answered (.applyDevice _)
  | .answered (.storeContent _ _) | .answered (.fetchContent _) | .answered (.replaceMirror _)
  | .event _ | .failed _ _ => isFalse (by simp [Moment.erases, same])

/-- The carrier has the message no more, or the mirror has it on record: the absence from the device
cannot be taken for a new arrival. -/
def Memory.remembers (m : Memory) (k : String) : Prop :=
  m.carrier.recordings.contains k = false ∨ m.mirror.snapshot.contains k = true

instance (m : Memory) (k : String) : Decidable (m.remembers k) := by
  unfold Memory.remembers
  infer_instance

namespace History

abbrev OnDevice (h : History) (k : String) : Prop := h.now.device.items.contains k = true

abbrev OnCarrier (h : History) (k : String) : Prop := h.now.carrier.recordings.contains k = true

abbrev InMirror (h : History) (k : String) : Prop := h.now.mirror.snapshot.contains k = true

def TakenOff (h : History) (k : String) : Prop := ∃ x ∈ h.past, x.takesOff k

def SafelyTakenOff (h : History) (k : String) : Prop :=
  ∃ x ∈ h.past, x.takesOff k ∧ x.before.remembers k

/-- Every deletion of a message that was on the carrier was asked for by the user. -/
def Accounted (h : History) : Prop :=
  ∀ later x earlier k, h.past = later ++ x :: earlier → x.erases k → ∃ y ∈ earlier, y.takesOff k

/-- The name was given out and the carrier holds nothing under it. It never will again. -/
def Gone (h : History) (k : String) : Prop := h.knows k = true ∧ ¬h.OnCarrier k

/-- The name was given out, and not for something that a cycle on this family leaves alone. -/
def Native (h : History) (f : Family) (k : String) : Prop :=
  h.knows k = true ∧
    ∀ r, h.now.carrier.recordings.get? k = some r → r.item.isKeyed = true ∧ r.item.family = f

variable {h : History} {k : String} {what : Occurrence} {now : Memory} {f : Family}

theorem knows_iff : h.knows k = true ↔ h.now.names k = true ∨ ∃ x ∈ h.past, x.before.names k = true := by
  simp [knows]

theorem knows_note (known : h.knows k = true) : (h.note what now).knows k = true := by
  rw [knows_iff] at known ⊢
  right
  rcases known with present | ⟨x, mem, before⟩
  · exact ⟨_, List.mem_cons_self, present⟩
  · exact ⟨x, List.mem_cons_of_mem _ mem, before⟩

theorem OnDevice.knows (held : h.OnDevice k) : h.knows k = true :=
  knows_iff.mpr (Or.inl (by simp [Memory.names, held]))

theorem OnCarrier.knows (held : h.OnCarrier k) : h.knows k = true :=
  knows_iff.mpr (Or.inl (by simp [Memory.names, held]))

theorem TakenOff.knows (taken : h.TakenOff k) : h.knows k = true := by
  obtain ⟨x, mem, _, held⟩ := taken
  exact knows_iff.mpr (Or.inr ⟨x, mem, by simp [Memory.names, held]⟩)

theorem TakenOff.note (taken : h.TakenOff k) : (h.note what now).TakenOff k := by
  obtain ⟨x, mem, takes⟩ := taken
  exact ⟨x, List.mem_cons_of_mem _ mem, takes⟩

theorem SafelyTakenOff.note (taken : h.SafelyTakenOff k) : (h.note what now).SafelyTakenOff k := by
  obtain ⟨x, mem, takes⟩ := taken
  exact ⟨x, List.mem_cons_of_mem _ mem, takes⟩

theorem Accounted.note (accounted : h.Accounted)
    (asked : ∀ k, Moment.erases ⟨h.now, what⟩ k → h.TakenOff k) : (h.note what now).Accounted := by
  intro later x earlier k split erases
  cases later with
  | nil =>
    obtain ⟨rfl, rfl⟩ := List.cons.inj split
    exact asked k erases
  | cons y later =>
    obtain ⟨-, same⟩ := List.cons.inj split
    exact accounted later x earlier k same erases

/-- What is not a transaction of the device and not a renewal of the mirror: messages may leave
the device and the carrier, the device only at the user's hand, and names not known yet may arrive
at the carrier. -/
structure Gentle (h : History) (what : Occurrence) (now : Memory) : Prop where
  device : ∀ k i', now.device.items.get? k = some i' →
    ∃ i, h.now.device.items.get? k = some i ∧ i'.id = i.id ∧ i'.family = i.family
  kept : ∀ k, h.OnDevice k → now.device.items.contains k = true ∨ what = .event (.device (.remove k))
  removed : ∀ k, what = .event (.device (.remove k)) → now.device.items.contains k = false
  carrier : ∀ k, h.knows k = true → ∀ r', now.carrier.recordings.get? k = some r' →
    ∃ r, h.now.carrier.recordings.get? k = some r ∧ r'.item.id = r.item.id ∧
      r'.item.family = r.item.family
  mirror : now.mirror.snapshot = h.now.mirror.snapshot
  erases : ∀ k, Moment.erases ⟨h.now, what⟩ k → h.TakenOff k

namespace Gentle

variable (gentle : Gentle h what now)

include gentle

theorem onDevice (held : (h.note what now).OnDevice k) : h.OnDevice k := by
  rw [OnDevice, Shelf.contains_eq_isSome, Option.isSome_iff_exists] at held ⊢
  obtain ⟨i', found⟩ := held
  obtain ⟨i, before, _⟩ := gentle.device k i' found
  exact ⟨i, before⟩

theorem stays (held : h.OnDevice k) : (h.note what now).OnDevice k ∨ (h.note what now).TakenOff k := by
  rcases gentle.kept k held with still | rfl
  · exact Or.inl still
  · exact Or.inr ⟨_, List.mem_cons_self, rfl, held⟩

theorem inMirror : (h.note what now).InMirror k ↔ h.InMirror k := by
  show now.mirror.snapshot.contains k = true ↔ _
  rw [gentle.mirror]

theorem gone (gone : h.Gone k) : (h.note what now).Gone k := by
  refine ⟨knows_note gone.1, ?_⟩
  intro held
  rw [OnCarrier, Shelf.contains_eq_isSome, Option.isSome_iff_exists] at held
  obtain ⟨r', found⟩ := held
  obtain ⟨r, before, _⟩ := gentle.carrier k gone.1 r' found
  exact gone.2 (by rw [OnCarrier, Shelf.contains_eq_isSome, before]; rfl)

theorem native (native : h.Native f k) : (h.note what now).Native f k := by
  refine ⟨knows_note native.1, ?_⟩
  intro r' found
  obtain ⟨r, before, sameId, sameFamily⟩ := gentle.carrier k native.1 r' found
  obtain ⟨keyed, family⟩ := native.2 r before
  exact ⟨by rw [Item.isKeyed, sameId]; exact keyed, by rw [sameFamily, family]⟩

/-- A message newly taken off was on the device, which it is not any more. -/
theorem safelyTakenOff (taken : (h.note what now).SafelyTakenOff k) :
    h.SafelyTakenOff k ∨ h.OnDevice k ∧ ¬(h.note what now).OnDevice k ∧ h.now.remembers k := by
  obtain ⟨x, mem, ⟨remove, held⟩, remembers⟩ := taken
  rcases List.mem_cons.mp mem with rfl | old
  · refine Or.inr ⟨held, ?_, remembers⟩
    intro still
    have away := gentle.removed k remove
    rw [OnDevice] at still
    exact absurd (away.symm.trans still) (by decide)
  · exact Or.inl ⟨x, old, ⟨remove, held⟩, remembers⟩

end Gentle

/-- What the carrier holds comes from what it held, under the same names. -/
def Descends (c c' : Carrier) : Prop :=
  ∀ k r', c'.recordings.get? k = some r' →
    ∃ r, c.recordings.get? k = some r ∧ r'.item.id = r.item.id ∧ r'.item.family = r.item.family

theorem descends_of_eq {c c' : Carrier} (same : c'.recordings = c.recordings) : Descends c c' :=
  fun _ r' found => ⟨r', by rw [← same]; exact found, rfl, rfl⟩

theorem descends_markRead (c : Carrier) (id : String) : Descends c (c.markRead id) := by
  intro k r' found
  rw [c.get?_markRead] at found
  split at found
  · obtain ⟨r, before, rfl⟩ := Option.map_eq_some_iff.mp found
    exact ⟨r, before, rfl, rfl⟩
  · exact ⟨r', found, rfl, rfl⟩

theorem descends_remove (c : Carrier) (id : String) : Descends c (c.remove id) := by
  intro k r' found
  rw [c.get?_remove] at found
  split at found
  · cases found
  · exact ⟨r', found, rfl, rfl⟩

theorem descends_apply (c : Carrier) (a : Action) : Descends c (c.apply a).2 := by
  cases outcome : (c.apply a).1 with
  | error e => exact descends_of_eq (c.apply_error outcome)
  | ok _ =>
    rcases c.apply_ok outcome with ⟨_, same⟩ | ⟨_, _, same⟩
    · intro k r' found
      rw [same] at found
      exact descends_remove c a.id k r' found
    · intro k r' found
      rw [same] at found
      exact descends_markRead c a.id k r' found

namespace Gentle

theorem of_carrier {carrier : Carrier} (calm : ∀ k, what ≠ .event (.device (.remove k)))
    (asked : ∀ k, Moment.erases ⟨h.now, what⟩ k → h.TakenOff k)
    (descends : ∀ k, h.knows k = true → ∀ r', carrier.recordings.get? k = some r' →
      ∃ r, h.now.carrier.recordings.get? k = some r ∧ r'.item.id = r.item.id ∧
        r'.item.family = r.item.family) :
    Gentle h what { h.now with carrier } where
  device := fun _ i' found => ⟨i', found, rfl, rfl⟩
  kept := fun _ held => Or.inl held
  removed := fun k remove => absurd remove (calm k)
  carrier := descends
  mirror := rfl
  erases := asked

theorem of_device {device : Device} (calm : ∀ k, what ≠ .event (.device (.remove k)))
    (asked : ∀ k, Moment.erases ⟨h.now, what⟩ k → h.TakenOff k) {f : Item → Item} {id : String}
    (changed : ∀ k, device.items.get? k =
      if k = id then (h.now.device.items.get? k).map f else h.now.device.items.get? k)
    (alike : ∀ i, (f i).id = i.id ∧ (f i).family = i.family) :
    Gentle h what { h.now with device } where
  device := by
    intro k i' found
    rw [show Shelf.get? _ k = _ from changed k] at found
    split at found
    · obtain ⟨i, before, rfl⟩ := Option.map_eq_some_iff.mp found
      exact ⟨i, before, alike i⟩
    · exact ⟨i', found, rfl, rfl⟩
  kept := by
    intro k held
    left
    rw [OnDevice, Shelf.contains_eq_isSome] at held
    rw [Shelf.contains_eq_isSome, show Shelf.get? _ k = _ from changed k]
    split
    · rw [Option.isSome_map, held]
    · exact held
  removed := fun k remove => absurd remove (calm k)
  carrier := fun _ _ r' found => ⟨r', found, rfl, rfl⟩
  mirror := rfl
  erases := asked

theorem of_same (calm : ∀ k, what ≠ .event (.device (.remove k)))
    (asked : ∀ k, Moment.erases ⟨h.now, what⟩ k → h.TakenOff k)
    (device : now.device.items = h.now.device.items)
    (carrier : now.carrier.recordings = h.now.carrier.recordings)
    (mirror : now.mirror.snapshot = h.now.mirror.snapshot) : Gentle h what now where
  device := fun _ i' found => ⟨i', by rw [← device]; exact found, rfl, rfl⟩
  kept := fun _ held => Or.inl (by rw [device]; exact held)
  removed := fun k remove => absurd remove (calm k)
  carrier := fun k _ => descends_of_eq carrier k
  mirror := mirror
  erases := asked

end Gentle

theorem gentle_remove (id : String) :
    Gentle h (.event (.device (.remove id))) (h.now.happen (.device (.remove id))) := by
  have after : ∀ k, (h.now.happen (.device (.remove id))).device.items.get? k =
      if k = id then none else h.now.device.items.get? k := h.now.device.get?_remove id
  constructor
  · intro k i' found
    rw [after] at found
    split at found
    · cases found
    · exact ⟨i', found, rfl, rfl⟩
  · intro k held
    by_cases own : k = id
    · exact Or.inr (by rw [own])
    · left
      rw [Shelf.contains_eq_isSome, after, if_neg own, ← Shelf.contains_eq_isSome]
      exact held
  · intro k same
    obtain rfl : id = k := by simpa using same
    rw [Shelf.contains_eq_isSome, after, if_pos rfl]
    rfl
  · exact fun _ _ r' found => ⟨r', found, rfl, rfl⟩
  · rfl
  · rintro k ⟨a, command, _⟩
    cases command

/-- All that may come from outside is gentle. -/
theorem gentle_event {e : Event} (admitted : h.admits e = true) :
    Gentle h (.event e) (h.now.happen e) := by
  have asked : ∀ k, Moment.erases ⟨h.now, .event e⟩ k → h.TakenOff k := by
    rintro k ⟨a, command, _⟩
    cases command
  match e with
  | .device (.remove id) => exact gentle_remove id
  | .device (.read id) =>
    exact .of_device (fun k same => by cases same) asked (h.now.device.get?_markRead id)
      fun _ => ⟨rfl, rfl⟩
  | .carrier (.arrive i p) =>
    refine .of_carrier (fun k same => by cases same) asked ?_
    intro k known r' found
    have other : ¬i.id = k := by
      rintro rfl
      simp [admits, known] at admitted
    have after : (h.now.carrier.put i p).recordings.get? k = some r' := found
    rw [h.now.carrier.get?_put, if_neg other] at after
    exact ⟨r', after, rfl, rfl⟩
  | .carrier (.read id) =>
    exact .of_carrier (fun k same => by cases same) asked fun k _ => descends_markRead _ id k
  | .carrier (.remove id) =>
    exact .of_carrier (fun k same => by cases same) asked fun k _ => descends_remove _ id k

theorem gentle_failed (r : Request) (e : Failure) : Gentle h (.failed r e) h.now := by
  refine .of_same (fun k same => by cases same) ?_ rfl rfl rfl
  rintro k ⟨a, command, _⟩
  cases command

/-- A call that is answered is gentle, unless it carries out a transaction or renews the mirror, or
erases what nobody took off. -/
theorem gentle_answered (r : Request)
    (refused : r.method = .applyDevice ∨ r.method = .replaceMirror → ∃ e, (h.now.answer r).1 = .error e)
    (asked : ∀ k, Moment.erases ⟨h.now, .answered r⟩ k → h.TakenOff k) :
    Gentle h (.answered r) (h.now.answer r).2 := by
  have calm : ∀ k, Occurrence.answered r ≠ .event (.device (.remove k)) := fun k same => by cases same
  cases r with
  | listDevice => exact .of_same calm asked h.now.device.items_list rfl rfl
  | listCarrier => exact .of_same calm asked rfl h.now.carrier.recordings_list rfl
  | listMirror => exact .of_same calm asked rfl rfl rfl
  | applyDevice actions =>
    obtain ⟨e, answer⟩ := refused (Or.inl rfl)
    exact .of_same calm asked (h.now.device.apply_error answer).1 rfl rfl
  | storeContent i p =>
    exact .of_device calm asked (h.now.device.get?_storeContent i p) fun _ => ⟨rfl, rfl⟩
  | applyCarrier a => exact .of_carrier calm asked fun k _ => descends_apply _ a k
  | fetchContent i => exact .of_same calm asked rfl (h.now.carrier.recordings_fetchContent i) rfl
  | replaceMirror s =>
    obtain ⟨e, answer⟩ := refused (Or.inr rfl)
    exact .of_same calm asked rfl rfl (h.now.mirror.replaceWith_error s answer)

end History

end MailboxSync
