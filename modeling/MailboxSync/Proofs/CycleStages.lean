import MailboxSync.Proofs.PlanByName
import MailboxSync.Proofs.TakenOff
import MailboxSync.Proofs.Transaction

namespace MailboxSync

namespace History

/-- What is true all through a run. -/
structure Ledger (f : Family) (h : History) : Prop where
  listed : ∀ k i, h.now.device.items.get? k = some i → i.isKeyed = true ∧ i.family = f
  recorded : ∀ k i, h.now.mirror.snapshot.get? k = some i → i.family = f
  native : ∀ k, h.OnDevice k ∨ h.InMirror k → h.Native f k
  remembered : ∀ k, h.InMirror k → h.OnDevice k ∨ h.TakenOff k ∨ h.Gone k
  stayOff : ∀ k, h.SafelyTakenOff k → ¬h.OnDevice k ∧ (h.Gone k ∨ h.InMirror k)
  accounted : h.Accounted

/-- The device has been listed. -/
structure SawDevice (f : Family) (device : Snapshot) (h : History) : Prop where
  ledger : Ledger f h
  absent : ∀ k, device.contains k = false → ¬h.OnDevice k
  present : ∀ k, device.contains k = true → (h.OnDevice k ∨ h.TakenOff k) ∧ h.Native f k

/-- Then the carrier has been listed. -/
structure SawCarrier (f : Family) (device carrier : Snapshot) (h : History) : Prop
    extends SawDevice f device h where
  family : ∀ k i, carrier.get? k = some i → i.family = f
  native : ∀ k, carrier.contains k = true → h.Native f k
  gone : ∀ k, carrier.contains k = false → device.contains k = true ∨ h.InMirror k → h.Gone k
  stayOff : ∀ k, carrier.contains k = true → device.contains k = false → h.SafelyTakenOff k →
    h.InMirror k

/-- Then the mirror has been listed. -/
structure SawMirror (f : Family) (device carrier mirror : Snapshot) (h : History) : Prop
    extends SawCarrier f device carrier h where
  same : ∀ k, mirror.contains k = true ↔ h.InMirror k
  missed : ∀ k, mirror.contains k = true → device.contains k = false → h.TakenOff k ∨ h.Gone k

/-- This may become the mirror. -/
structure Recordable (f : Family) (listing : Snapshot) (h : History) : Prop where
  family : ∀ k i, listing.get? k = some i → i.family = f
  native : ∀ k, listing.contains k = true →
    h.Native f k ∧ (h.OnDevice k ∨ h.TakenOff k ∨ h.Gone k)
  gone : ∀ k, listing.contains k = false → h.InMirror k → h.Gone k

/-- The transaction is over. If it was not taken back, what the carrier listed may be recorded. -/
structure Transacted (f : Family) (device carrier mirror : Snapshot) (settled : Bool) (h : History) :
    Prop where
  ledger : Ledger f h
  missed : ∀ k, mirror.contains k = true → device.contains k = false → h.TakenOff k ∨ h.Gone k
  recordable : settled = true → Recordable f carrier h

/-- Commands have been tried. What they deleted is gone. -/
structure Attempted (f : Family) (device carrier mirror : Snapshot) (settled : Bool)
    (sent : CarrierOutcome) (h : History) : Prop
    extends Transacted f device carrier mirror settled h where
  gone : ∀ a ∈ sent.completed, a.kind = .delete → h.Gone a.id

variable {h : History} {what : Occurrence} {now : Memory} {f : Family}
  {device carrier mirror listing : Snapshot} {settled : Bool} {sent : CarrierOutcome}

theorem Ledger.gentle (ledger : Ledger f h) (gentle : Gentle h what now) :
    Ledger f (h.note what now) where
  listed := by
    intro k i' found
    obtain ⟨i, before, sameId, sameFamily⟩ := gentle.device k i' found
    obtain ⟨keyed, family⟩ := ledger.listed k i before
    exact ⟨by rw [Item.isKeyed, sameId]; exact keyed, by rw [sameFamily, family]⟩
  recorded := by
    intro k i found
    refine ledger.recorded k i ?_
    rw [← gentle.mirror]
    exact found
  native := by
    intro k held
    rw [gentle.inMirror] at held
    exact gentle.native (ledger.native k (held.imp_left gentle.onDevice))
  remembered := by
    intro k known
    rcases ledger.remembered k (gentle.inMirror.mp known) with held | taken | gone
    · rcases gentle.stays held with still | taken
      · exact Or.inl still
      · exact Or.inr (Or.inl taken)
    · exact Or.inr (Or.inl taken.note)
    · exact Or.inr (Or.inr (gentle.gone gone))
  stayOff := by
    intro k taken
    rcases gentle.safelyTakenOff taken with before | ⟨held, off, remembers⟩
    · obtain ⟨off, gone⟩ := ledger.stayOff k before
      exact ⟨fun held => off (gentle.onDevice held), gone.imp gentle.gone gentle.inMirror.mpr⟩
    · refine ⟨off, ?_⟩
      rcases remembers with away | known
      · exact Or.inl (gentle.gone ⟨held.knows, by rw [OnCarrier, away]; decide⟩)
      · exact Or.inr (gentle.inMirror.mpr known)
  accounted := ledger.accounted.note gentle.erases

theorem SawDevice.gentle (saw : SawDevice f device h) (gentle : Gentle h what now) :
    SawDevice f device (h.note what now) where
  ledger := saw.ledger.gentle gentle
  absent := fun k lacks held => saw.absent k lacks (gentle.onDevice held)
  present := by
    intro k has
    obtain ⟨held | taken, native⟩ := saw.present k has
    · exact ⟨gentle.stays held, gentle.native native⟩
    · exact ⟨Or.inr taken.note, gentle.native native⟩

theorem SawCarrier.gentle (saw : SawCarrier f device carrier h) (gentle : Gentle h what now) :
    SawCarrier f device carrier (h.note what now) where
  toSawDevice := saw.toSawDevice.gentle gentle
  family := saw.family
  native := fun k has => gentle.native (saw.native k has)
  gone := by
    intro k lacks known
    rw [gentle.inMirror] at known
    exact gentle.gone (saw.gone k lacks known)
  stayOff := by
    intro k has lacks taken
    rw [gentle.inMirror]
    rcases gentle.safelyTakenOff taken with before | ⟨held, _⟩
    · exact saw.stayOff k has lacks before
    · exact absurd held (saw.absent k lacks)

theorem SawMirror.gentle (saw : SawMirror f device carrier mirror h) (gentle : Gentle h what now) :
    SawMirror f device carrier mirror (h.note what now) where
  toSawCarrier := saw.toSawCarrier.gentle gentle
  same := fun k => (saw.same k).trans gentle.inMirror.symm
  missed := fun k known lacks => (saw.missed k known lacks).imp TakenOff.note gentle.gone

theorem Recordable.gentle (recordable : Recordable f listing h) (gentle : Gentle h what now) :
    Recordable f listing (h.note what now) where
  family := recordable.family
  native := by
    intro k has
    obtain ⟨native, held | taken | gone⟩ := recordable.native k has
    · rcases gentle.stays held with still | taken
      · exact ⟨gentle.native native, Or.inl still⟩
      · exact ⟨gentle.native native, Or.inr (Or.inl taken)⟩
    · exact ⟨gentle.native native, Or.inr (Or.inl taken.note)⟩
    · exact ⟨gentle.native native, Or.inr (Or.inr (gentle.gone gone))⟩
  gone := fun k lacks known => gentle.gone (recordable.gone k lacks (gentle.inMirror.mp known))

theorem Transacted.gentle (done : Transacted f device carrier mirror settled h)
    (gentle : Gentle h what now) : Transacted f device carrier mirror settled (h.note what now) where
  ledger := done.ledger.gentle gentle
  missed := fun k known lacks => (done.missed k known lacks).imp TakenOff.note gentle.gone
  recordable := fun settled => (done.recordable settled).gentle gentle

theorem Attempted.gentle (done : Attempted f device carrier mirror settled sent h)
    (gentle : Gentle h what now) :
    Attempted f device carrier mirror settled sent (h.note what now) where
  toTransacted := done.toTransacted.gentle gentle
  gone := fun a mem delete => gentle.gone (done.gone a mem delete)

theorem ledger_empty (f : Family) : Ledger f {} where
  listed := by
    intro k i found
    cases found
  recorded := by
    intro k i found
    cases found
  native := by
    rintro k (held | known)
    · cases held
    · cases known
  remembered := by
    intro k known
    cases known
  stayOff := by
    rintro k ⟨x, mem, _⟩
    cases mem
  accounted := by
    intro later x earlier k split
    simp at split

/-! Each call of a cycle takes the run from one stage to the next. -/

/-- Of the device and of the mirror the listings of the family tell all. -/
theorem Ledger.contains_device (ledger : Ledger f h) (k : String) :
    (h.now.device.snapshot.retain f).contains k = h.now.device.items.contains k := by
  rw [Snapshot.contains_eq_isSome, Snapshot.get?_retain, Device.get?_snapshot, Shelf.contains_eq_isSome]
  cases found : h.now.device.items.get? k with
  | none => rfl
  | some i =>
    obtain ⟨keyed, family⟩ := ledger.listed k i found
    simp [keyed, family]

theorem Ledger.contains_mirror (ledger : Ledger f h) (k : String) :
    (h.now.mirror.snapshot.retain f).contains k = h.now.mirror.snapshot.contains k := by
  rw [Snapshot.contains_eq_isSome, Snapshot.get?_retain, Snapshot.contains_eq_isSome]
  cases found : h.now.mirror.snapshot.get? k with
  | none => rfl
  | some i => simp [ledger.recorded k i found]

theorem contains_carrier_iff {k : String} : (h.now.carrier.snapshot.retain f).contains k = true ↔
    ∃ r, h.now.carrier.recordings.get? k = some r ∧ r.item.isKeyed = true ∧ r.item.family = f := by
  rw [Snapshot.contains_eq_isSome, Snapshot.get?_retain, Carrier.get?_snapshot]
  cases found : h.now.carrier.recordings.get? k with
  | none => simp
  | some r => cases keyed : r.item.isKeyed <;> simp [keyed]

/-- Of the carrier they tell all about a name that is known to be of the family. -/
theorem Native.contains_carrier {k : String} (native : h.Native f k) :
    (h.now.carrier.snapshot.retain f).contains k = true ↔ h.OnCarrier k := by
  rw [contains_carrier_iff, OnCarrier, Shelf.contains_eq_isSome, Option.isSome_iff_exists]
  constructor
  · rintro ⟨r, found, _⟩
    exact ⟨r, found⟩
  · rintro ⟨r, found⟩
    exact ⟨r, found, native.2 r found⟩

theorem Ledger.sawDevice (ledger : Ledger f h) : SawDevice f (h.now.device.snapshot.retain f) h where
  ledger := ledger
  absent := by
    intro k lacks
    rw [ledger.contains_device] at lacks
    rw [OnDevice, lacks]
    decide
  present := by
    intro k has
    rw [ledger.contains_device] at has
    exact ⟨Or.inl has, ledger.native k (Or.inl has)⟩

theorem SawDevice.sawCarrier (saw : SawDevice f device h) :
    SawCarrier f device (h.now.carrier.snapshot.retain f) h where
  toSawDevice := saw
  family := by
    intro k i found
    rw [Snapshot.get?_retain] at found
    simpa using (Option.filter_eq_some_iff.mp found).2
  native := by
    intro k has
    obtain ⟨r, found, listed⟩ := contains_carrier_iff.mp has
    have held : h.OnCarrier k := by
      rw [OnCarrier, Shelf.contains_eq_isSome, found]
      rfl
    refine ⟨held.knows, ?_⟩
    intro r' found'
    cases found.symm.trans found'
    exact listed
  gone := by
    intro k lacks known
    have native : h.Native f k := by
      rcases known with has | inMirror
      · exact (saw.present k has).2
      · exact saw.ledger.native k (Or.inr inMirror)
    refine ⟨native.1, ?_⟩
    rw [← native.contains_carrier, lacks]
    decide
  stayOff := by
    intro k has _ taken
    rcases (saw.ledger.stayOff k taken).2 with gone | known
    · obtain ⟨r, found, _⟩ := contains_carrier_iff.mp has
      refine absurd ?_ gone.2
      rw [OnCarrier, Shelf.contains_eq_isSome, found]
      rfl
    · exact known

theorem SawCarrier.sawMirror (saw : SawCarrier f device carrier h) :
    SawMirror f device carrier (h.now.mirror.snapshot.retain f) h where
  toSawCarrier := saw
  same := fun k => by rw [saw.ledger.contains_mirror]
  missed := by
    intro k known lacks
    rw [saw.ledger.contains_mirror] at known
    rcases saw.ledger.remembered k known with held | missed
    · exact absurd held (saw.absent k lacks)
    · exact missed

end History

end MailboxSync
