import MailboxSync.Proofs.CycleKeepsLedger

namespace MailboxSync

open Program (ask)

namespace History

variable {p : Policy} {h : History} {k : String}

/-- What no call has been made to fail for, and the device has not, a transaction brings in. -/
theorem performAll_plan_ok (ledger : Ledger .voicemail h) (carrier mirror : Snapshot) :
    ∃ after, h.now.device.items.performAll (p.plan (classify (h.now.device.snapshot.retain .voicemail)
      carrier mirror)).device.toList = .ok after := by
  refine Folder.performAll_ok (fun a mem => Policy.isValidFor_device_of_mem _ _ _ mem)
    (ActionList.distinct _) ?_
  intro a mem kind
  have absent := Policy.get?_eq_none_of_insert _ _ _ mem kind
  rw [← ledger.contains_device, Snapshot.contains_eq_isSome, absent]
  rfl

/-- A message that the user took off, that the carrier still has, and that the mirror does not know
of comes back if a cycle is left to run. -/
theorem meets_onDevice (voicemail : p.family = .voicemail) (ledger : Ledger .voicemail h)
    (unarmed : h.now.Unarmed) (off : ¬h.OnDevice k)
    (has : (h.now.carrier.snapshot.retain .voicemail).contains k = true) (unknown : ¬h.InMirror k) :
    p.cycle.Meets replies (fun h => h.OnDevice k) h := by
  unfold Policy.cycle
  refine .after (ends_ask unarmed.answer_listDevice) ?_
  refine .after (ends_ask (h := h.note _ h.now) unarmed.answer_listCarrier) ?_
  refine .after (ends_ask (h := (h.note _ h.now).note _ h.now) (x := .ok h.now.mirror.snapshot)
    (m := h.now) rfl) ?_
  have lacks : (h.now.device.snapshot.retain .voicemail).contains k = false := by
    rw [ledger.contains_device]
    simpa using off
  have unseen : (h.now.mirror.snapshot.retain .voicemail).contains k = false := by
    rw [ledger.contains_mirror]
    simpa using unknown
  obtain ⟨after, done⟩ := performAll_plan_ok (p := p) ledger (h.now.carrier.snapshot.retain .voicemail)
    (h.now.mirror.snapshot.retain .voicemail)
  have brought := Policy.brought_of_performAll_plan voicemail ledger.sawDevice.sawCarrier.family done
    lacks unseen has
  simp only [Policy.planFor_eq, voicemail]
  refine .bind (.bind ?_ _) _
  unfold ActionList.commit
  split
  · next nothing =>
    rw [List.isEmpty_iff.mp nothing] at done
    cases done
    exact absurd brought off
  · split
    · next bad found =>
      have valid := Policy.isValidFor_device_of_mem _ _ _ (List.mem_of_find?_eq_some found)
      simpa [valid] using List.find?_some found
    · refine .bind (.ask (Or.inl ⟨rfl, rfl⟩) ?_) _
      show ((h.now.answer (.applyDevice _)).2.device.items.contains k) = true
      rw [unarmed.answer_applyDevice done]
      exact brought

end History

namespace System

open History

variable {p : Policy} {s t : System} {k : String}

theorem Step.safelyTakenOff (step : Step p s t) (taken : s.history.SafelyTakenOff k) :
    t.history.SafelyTakenOff k := by
  rcases step.history with same | ⟨what, now, same⟩
  · rw [same]
    exact taken
  · rw [same]
    exact taken.note

theorem safelyTakenOff_of_reaches (run : Reaches p s t) (taken : s.history.SafelyTakenOff k) :
    t.history.SafelyTakenOff k := by
  induction run with
  | refl => exact taken
  | tail _ step ih => exact step.safelyTakenOff ih

theorem sound_of_reaches (voicemail : p.family = .voicemail) (sound : Sound (Ledger .voicemail) s)
    (run : Reaches p s t) : Sound (Ledger .voicemail) t := by
  refine sound.reaches ?_ (fun h ledger => leads_cycle voicemail ledger) run
  rintro h _ ⟨e, admitted, rfl⟩ ledger
  exact ledger.gentle (gentle_event admitted)

theorem Step.unarmed (step : Step p s t) (unarmed : s.history.now.Unarmed) :
    t.history.now.Unarmed := by
  rcases step.cases with ⟨⟨e, _, happened⟩, _⟩ | ⟨_, rfl⟩ | ⟨r, next, x, h, _, reply, rfl⟩ | ⟨x, _, rfl⟩
  · rw [happened]
    exact unarmed.happen e
  · exact unarmed
  · rcases reply with ⟨_, rfl⟩ | ⟨e, _, rfl⟩
    · exact unarmed.answer r
    · exact unarmed
  · exact unarmed

theorem unarmed_of_reaches (run : Reaches p s t) (unarmed : s.history.now.Unarmed) :
    t.history.now.Unarmed := by
  induction run with
  | refl => exact unarmed
  | tail _ step ih => exact step.unarmed ih

/-- No message is erased from the carrier that the user has not taken off the device before. -/
theorem takenOff_before_erased (voicemail : p.family = .voicemail) (run : Reaches p {} s)
    (later : List Moment) {earlier : List Moment} {x : Moment}
    (split : s.history.past = later ++ x :: earlier)
    (erases : x.erases k) : ∃ y ∈ earlier, y.takesOff k := by
  have sound := sound_of_reaches voicemail (s := {}) (ledger_empty .voicemail) run
  exact sound.now.accounted later x earlier k split erases

/-- A message arrives, comes in with a first cycle, is taken off, and the next cycle erases it. -/
def erasure : List Move :=
  [.event (.carrier (.arrive (.voicemail "a") ⟨#[], ""⟩)), .start, .answer, .answer, .answer, .answer,
    .answer, .finish, .event (.device (.remove "a")), .start, .answer, .answer, .answer, .answer]

theorem takenOff_before_erasure : ∃ s later x earlier, Reaches .fullSync {} s ∧
    s.history.past = later ++ x :: earlier ∧ x.erases "a" ∧ ∃ y ∈ earlier, y.takesOff "a" := by
  have run := reaches_getD (p := .fullSync) (s := {}) erasure (by decide +kernel)
  have latest : ∀ x ∈ ((moves .fullSync {} erasure).getD {}).history.past.head?, x.erases "a" := by
    decide +kernel
  have nonempty : ((moves .fullSync {} erasure).getD {}).history.past.isEmpty = false := by
    decide +kernel
  obtain ⟨x, earlier, split⟩ := List.exists_cons_of_ne_nil (List.isEmpty_eq_false_iff.mp nonempty)
  have erases := latest x (by rw [split]; rfl)
  exact ⟨_, [], x, earlier, run, split, erases, takenOff_before_erased rfl run [] split erases⟩

/-- A message that the user takes off can come back if, and only if, at that moment the carrier has
it and the mirror does not know of it yet. -/
theorem comes_back_iff (voicemail : p.family = .voicemail) (run : Reaches p {} s)
    (held : s.history.OnDevice k) :
    (∃ t, Reaches p ⟨s.history.happen (.device (.remove k)), s.cycle⟩ t ∧ t.history.OnDevice k) ↔
      ¬s.history.now.remembers k := by
  have removal : Step p s ⟨s.history.happen (.device (.remove k)), s.cycle⟩ := Step.event rfl
  have start : Sound (Ledger .voicemail) (⟨s.history.happen (.device (.remove k)), s.cycle⟩ : System) :=
    sound_of_reaches voicemail (s := {}) (ledger_empty .voicemail) (run.tail removal)
  constructor
  · rintro ⟨t, rest, back⟩ remembers
    have taken : (s.history.happen (.device (.remove k))).SafelyTakenOff k :=
      ⟨_, List.mem_cons_self, ⟨rfl, held⟩, remembers⟩
    have sound := sound_of_reaches voicemail start rest
    exact (sound.now.stayOff k (safelyTakenOff_of_reaches rest taken)).1 back
  · intro forgotten
    obtain ⟨present, unknown⟩ : s.history.OnCarrier k ∧ ¬s.history.InMirror k := by
      simpa [Memory.remembers] using forgotten
    have before := sound_of_reaches voicemail (s := {}) (ledger_empty .voicemail) run
    have has := (before.now.native k (Or.inl held)).contains_carrier.mpr present
    obtain ⟨h, idle, same⟩ : ∃ h, Reaches p ⟨s.history.happen (.device (.remove k)), s.cycle⟩ ⟨h, none⟩ ∧
        h.now = (s.history.happen (.device (.remove k))).now := by
      cases underway : s.cycle with
      | none => exact ⟨_, .refl, rfl⟩
      | some q => exact reaches_idle q _
    have ledger : Ledger .voicemail h := (sound_of_reaches voicemail start idle).now
    have unarmed : h.now.Unarmed := by
      rw [same]
      exact (unarmed_of_reaches run ⟨rfl, rfl, rfl, rfl, rfl, rfl⟩).happen
        (.device (.remove k))
    have off : ¬h.OnDevice k := by
      rw [OnDevice, same, Bool.not_eq_true]
      exact (gentle_remove (h := s.history) k).removed k rfl
    obtain ⟨t, rest, back⟩ := reaches_of_meets (p := p) (meets_onDevice voicemail ledger unarmed off
      (by rw [same]; exact has) (by rw [InMirror, same]; exact unknown))
    exact ⟨t, idle.trans (.head .start rest), back⟩

/-- A message arrives and comes in, but the mirror cannot be written. -/
def unrecordedArrival : List Move :=
  [.event (.carrier (.arrive (.voicemail "a") ⟨#[], ""⟩)), .start, .answer, .answer, .answer, .answer,
    .fail (.database "disk full"), .finish]

theorem unrecordedArrival_comes_back : ∃ s, Reaches .fullSync {} s ∧ s.history.OnDevice "a" ∧
    ∃ t, Reaches .fullSync ⟨s.history.happen (.device (.remove "a")), s.cycle⟩ t ∧
      t.history.OnDevice "a" := by
  have run := reaches_getD (p := .fullSync) (s := {}) unrecordedArrival (by decide +kernel)
  have held : ((moves .fullSync {} unrecordedArrival).getD {}).history.OnDevice "a" := by
    decide +kernel
  have forgotten : ¬((moves .fullSync {} unrecordedArrival).getD {}).history.now.remembers "a" := by
    decide +kernel
  exact ⟨_, run, held, (comes_back_iff rfl run held).mpr forgotten⟩

end System

end MailboxSync
