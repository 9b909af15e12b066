import MailboxSync.Proofs.Convergence
import MailboxSync.Proofs.ReadMarks

namespace MailboxSync

open Memory
open Program (Ends)

namespace Slot

variable {p : Policy} {s t u : Slot} {k : String} {cs : List Action} {i j : Item}

/-- What a cycle that completes makes of a message that device and carrier both have in the end. The
commands `cs` were carried out, among them all marks that were asked for. -/
theorem marks_agree (voicemail : p.family = .voicemail) (listed : ∀ i, s.Holds i → i.listed .voicemail = true)
    (named : ∀ i, s.Holds i → i.id = k)
    (obeys : Obeys True (s.plan p).carrier.toList
      (s.transacted (Action.alterAll (s.plan p).device.toList k)) cs u)
    (after : t = { u with mirror := cs.foldl (fun x a => a.observe x) (s.heard p.family) })
    (marked : ∀ a ∈ (s.plan p).carrier.toList, a.kind = .markAsRead → a ∈ cs)
    (item : t.item = some i) {r' : Recording} (recording : t.recording = some r') :
    ∃ x, t.mirror = some x ∧ i.isRead = (isRead s.item || isRead (s.recording.map Recording.item)) ∧
      r'.item.isRead = i.isRead ∧ x.isRead = i.isRead := by
  have turns : s.Turns p True (Action.alterAll (s.plan p).device.toList k) true true t :=
    ⟨cs, u, obeys, after⟩
  obtain ⟨d, content, c, m⟩ := s
  cases d with
  | none =>
    cases c with
    | none =>
      obtain ⟨_, rfl, _⟩ := turns.gone voicemail listed named
      cases item
    | some r =>
      cases m with
      | none =>
        have outcome := turns.arrived voicemail listed named
        subst outcome
        cases item
        cases recording
        exact ⟨_, rfl, rfl, rfl, rfl⟩
      | some i' =>
        rcases turns.takenOff voicemail listed named with ⟨_, rfl, _⟩ | ⟨_, _, rfl⟩
        · cases item
        · cases item
  | some d =>
    cases c with
    | none =>
      have outcome := turns.vanished voicemail listed named
      subst outcome
      cases p with
      | greetingSync probe => cases voicemail
      | fullSync | noLocalDeletion => cases recording
    | some r =>
      rw [carrier_plan_of_listed voicemail listed named] at obeys marked
      rw [plan_of_listed voicemail listed, Option.map_some,
        transacted_shared voicemail (named d (Or.inl rfl))] at obeys
      have content : (if r.item.isRead then d.markRead else d).hasContent = d.hasContent := by
        split <;> rfl
      obtain ⟨d', x', r'', rfl, _, read, _, observed, _, sure⟩ := obeys.of_commands content
      have near : d'.isRead = (d.isRead || r.item.isRead) := by
        rw [read]
        cases far : r.item.isRead <;> simp [Item.markRead]
      have far : r''.item.isRead = (d.isRead || r.item.isRead) := by
        rw [sure (Or.inr marked)]
        cases d.isRead <;> simp [Recording.markRead, Item.markRead]
      subst after
      cases item
      cases recording
      rw [voicemail, heard_of_listed listed]
      exact ⟨r'.item, observed, near, far.trans near.symm, far.trans near.symm⟩

end Slot

namespace Policy

variable {p : Policy} {m m' : Memory}

/-- Under every name that device and carrier both list in the end, and whose mark did not fail, the
three stores have the same mark: the item is read if it was read on the device or at the carrier. -/
def MarksAgree (p : Policy) (m : Memory) (r : Report) (m' : Memory) : Prop :=
  ∀ k i j, (m'.device.snapshot.retain p.family).get? k = some i →
    (m'.carrier.snapshot.retain p.family).get? k = some j →
    (∀ a e, (a, e) ∈ r.warnings → a.id = k → a.kind ≠ .markAsRead) →
    ∃ x, m'.mirror.snapshot.get? k = some x ∧
      i.isRead = (isRead ((m.device.snapshot.retain p.family).get? k) ||
        isRead ((m.carrier.snapshot.retain p.family).get? k)) ∧
      j.isRead = i.isRead ∧ x.isRead = i.isRead

theorem marksAgree_of_ends (voicemail : p.family = .voicemail) (apart : m.FamiliesApart) {r : Report}
    (ends : Ends (reacts True) p.cycle m (.ok r) m') : p.MarksAgree m r m' := by
  intro k i j onDevice onCarrier succeeded
  -- Faults that were armed are calls that fail.
  have quiet := ends_disarmed ends
  obtain ⟨tried, effects⟩ := obeys_of_completed m.unarmed_disarmed quiet
  obtain ⟨u, obeys, after⟩ := effects k
  rw [Snapshot.get?_observeAll, Carrier.get?_retain_snapshot] at after
  have turns : (m.disarmed.slot k).Turns p True (p.alters m.disarmed k) true true (m'.disarmed.slot k) :=
    ⟨_, u, obeys, after⟩
  have descends : (m.slot k).Descends (m'.slot k) := descends_of_turns turns
  rw [alters_of_voicemail voicemail] at obeys
  rw [Device.get?_retain_snapshot] at onDevice ⊢
  rw [Carrier.get?_retain_snapshot] at onCarrier ⊢
  obtain ⟨item, listedI⟩ := Option.filter_eq_some_iff.mp onDevice
  obtain ⟨r', heard, rfl⟩ := Option.map_eq_some_iff.mp onCarrier
  have recording := (Option.filter_eq_some_iff.mp heard).1
  rw [voicemail] at listedI ⊢
  have listed : ∀ i, (m.slot k).Holds i → i.listed .voicemail = true := by
    rcases apart.apart .voicemail k with listed | unlisted
    · exact listed
    · rw [Slot.unlisted_of_descends unlisted descends i (Or.inl item)] at listedI
      cases listedI
  have marked : ∀ a ∈ ((m.slot k).plan p).carrier.toList, a.kind = .markAsRead →
      a ∈ r.carrier.completed.filter fun a => a.id = k := by
    intro a mem kind
    rw [← filter_carrier_planOf, List.mem_filter, decide_eq_true_eq] at mem
    rw [List.mem_filter, decide_eq_true_eq]
    rcases tried.mem_iff.mp mem.1 with completed | failed
    · exact ⟨completed, mem.2⟩
    · obtain ⟨⟨_, e⟩, warned, rfl⟩ := List.mem_map.mp failed
      exact absurd kind (succeeded _ e warned mem.2)
  obtain ⟨x, mirror, near, far, known⟩ := Slot.marks_agree voicemail listed (fun _ held => id_of_holds held)
    obeys after marked item recording
  rw [Slot.seen_of_listed listed, Slot.heard_of_listed listed]
  exact ⟨x, mirror, near, far, known⟩

/-- Read marks last. On the device and at the carrier an item that was read is read for as long as it
stays there, whatever happens and whatever fails. And a policy for messages brings the marks of the
three stores together: a cycle that completes undisturbed leaves a message read everywhere if it was
read anywhere, save where the carrier refused the mark. -/
theorem read_marks_last (p : Policy) :
    (∀ h s t k, System.Reaches p ⟨h, none⟩ s →
        (System.Stays p (deviceItem k) s t → isRead (s.history.now.deviceItem k) = true →
          isRead (t.history.now.deviceItem k) = true) ∧
        (System.Stays p (carrierItem k) s t → isRead (s.history.now.carrierItem k) = true →
          isRead (t.history.now.carrierItem k) = true)) ∧
      (p.family = .voicemail → ∀ m r m', m.FamiliesApart → Ends (reacts True) p.cycle m (.ok r) m' →
        p.MarksAgree m r m') := by
  refine ⟨?_, ?_⟩
  · intro h s t k run
    exact ⟨fun stays => stays.read (fun asks step => (step.keepsMarks asks k).1) run,
      fun stays => stays.read (fun asks step => (step.keepsMarks asks k).2) run⟩
  · intro voicemail m r m' apart ends
    exact marksAgree_of_ends voicemail apart ends

/-- The user has listened to a message, and the carrier does not know it yet. -/
def listened : Memory where
  device := ({} : Device).seed [{ Item.voicemail "a" with isRead := true }]
  carrier := ({} : Carrier).seed [.voicemail "a"]
  mirror := ({} : Mirror).seed [.voicemail "a"]

theorem listened_lasts :
    (∃ t, System.Stays fullSync (deviceItem "a") ⟨⟨listened, []⟩, none⟩ t ∧ t.history.past.length = 2 ∧
        isRead (t.history.now.deviceItem "a") = true) ∧
      ∃ r, Ends (reacts True) fullSync.cycle listened (.ok r) (fullSync.sync listened) ∧
        fullSync.MarksAgree listened r (fullSync.sync listened) ∧
        isRead ((fullSync.sync listened).carrier.snapshot.get? "a") = true := by
  obtain ⟨lasts, agree⟩ := read_marks_last fullSync
  refine ⟨?_, ?_⟩
  · have stays : System.Stays fullSync (deviceItem "a") ⟨⟨listened, []⟩, none⟩ _ :=
      ((Relation.ReflTransGen.single ⟨⟨.start, rfl⟩, by decide +kernel⟩).tail
        ⟨⟨.event (.carrier (.read "a")), rfl⟩, by decide +kernel⟩).tail ⟨⟨.answer, rfl⟩, by decide +kernel⟩
    exact ⟨_, stays, rfl, (lasts _ _ _ "a" .refl).1 stays (by decide +kernel)⟩
  · have apart : listened.FamiliesApart := by decide +kernel
    have possible : ∀ r m, reacts True r m (m.answer r).1 (m.answer r).2 := fun _ _ => Or.inl rfl
    have ends := Program.ends_run possible fullSync.cycle listened
    have completes : (fullSync.cycle.run Memory.answer listened).1.isOk = true := by decide +kernel
    cases outcome : (fullSync.cycle.run Memory.answer listened).1 with
    | error e =>
      rw [outcome] at completes
      cases completes
    | ok r =>
      rw [outcome] at ends
      exact ⟨r, ends, agree rfl _ _ _ apart ends, by decide +kernel⟩

end Policy

end MailboxSync
