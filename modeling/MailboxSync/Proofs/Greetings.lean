import MailboxSync.Proofs.Families

namespace MailboxSync

theorem Item.yieldTo_holding (new i y : Item) (p : Payload) :
    yieldTo new (i.holding p y) = i.holding p (yieldTo new y) := by
  obtain ⟨id, kind, isRead, hasContent, uri, len⟩ := y
  unfold yieldTo
  split
  · next t _ =>
    cases kind with
    | voicemail => rfl
    | greeting t' active => by_cases same : t' = t <;> simp [demote, holding, same]
  · rfl

namespace Action

variable {as : List Action} {k : String}

/-- Content is kept for an item all the same before and after a transaction that is not about it. -/
theorem alterAll_holding (foreign : (as.filter fun a => a.id = k) = []) (i : Item) (p : Payload)
    (x : Option Item) : alterAll as k (x.map (i.holding p)) = (alterAll as k x).map (i.holding p) := by
  induction as generalizing x with
  | nil => rfl
  | cons a rest ih =>
    rw [List.filter_eq_nil_iff] at foreign
    have other : a.id ≠ k := by simpa using foreign a List.mem_cons_self
    have beside : a.alter k (x.map (i.holding p)) = (a.alter k x).map (i.holding p) := by
      cases kind : a.kind with
      | insert =>
        cases x <;> simp [alter, kind, other, Item.yieldTo_holding]
      | delete | markAsRead | fetchContent => simp [alter, kind, other]
    rw [alterAll_cons, alterAll_cons, beside]
    exact ih (List.filter_eq_nil_iff.mpr fun b mem => foreign b (List.mem_cons_of_mem _ mem)) _

theorem isSome_alterAll (foreign : (as.filter fun a => a.id = k) = []) (x : Option Item) :
    (alterAll as k x).isSome = x.isSome := by
  have same : (alterAll as k x).map Item.passive = (alterAll [] k x).map Item.passive := by
    rw [← foreign]
    exact map_passive_alterAll k rfl
  have present := congrArg Option.isSome same
  rwa [Option.isSome_map, Option.isSome_map] at present

end Action

namespace Slot

variable {probe : Item → Bool} {s t u v : Slot} {r : Recording} {d : Item} {k : String}

/-- The recording whose audio a cycle fetches for a greeting. -/
def lacks (probe : Item → Bool) (s : Slot) : Option Recording :=
  match (s.seen .greeting).item with
  | none => (s.seen .greeting).recording
  | some d =>
    if d.hasContent && !probe d then none else (s.seen .greeting).recording

/-- The slot once the audio is fetched. -/
def fed (r : Recording) (s : Slot) : Slot := s.obey ⟨.fetchContent, .carrier, r.item⟩

/-- What a quiet cycle makes of a slot after the transaction. -/
def filled (probe : Item → Bool) (s : Slot) : Slot :=
  { (match s.lacks probe with
      | some r => s.fed r
      | none => s) with mirror := s.heard .greeting }

/-- The device has a greeting if and only if the carrier has it. -/
def Paired (s : Slot) : Prop := (s.seen .greeting).item.isSome = (s.seen .greeting).recording.isSome

theorem fed_of_some (item : s.item = some d) (recording : s.recording = some r) :
    s.fed r = { s with item := some (r.item.holding r.payload d), content := some r.payload } := by
  simp [fed, obey, item, recording]

theorem fed_of_none (missing : s.item = none) : s.fed r = s := by
  cases recording : s.recording <;> simp [fed, obey, missing]

theorem recording_of_lacks (lacking : s.lacks probe = some r) :
    s.recording = some r ∧ r.item.listed .greeting = true := by
  have seen : (s.seen .greeting).recording = some r := by
    unfold lacks at lacking
    split at lacking
    · exact lacking
    · split at lacking
      · cases lacking
      · exact lacking
  exact Option.filter_eq_some_iff.mp seen

theorem plan_greetingSync : s.plan (.greetingSync probe) = (Policy.greetingSync probe).planAt
    (s.seen .greeting).item (s.heard .greeting) (s.seen .greeting).mirror := rfl

/-- The carrier is asked for audio and nothing else. -/
theorem plan_carrier_greetingSync : (s.plan (.greetingSync probe)).carrier.toList =
    (s.lacks probe).toList.map fun r => ⟨.fetchContent, .carrier, r.item⟩ := by
  rw [plan_greetingSync, Policy.carrier_planAt_greetingSync]
  unfold lacks heard
  cases item : (s.seen .greeting).item with
  | none => cases recording : (s.seen .greeting).recording <;> simp
  | some d =>
    cases recording : (s.seen .greeting).recording with
    | none => simp
    | some r => by_cases has : (d.hasContent && !probe d) = true <;> simp [has]

theorem Paired.plan_device (paired : s.Paired) :
    (s.plan (.greetingSync probe)).device.toList = [] := by
  have seen : (s.seen .greeting).item.isSome = (s.heard .greeting).isSome := by
    rw [paired, heard, Option.isSome_map]
  rw [plan_greetingSync, Policy.device_planAt_greetingSync]
  cases item : (s.seen .greeting).item <;> cases heard : s.heard .greeting <;> simp_all

theorem isSome_seen_fed (r : Recording) (s : Slot) :
    ((s.fed r).seen .greeting).item.isSome = (s.seen .greeting).item.isSome := by
  obtain ⟨item, content, recording, mirror⟩ := s
  cases item with
  | none => rw [fed_of_none rfl]
  | some d =>
    cases recording with
    | none => rfl
    | some r' =>
      have same : (r.item.holding r'.payload d).listed .greeting = d.listed .greeting := rfl
      simp [fed, obey, seen, Option.filter_some, same]
      split <;> rfl

theorem recording_fed (r : Recording) (s : Slot) : (s.fed r).recording = s.recording := by
  obtain ⟨item, content, recording, mirror⟩ := s
  cases item <;> cases recording <;> rfl

theorem mirror_fed (r : Recording) (s : Slot) : (s.fed r).mirror = s.mirror := by
  obtain ⟨item, content, recording, mirror⟩ := s
  cases item <;> cases recording <;> rfl

theorem heard_of_recording (same : t.recording = s.recording) (f : Family) : t.heard f = s.heard f := by
  simp only [heard, seen, same]

theorem filled_of_lacks (lacking : s.lacks probe = some r) :
    s.filled probe = { s.fed r with mirror := s.heard .greeting } := by
  rw [filled, lacking]

theorem filled_of_complete (complete : s.lacks probe = none) :
    s.filled probe = { s with mirror := s.heard .greeting } := by
  rw [filled, complete]

theorem fed_fed (r : Recording) (s : Slot) : (s.fed r).fed r = s.fed r := by
  obtain ⟨item, content, recording, mirror⟩ := s
  cases item <;> cases recording <;> rfl

/-- What is fetched once more is the same again. -/
theorem filled_fed (lacking : s.lacks probe = some r) : (s.fed r).filled probe = s.filled probe := by
  have heard : (s.fed r).heard .greeting = s.heard .greeting :=
    heard_of_recording (recording_fed r s) .greeting
  rw [filled_of_lacks lacking]
  cases again : (s.fed r).lacks probe with
  | none => rw [filled_of_complete again, heard]
  | some r' =>
    have first := (recording_of_lacks lacking).1
    have second := (recording_of_lacks again).1
    rw [recording_fed, first] at second
    cases second
    rw [filled_of_lacks again, heard, fed_fed]

/-- The mirror is not asked what to fetch. -/
theorem filled_of_same (item : t.item = s.item) (content : t.content = s.content)
    (recording : t.recording = s.recording) : t.filled probe = s.filled probe := by
  obtain ⟨item', content', recording', mirror'⟩ := t
  cases item
  cases content
  cases recording
  have same : (Slot.mk s.item s.content s.recording mirror').lacks probe = s.lacks probe := rfl
  have heard : (Slot.mk s.item s.content s.recording mirror').heard .greeting = s.heard .greeting := rfl
  cases lacking : s.lacks probe with
  | none => rw [filled_of_complete (same.trans lacking), filled_of_complete lacking, heard]
  | some r =>
    rw [filled_of_lacks (same.trans lacking), filled_of_lacks lacking, heard]
    obtain ⟨item, content, recording, mirror⟩ := s
    cases item <;> cases recording <;> rfl

/-- After a cycle the audio is fetched or is not. Where nothing fails it is. -/
theorem Turns.greeting {f : Option Item → Option Item} {settled renewed : Bool} {faulty : Prop}
    (turns : s.Turns (.greetingSync probe) faulty f settled renewed t)
    (start : (if settled then s.transacted f else s) = v) :
    ∃ u, t = { u with mirror := if renewed then s.heard .greeting else s.mirror } ∧
      (u = v ∨ ∃ r, s.lacks probe = some r ∧ u = v.fed r) ∧
      (¬faulty → u = match s.lacks probe with
        | some r => v.fed r
        | none => v) := by
  obtain ⟨cs, u, obeys, rfl⟩ := turns
  rw [start, plan_carrier_greetingSync] at obeys
  have mirror : v.mirror = s.mirror := by
    rw [← start]
    split <;> rfl
  cases lacking : s.lacks probe with
  | none =>
    rw [lacking] at obeys
    cases obeys
    refine ⟨v, ?_, Or.inl rfl, fun _ => rfl⟩
    cases renewed with
    | false => simp [← mirror]
    | true => rfl
  | some r =>
    rw [lacking] at obeys
    rcases obeys.of_singleton with ⟨_, rfl, rfl⟩ | ⟨reason, rfl, rfl⟩
    · refine ⟨v.fed r, ?_, Or.inr ⟨r, rfl, rfl⟩, fun _ => rfl⟩
      cases renewed with
      | false => simp [← mirror, ← mirror_fed r v]; rfl
      | true => rfl
    · refine ⟨u, ?_, Or.inl rfl, ?_⟩
      · cases renewed with
        | false => simp [← mirror]
        | true => rfl
      · intro sure
        exact (obey_of_refused (reason.resolve_left sure)).symm

theorem probe_of_passive (blind : ∀ i : Item, probe i.passive = probe i) {d' : Item} (same : d'.passive = d.passive) :
    (d'.hasContent && !probe d') = (d.hasContent && !probe d) := by
  rw [← Item.passive_hasContent, ← blind d', same, Item.passive_hasContent, blind]

section

variable {f : Option Item → Option Item} (apart : s.Apart .greeting) (named : ∀ i, s.Holds i → i.id = k)
  (own : ∀ x, (f x).map Item.passive =
    (Action.alterAll (s.plan (.greetingSync probe)).device.toList k x).map Item.passive)

include named own

/-- But for which greeting is played, what the transaction leaves on the device is this. -/
theorem transacted_listed (listed : ∀ i, s.Holds i → i.listed .greeting = true) :
    (f s.item).map Item.passive = (match s.item, s.recording with
      | none, some r => some r.item.bare
      | some d, some _ => some d
      | _, none => none).map Item.passive := by
  have heard : s.heard .greeting = s.recording.map Recording.item := heard_of_listed listed
  rw [own, plan_greetingSync, Policy.device_planAt_greetingSync, seen_of_listed listed, heard]
  cases item : s.item with
  | none =>
    cases recording : s.recording with
    | none => rfl
    | some r =>
      have ownR : r.item.id = k := named r.item (Or.inr (Or.inl ⟨r, recording, rfl⟩))
      simp [Action.alterAll, Action.alter, Action.id, ownR]
  | some d =>
    cases recording : s.recording with
    | none =>
      have ownD : d.id = k := named d (Or.inl item)
      simp [Action.alterAll, Action.alter, Action.id, ownD]
    | some r => rfl

include apart

/-- The transaction pairs what is on the device with what is on the carrier. -/
theorem transacted_paired (descends : s.Descends (s.transacted f)) : (s.transacted f).Paired := by
  rcases apart with listed | unlisted
  · have later := listed_of_descends listed descends
    have left := congrArg Option.isSome (transacted_listed named own listed)
    rw [Option.isSome_map, Option.isSome_map] at left
    rw [Paired, seen_of_listed later]
    refine left.trans ?_
    show _ = s.recording.isSome
    cases s.item <;> cases s.recording <;> rfl
  · have later := unlisted_of_descends unlisted descends
    rw [Paired, seen_of_unlisted later]
    rfl

/-- It leaves the audio to be fetched that was to be fetched before, unless the probe looks at which greeting is
played. -/
theorem lacks_transacted (blind : ∀ i : Item, probe i.passive = probe i) (descends : s.Descends (s.transacted f)) :
    (s.transacted f).lacks probe = s.lacks probe := by
  rcases apart with listed | unlisted
  · have later := listed_of_descends listed descends
    have left := transacted_listed named own listed
    rw [lacks, lacks, seen_of_listed later, seen_of_listed listed]
    change (match f s.item with
      | none => s.recording
      | some d => if d.hasContent && !probe d then none else s.recording) = _
    cases item : s.item with
    | none =>
      cases recording : s.recording with
      | none =>
        rw [item, recording] at left
        rw [Option.map_eq_none_iff.mp left]
      | some r =>
        rw [item, recording] at left
        obtain ⟨d', brought, same⟩ := Option.map_eq_some_iff.mp left
        rw [brought]
        simp only [probe_of_passive blind same]
        rfl
    | some d =>
      cases recording : s.recording with
      | none =>
        rw [item, recording] at left
        rw [Option.map_eq_none_iff.mp left]
        simp
      | some r =>
        rw [item, recording] at left
        obtain ⟨d', kept, same⟩ := Option.map_eq_some_iff.mp left
        rw [kept]
        simp only [probe_of_passive blind same]
  · have later := unlisted_of_descends unlisted descends
    rw [lacks, lacks, seen_of_unlisted later, seen_of_unlisted unlisted]

end

theorem Paired.of_isSome (paired : s.Paired)
    (item : (t.seen .greeting).item.isSome = (s.seen .greeting).item.isSome)
    (recording : t.recording = s.recording) : t.Paired := by
  rw [Paired, item, paired]
  simp only [seen, recording]

/-- To fetch before a transaction that leaves the greeting in place comes to the same as to fetch
after it. -/
theorem transacted_fed {f : Option Item → Option Item} (r : Recording)
    (kept : ∀ x, (f x).isSome = x.isSome)
    (moved : ∀ r' x, f (x.map (r.item.holding r')) = (f x).map (r.item.holding r')) :
    (s.fed r).transacted f = (s.transacted f).fed r := by
  obtain ⟨item, content, recording, mirror⟩ := s
  cases item with
  | none =>
    have gone : f none = none := by simpa using kept none
    rw [fed_of_none rfl, fed_of_none gone]
  | some d =>
    cases recording with
    | none => rfl
    | some r' =>
      obtain ⟨d', after⟩ := Option.isSome_iff_exists.mp ((kept (some d)).trans rfl)
      have moved := moved r'.payload (some d)
      rw [after] at moved
      change f (some (r.item.holding r'.payload d)) = some (r.item.holding r'.payload d') at moved
      simp [fed, obey, transacted, moved, after]

/-- What the carrier has, the device has with content. -/
theorem Paired.hasContent_filled (paired : s.Paired) {i : Item}
    (held : ((s.filled probe).seen .greeting).item = some i) : i.hasContent = true := by
  cases lacking : s.lacks probe with
  | none =>
    rw [filled_of_complete lacking] at held
    change (s.seen .greeting).item = some i at held
    have present : (s.seen .greeting).recording.isSome = true := by
      rw [← paired, held]
      rfl
    obtain ⟨r, recorded⟩ := Option.isSome_iff_exists.mp present
    rw [lacks, held, recorded] at lacking
    by_contra without
    simp [without] at lacking
  | some r =>
    rw [filled_of_lacks lacking] at held
    change ((s.fed r).seen .greeting).item = some i at held
    obtain ⟨fetched, _⟩ := Option.filter_eq_some_iff.mp held
    cases item : s.item with
    | none => simp [fed_of_none item, item] at fetched
    | some d =>
      rw [fed_of_some item (recording_of_lacks lacking).1] at fetched
      cases fetched
      rfl

theorem Paired.filled (paired : s.Paired) : (s.filled probe).Paired := by
  cases lacking : s.lacks probe with
  | none =>
    rw [filled_of_complete lacking]
    exact paired
  | some r =>
    rw [filled_of_lacks lacking]
    exact paired.of_isSome (isSome_seen_fed r s) (recording_fed r s)

/-- Audio that the probe does not find empty is not fetched again. -/
theorem lacks_filled (enough : ∀ r, s.recording = some r → r.item.listed .greeting = true →
    ∀ d, probe (r.item.holding r.payload d) = false) (paired : s.Paired) : (s.filled probe).lacks probe = none := by
  cases lacking : s.lacks probe with
  | none =>
    rw [filled_of_complete lacking]
    exact lacking
  | some r =>
    obtain ⟨recorded, listed⟩ := recording_of_lacks lacking
    have present : (s.seen .greeting).item.isSome = true := by
      rw [paired]
      simp [seen, recorded, listed]
    obtain ⟨d, seenItem⟩ := Option.isSome_iff_exists.mp present
    obtain ⟨item, listedD⟩ := Option.filter_eq_some_iff.mp seenItem
    have kept : (r.item.holding r.payload d).listed .greeting = true := listedD
    have found := enough r recorded listed d
    have content : (r.item.holding r.payload d).hasContent = true := rfl
    rw [filled_of_lacks lacking, fed_of_some item recorded]
    simp [lacks, seen, Option.filter_some, kept, found, content]

/-- Then nothing is left to do about the greeting. -/
theorem Paired.rests_filled (paired : s.Paired) (enough : ∀ r, s.recording = some r →
    r.item.listed .greeting = true → ∀ d, probe (r.item.holding r.payload d) = false) :
    (s.filled probe).Rests (.greetingSync probe) := by
  refine ⟨paired.filled.plan_device, ?_, ?_⟩
  · rw [plan_carrier_greetingSync, lacks_filled enough paired]
    rfl
  · cases lacking : s.lacks probe with
    | none => rw [filled_of_complete lacking]; rfl
    | some r =>
      rw [filled_of_lacks lacking]
      exact (heard_of_recording (recording_fed r s) .greeting).symm

end Slot

open Memory

namespace Policy

variable {probe : Item → Bool} {m m' : Memory}

/-- What the device is asked for hangs on which greetings are where. -/
theorem device_planOf_greetingSync (same : ∀ k, (m'.slot k).recording = (m.slot k).recording)
    (present : ∀ k, ((m'.slot k).seen .greeting).item.isSome = ((m.slot k).seen .greeting).item.isSome)
    (kept : ∀ k, (m.slot k).heard .greeting = none → (m'.slot k).item = (m.slot k).item) :
    ((greetingSync probe).planOf m').device = ((greetingSync probe).planOf m).device := by
  have carrier : m'.carrier.snapshot.retain .greeting = m.carrier.snapshot.retain .greeting := by
    refine Snapshot.ext_get? ?_
    intro k
    rw [Carrier.get?_retain_snapshot, Carrier.get?_retain_snapshot, Slot.heard, Slot.heard, Slot.seen,
      Slot.seen, same]
  have contains : ∀ k, (m'.device.snapshot.retain .greeting).contains k =
      (m.device.snapshot.retain .greeting).contains k := by
    intro k
    rw [Snapshot.contains_eq_isSome, Snapshot.contains_eq_isSome, Device.get?_retain_snapshot,
      Device.get?_retain_snapshot, present]
  have alone : (m'.device.snapshot.retain .greeting).filter
        (fun i => !(m.carrier.snapshot.retain .greeting).contains i.id) =
      (m.device.snapshot.retain .greeting).filter
        (fun i => !(m.carrier.snapshot.retain .greeting).contains i.id) := by
    refine Snapshot.ext_get? ?_
    intro k
    rw [Snapshot.get?_filter, Snapshot.get?_filter, Device.get?_retain_snapshot,
      Device.get?_retain_snapshot]
    cases heard : (m.slot k).heard .greeting with
    | none => simp only [Slot.seen, kept k heard]
    | some c =>
      have held : (m.carrier.snapshot.retain .greeting).contains k = true := by
        rw [Snapshot.contains_eq_isSome, Carrier.get?_retain_snapshot, heard]
        rfl
      have both : ∀ (m₁ : Memory) i, ((m₁.slot k).seen .greeting).item = some i →
          (m.carrier.snapshot.retain .greeting).contains i.id = true := by
        intro m₁ i found
        rw [Snapshot.id_of_get? ((Device.get?_retain_snapshot m₁ .greeting k).trans found), held]
      rw [Option.filter_eq_none_iff.mpr fun i found => by simp [both m' i found],
        Option.filter_eq_none_iff.mpr fun i found => by simp [both m i found]]
  have planned : ∀ m : Memory, ((greetingSync probe).planOf m).device = _ := fun m =>
    device_plan_greetingSync probe (m.device.snapshot.retain .greeting)
      (m.carrier.snapshot.retain .greeting) (m.mirror.snapshot.retain .greeting)
  rw [planned, planned, carrier, alone]
  simp only [contains]

end Policy

namespace Memory

variable {probe : Item → Bool} {m m' : Memory} {faulty : Prop} {settled renewed : Bool}

/-- Where a quiet cycle takes the slot of a greeting. -/
def tuned (probe : Item → Bool) (m : Memory) (k : String) : Slot :=
  ((m.slot k).transacted ((Policy.greetingSync probe).alters m k)).filled probe

theorem FamiliesApart.transacted_paired (apart : m.FamiliesApart) (probe : Item → Bool) (k : String) :
    ((m.slot k).transacted ((Policy.greetingSync probe).alters m k)).Paired :=
  Slot.transacted_paired (apart.apart .greeting k) (fun _ held => id_of_holds held)
    (Policy.passive_alters _ m k) descends_transacted

section

variable (blind : ∀ i : Item, probe i.passive = probe i)

include blind

theorem FamiliesApart.lacks_transacted (apart : m.FamiliesApart) (k : String) :
    ((m.slot k).transacted ((Policy.greetingSync probe).alters m k)).lacks probe = (m.slot k).lacks probe :=
  Slot.lacks_transacted (apart.apart .greeting k) (fun _ held => id_of_holds held)
    (Policy.passive_alters _ m k) blind descends_transacted

/-- To have fetched before the transaction changes nothing about what comes of both. -/
theorem FamiliesApart.filled_transacted_fed (apart : m.FamiliesApart) {k : String} {r : Recording}
    (lacking : (m.slot k).lacks probe = some r) :
    (((m.slot k).fed r).transacted ((Policy.greetingSync probe).alters m k)).filled probe =
      ((m.slot k).transacted ((Policy.greetingSync probe).alters m k)).filled probe := by
  obtain ⟨recorded, listed⟩ := Slot.recording_of_lacks lacking
  cases item : (m.slot k).item with
  | none => rw [Slot.fed_of_none item]
  | some d =>
    have all : ∀ i, (m.slot k).Holds i → i.listed .greeting = true := by
      rcases apart.apart .greeting k with all | none
      · exact all
      · rw [none r.item (Or.inr (Or.inl ⟨r, recorded, rfl⟩))] at listed
        cases listed
    have paired : (m.slot k).Paired := by
      rw [Slot.Paired, Slot.seen_of_listed all, item, recorded]
      rfl
    have foreign :
        (((Policy.greetingSync probe).planOf m).device.toList.filter fun a => a.id = k) = [] := by
      rw [Policy.filter_device_planOf, paired.plan_device]
    have commutes : ((m.slot k).fed r).transacted ((Policy.greetingSync probe).alters m k) =
        ((m.slot k).transacted ((Policy.greetingSync probe).alters m k)).fed r :=
      Slot.transacted_fed r (Action.isSome_alterAll foreign) (Action.alterAll_holding foreign r.item)
    rw [commutes, Slot.filled_fed ((apart.lacks_transacted blind k).trans lacking)]

/-- Once the transaction went through, the next one has nothing to do. -/
theorem tuned_of_settled (apart : m.FamiliesApart)
    (turns : ∀ k, (m.slot k).Turns (.greetingSync probe) faulty ((Policy.greetingSync probe).alters m k)
      true renewed (m'.slot k)) (k : String) : m'.tuned probe k = m.tuned probe k := by
  have outcome := fun k => (turns k).greeting rfl
  have paired : ∀ k, (m'.slot k).Paired := by
    intro k
    obtain ⟨u, result, fetched, _⟩ := outcome k
    have before := apart.transacted_paired probe k
    rw [result]
    rcases fetched with rfl | ⟨r, _, rfl⟩
    · exact before
    · exact before.of_isSome (Slot.isSome_seen_fed r _) (Slot.recording_fed r _)
  rw [tuned, Policy.alters_eq_id (fun k => (paired k).plan_device), Slot.transacted_id]
  obtain ⟨u, result, fetched, _⟩ := outcome k
  have same : (m'.slot k).filled probe = u.filled probe := by
    rw [result]
    exact Slot.filled_of_same rfl rfl rfl
  rw [same, tuned]
  rcases fetched with rfl | ⟨r, lacking, rfl⟩
  · rfl
  · exact Slot.filled_fed ((apart.lacks_transacted blind k).trans lacking)

/-- If it did not, the next one does the same. -/
theorem tuned_of_unsettled (apart : m.FamiliesApart)
    (turns : ∀ k, (m.slot k).Turns (.greetingSync probe) faulty ((Policy.greetingSync probe).alters m k)
      false false (m'.slot k)) (k : String) : m'.tuned probe k = m.tuned probe k := by
  have outcome : ∀ k, m'.slot k = m.slot k ∨
      ∃ r, (m.slot k).lacks probe = some r ∧ m'.slot k = (m.slot k).fed r := by
    intro k
    obtain ⟨u, result, fetched, _⟩ := (turns k).greeting rfl
    rcases fetched with rfl | ⟨r, lacking, rfl⟩
    · exact Or.inl result
    · refine Or.inr ⟨r, lacking, ?_⟩
      rw [result]
      simp only [Bool.false_eq_true, if_false]
      rw [← Slot.mirror_fed r (m.slot k)]
  -- A greeting that comes in ends the turn of another, so the order of the actions matters too.
  have sameList : ((Policy.greetingSync probe).planOf m').device =
      ((Policy.greetingSync probe).planOf m).device := by
    refine Policy.device_planOf_greetingSync ?_ ?_ ?_
    · intro k
      rcases outcome k with result | ⟨r, _, result⟩
      · rw [result]
      · rw [result, Slot.recording_fed]
    · intro k
      rcases outcome k with result | ⟨r, _, result⟩
      · rw [result]
      · rw [result, Slot.isSome_seen_fed]
    · intro k silent
      rcases outcome k with result | ⟨r, lacking, _⟩
      · rw [result]
      · obtain ⟨recorded, listed⟩ := Slot.recording_of_lacks lacking
        simp [Slot.heard, Slot.seen, recorded, listed] at silent
  have alters : (Policy.greetingSync probe).alters m' k = (Policy.greetingSync probe).alters m k := by
    rw [Policy.alters, Policy.alters, sameList]
  rw [tuned, tuned, alters]
  rcases outcome k with result | ⟨r, lacking, result⟩
  · rw [result]
  · rw [result, apart.filled_transacted_fed blind lacking]

/-- However much of a cycle fails, a quiet one after it goes where it would have gone before. -/
theorem tuned_of_turns (apart : m.FamiliesApart) (bound : renewed = true → settled = true)
    (turns : ∀ k, (m.slot k).Turns (.greetingSync probe) faulty ((Policy.greetingSync probe).alters m k)
      settled renewed (m'.slot k)) (k : String) : m'.tuned probe k = m.tuned probe k := by
  cases settled with
  | true => exact tuned_of_settled blind apart turns k
  | false =>
    cases renewed with
    | true => cases bound rfl
    | false => exact tuned_of_unsettled blind apart turns k

end

end Memory

/-- A quiet cycle takes the slot of a greeting where it is bound to go. -/
theorem Slot.Turns.tuned {probe : Item → Bool} {m : Memory} {k : String} {t : Slot}
    (blind : ∀ i : Item, probe i.passive = probe i) (apart : m.FamiliesApart)
    (turns : (m.slot k).Turns (.greetingSync probe) False ((Policy.greetingSync probe).alters m k)
      true true t) : t = m.tuned probe k := by
  obtain ⟨u, rfl, _, quiet⟩ := turns.greeting rfl
  have result := quiet id
  have recording : ((m.slot k).transacted ((Policy.greetingSync probe).alters m k)).recording =
    (m.slot k).recording := rfl
  rw [Memory.tuned, filled, heard_of_recording recording, apart.lacks_transacted blind k, result]
  rfl

end MailboxSync
