import MailboxSync.Proofs.Convergence

namespace MailboxSync

open Program (Ends)

def ItemKind.isActive : ItemKind → Bool
  | .greeting _ active => active
  | .voicemail => false

theorem Item.kind_of_greeting {i : Item} (greeting : i.family = .greeting) :
    ∃ t active, i.kind = .greeting t active := by
  cases kind : i.kind with
  | voicemail =>
    rw [family, kind] at greeting
    cases greeting
  | greeting t active => exact ⟨t, active, rfl⟩

/-- What becomes of an item's kind when greetings come in beside it: they end its turn if one of them
is of its type and active. -/
theorem Item.kind_yieldTo (new : Item) {i : Item} {t : GreetingType} {active : Bool}
    (kind : i.kind = .greeting t active) :
    (yieldTo new i).kind = .greeting t (active && new.kind ≠ .greeting t true) := by
  unfold yieldTo
  split
  · next t' played =>
    by_cases same : t = t'
    · simp [demote, kind, same, played]
    · simp [demote, kind, same, played, Ne.symm same]
  · next other =>
    have differs : new.kind ≠ .greeting t true := other t
    simp [kind, differs]

namespace Action

variable {as : List Action} {k : String} {i : Item}

/-- The greeting that an action brings in as the one played for a type. -/
def promotes (t : GreetingType) (a : Action) : Bool := a.kind = .insert && a.item.kind = .greeting t true

/-- A greeting that is not itself brought in is played as long as no other of its type comes in to be
played. -/
theorem kind_alterAll {d : Item} {t : GreetingType} {active : Bool} (kind : d.kind = .greeting t active)
    (foreign : ∀ a ∈ as, a.kind = .insert → a.id ≠ k) (left : alterAll as k (some d) = some i) :
    i.kind = .greeting t (active && !as.any (promotes t)) := by
  induction as generalizing d active with
  | nil =>
    cases left
    simpa using kind
  | cons a rest ih =>
    have others : ∀ b ∈ rest, b.kind = .insert → b.id ≠ k :=
      fun b mem => foreign b (List.mem_cons_of_mem _ mem)
    rw [alterAll_cons] at left
    cases act : a.kind with
    | insert =>
      have own : a.id ≠ k := foreign a List.mem_cons_self act
      rw [show a.alter k (some d) = some (Item.yieldTo a.item d) by simp [alter, act, own]] at left
      rw [ih (a.item.kind_yieldTo kind) others left]
      by_cases same : a.item.kind = .greeting t true <;> simp [promotes, act, same]
    | delete =>
      have kept : a.alter k (some d) = some d := by
        by_cases own : a.id = k
        · rw [show a.alter k (some d) = none by simp [alter, act, own], alterAll_none others] at left
          cases left
        · simp [alter, act, own]
      rw [kept] at left
      rw [ih kind others left]
      simp [promotes, act]
    | markAsRead =>
      obtain ⟨d', marked, kind'⟩ : ∃ d', a.alter k (some d) = some d' ∧ d'.kind = .greeting t active := by
        by_cases own : a.id = k
        · exact ⟨d.markRead, by simp [alter, act, own], kind⟩
        · exact ⟨d, by simp [alter, act, own], kind⟩
      rw [marked] at left
      rw [ih kind' others left]
      simp [promotes, act]
    | fetchContent =>
      rw [show a.alter k (some d) = some d by simp [alter, act]] at left
      rw [ih kind others left]
      simp [promotes, act]

/-- What is there in the end and was not in the beginning has been brought in. -/
theorem inserted_of_alterAll (brought : alterAll as k none = some i) :
    ∃ before a after, as = before ++ a :: after ∧ a.kind = .insert ∧ a.id = k ∧
      alterAll after k (some a.item.bare) = some i := by
  induction as with
  | nil => cases brought
  | cons a rest ih =>
    by_cases own : a.kind = .insert ∧ a.id = k
    · refine ⟨[], a, rest, rfl, own.1, own.2, ?_⟩
      rwa [alterAll_cons, show a.alter k none = some a.item.bare by simp [alter, own]] at brought
    · have still : a.alter k none = none := by
        cases act : a.kind with
        | insert => simpa [alter, act] using own
        | delete | markAsRead | fetchContent => simp [alter, act]
      rw [alterAll_cons, still] at brought
      obtain ⟨before, b, after, rfl, inserts, named, left⟩ := ih brought
      exact ⟨a :: before, b, after, rfl, inserts, named, left⟩

end Action

/-- At most one greeting of each type is active. -/
def Snapshot.SinglyActive (s : Snapshot) : Prop :=
  ∀ i ∈ s.toList, ∀ j ∈ s.toList, i.kind.isActive = true → i.kind = j.kind → i.id = j.id

theorem Snapshot.SinglyActive.retain {s : Snapshot} (single : s.SinglyActive) (f : Family) :
    (s.retain f).SinglyActive :=
  fun i memI j memJ => single i (List.mem_filter.mp memI).1 j (List.mem_filter.mp memJ).1

theorem Slot.map_kind_fed (r : Recording) (s : Slot) :
    (s.fed r).item.map Item.kind = s.item.map Item.kind := by
  obtain ⟨item, content, recording, mirror⟩ := s
  cases item <;> cases recording <;> rfl

namespace Memory

/-- An active greeting of this type is on the carrier and not on the device. -/
def hasSuccessor (m : Memory) (t : GreetingType) : Bool :=
  (m.carrier.snapshot.retain .greeting).toList.any fun c =>
    c.kind = .greeting t true && !(m.device.snapshot.retain .greeting).contains c.id

/-- Device and carrier list the same greetings, each with the same type and the same flag. -/
def GreetingsAgree (m : Memory) : Prop :=
  let device := m.device.snapshot.retain .greeting
  let carrier := m.carrier.snapshot.retain .greeting
  device.keys = carrier.keys ∧
    ∀ k i j, device.get? k = some i → carrier.get? k = some j → i.kind = j.kind

end Memory

namespace Policy

open Memory

variable {probe : Item → Bool} {m m' : Memory} {k : String} {i j : Item} {t : GreetingType}

/-- What a plan for greetings brings in is what the carrier lists and the device does not. -/
theorem mem_device_planOf_greetingSync {a : Action} (insert : a.kind = .insert) :
    a ∈ ((greetingSync probe).planOf m).device.toList ↔ a.target = .device ∧
      (m.device.snapshot.retain .greeting).get? a.id = none ∧
      (m.carrier.snapshot.retain .greeting).get? a.id = some a.item := by
  have own := mem_device_plan_iff (p := greetingSync probe) (m.device.snapshot.retain .greeting)
    (m.carrier.snapshot.retain .greeting) (m.mirror.snapshot.retain .greeting) (a := a)
  rw [device_planAt_greetingSync] at own
  refine own.trans ?_
  generalize (m.device.snapshot.retain .greeting).get? a.id = d
  generalize (m.carrier.snapshot.retain .greeting).get? a.id = c
  obtain ⟨kind, target, item⟩ := a
  cases insert
  cases d <;> cases c <;> simp [eq_comm]

theorem any_promotes_planOf (probe : Item → Bool) (m : Memory) (t : GreetingType) :
    ((greetingSync probe).planOf m).device.toList.any (Action.promotes t) = m.hasSuccessor t := by
  rw [Bool.eq_iff_iff, List.any_eq_true, hasSuccessor, List.any_eq_true]
  constructor
  · rintro ⟨a, mem, promotes⟩
    simp only [Action.promotes, Bool.and_eq_true, decide_eq_true_eq] at promotes
    obtain ⟨_, absent, heard⟩ := (mem_device_planOf_greetingSync promotes.1).mp mem
    refine ⟨a.item, (Snapshot.get?_eq_some_iff.mp heard).1, ?_⟩
    have away : (m.device.snapshot.retain .greeting).contains a.item.id = false :=
      Snapshot.contains_eq_false_iff.mpr absent
    simp [promotes.2, away]
  · rintro ⟨c, mem, enters⟩
    simp only [Bool.and_eq_true, decide_eq_true_eq, Bool.not_eq_true',
      Snapshot.contains_eq_false_iff] at enters
    refine ⟨⟨.insert, .device, c⟩, ?_, by simp [Action.promotes, enters.1]⟩
    exact (mem_device_planOf_greetingSync rfl).mpr
      ⟨rfl, enters.2, Snapshot.get?_eq_some_iff.mpr ⟨mem, rfl⟩⟩

/-- What is on the device before a transaction for greetings and after it keeps its type, and its flag
unless an active greeting of its type comes in. -/
theorem kind_of_alters {d : Item} {active : Bool}
    (held : (m.device.snapshot.retain .greeting).get? k = some d) (kind : d.kind = .greeting t active)
    (left : (greetingSync probe).alters m k (some d) = some i) :
    i.kind = .greeting t (active && !m.hasSuccessor t) := by
  rw [← any_promotes_planOf probe]
  refine Action.kind_alterAll kind ?_ left
  rintro a mem insert rfl
  obtain ⟨_, absent, _⟩ := (mem_device_planOf_greetingSync insert).mp mem
  cases absent.symm.trans held

/-- What such a transaction brings in is of the carrier's type and has the carrier's flag. -/
theorem kind_of_alters_none (single : (m.carrier.snapshot.retain .greeting).SinglyActive)
    (heard : (m.carrier.snapshot.retain .greeting).get? k = some j)
    (brought : (greetingSync probe).alters m k none = some i) : i.kind = j.kind := by
  obtain ⟨before, a, after, split, insert, rfl, left⟩ := Action.inserted_of_alterAll brought
  have planned : ∀ b ∈ a :: after, b ∈ ((greetingSync probe).planOf m).device.toList := by
    intro b mem
    rw [split]
    exact List.mem_append_right _ mem
  have inserted {b : Action} (mem : b ∈ a :: after) (insert : b.kind = .insert) :=
    (mem_device_planOf_greetingSync insert).mp (planned b mem)
  obtain ⟨target, _, own⟩ := inserted List.mem_cons_self insert
  obtain rfl : a.item = j := Option.some.inj (own.symm.trans heard)
  have distinct : ∀ b ∈ after, a.sameAs b = false := by
    have apart := ((greetingSync probe).planOf m).device.distinct
    rw [split, List.pairwise_append, List.pairwise_cons] at apart
    exact apart.2.1.1
  have foreign : ∀ b ∈ after, b.kind = .insert → b.id ≠ a.id := by
    intro b mem insertB same
    have targetB := (inserted (List.mem_cons_of_mem _ mem) insertB).1
    have twice := distinct b mem
    simp [Action.sameAs, insert, insertB, target, targetB, same] at twice
  have greeting : a.item.family = .greeting :=
    of_decide_eq_true (Option.filter_eq_some_iff.mp ((Snapshot.get?_retain _ _ _).symm.trans own)).2
  obtain ⟨t, active, kind⟩ := Item.kind_of_greeting greeting
  rw [Action.kind_alterAll (d := a.item.bare) kind foreign left, kind]
  cases active with
  | false => rfl
  | true =>
    -- Another active greeting of the type would be the carrier's second one.
    have alone : after.any (Action.promotes t) = false := by
      rw [List.any_eq_false]
      intro b mem promotes
      simp only [Action.promotes, Bool.and_eq_true, decide_eq_true_eq] at promotes
      obtain ⟨_, _, other⟩ := inserted (List.mem_cons_of_mem _ mem) promotes.1
      have same := single b.item (Snapshot.get?_eq_some_iff.mp other).1 a.item
        (Snapshot.get?_eq_some_iff.mp own).1 (by rw [promotes.2]; rfl) (promotes.2.trans kind.symm)
      exact foreign b mem promotes.1 same
    simp [alone]

/-- The greeting the carrier plays has no successor once the device has it. -/
theorem hasSuccessor_eq_false {d : Item} (single : (m.carrier.snapshot.retain .greeting).SinglyActive)
    (held : (m.device.snapshot.retain .greeting).get? k = some d)
    (heard : (m.carrier.snapshot.retain .greeting).get? k = some j) (played : j.kind = .greeting t true) :
    m.hasSuccessor t = false := by
  rw [hasSuccessor, List.any_eq_false]
  intro c mem enters
  simp only [Bool.and_eq_true, decide_eq_true_eq, Bool.not_eq_true',
    Snapshot.contains_eq_false_iff] at enters
  have same := single c mem j (Snapshot.get?_eq_some_iff.mp heard).1 (by rw [enters.1]; rfl)
    (enters.1.trans played.symm)
  rw [same, Snapshot.id_of_get? heard, held] at enters
  cases enters.2

/-- A cycle that completes has carried out its transaction and renewed the mirror, whatever else
failed. -/
theorem turns_of_completed {p : Policy} {r : Report} (ends : Ends (reacts True) p.cycle m (.ok r) m')
    (k : String) : (m.slot k).Turns p True (p.alters m k) true true (m'.slot k) := by
  obtain ⟨u, obeys, after⟩ := (obeys_of_completed m.unarmed_disarmed (ends_disarmed ends)).2 k
  rw [Snapshot.get?_observeAll, Carrier.get?_retain_snapshot] at after
  exact ⟨_, u, obeys, after⟩

/-- What a cycle for greetings that completes leaves as its transaction left it: the carrier, which
greetings are on the device, and their kinds. -/
theorem kept_of_completed {r : Report} (ends : Ends (reacts True) (greetingSync probe).cycle m (.ok r) m')
    (k : String) :
    let settled := (m.slot k).transacted ((greetingSync probe).alters m k)
    (m'.slot k).recording = (m.slot k).recording ∧
      ((m'.slot k).seen .greeting).item.isSome = (settled.seen .greeting).item.isSome ∧
      (m'.slot k).item.map Item.kind = settled.item.map Item.kind := by
  intro settled
  obtain ⟨u, result, rfl | ⟨r, _, rfl⟩, _⟩ := (turns_of_completed ends k).greeting rfl
  · rw [result]
    exact ⟨rfl, rfl, rfl⟩
  · rw [result]
    exact ⟨Slot.recording_fed r settled, Slot.isSome_seen_fed r settled, Slot.map_kind_fed r settled⟩

/-- The kind of a greeting that device and carrier both have after a cycle that completes. -/
theorem kind_of_completed {r : Report} (apart : m.FamiliesApart)
    (single : (m.carrier.snapshot.retain .greeting).SinglyActive)
    (ends : Ends (reacts True) (greetingSync probe).cycle m (.ok r) m')
    (onDevice : (m'.device.snapshot.retain .greeting).get? k = some i)
    (onCarrier : (m.carrier.snapshot.retain .greeting).get? k = some j) :
    (∀ d, (m.device.snapshot.retain .greeting).get? k = some d → ∃ t active, d.kind = .greeting t active ∧
        i.kind = .greeting t (active && !m.hasSuccessor t)) ∧
      ((∀ d, (m.device.snapshot.retain .greeting).get? k = some d → d.kind = j.kind) → i.kind = j.kind) := by
  rw [Device.get?_retain_snapshot] at onDevice
  obtain ⟨item, listedI⟩ := Option.filter_eq_some_iff.mp onDevice
  have descends : (m.slot k).Descends (m'.slot k) := descends_of_turns (turns_of_completed ends k)
  have listed : ∀ i, (m.slot k).Holds i → i.listed .greeting = true := by
    rcases apart.apart .greeting k with listed | unlisted
    · exact listed
    · rw [Slot.unlisted_of_descends unlisted descends i (Or.inl item)] at listedI
      cases listedI
  have shown : (m.device.snapshot.retain .greeting).get? k = (m.slot k).item := by
    rw [Device.get?_retain_snapshot, Slot.seen_of_listed listed]
  have kinds := (kept_of_completed ends k).2.2
  rw [item] at kinds
  obtain ⟨i', left, same⟩ := Option.map_eq_some_iff.mp kinds.symm
  change (greetingSync probe).alters m k (m.slot k).item = some i' at left
  rw [← same]
  cases held : (m.slot k).item with
  | none =>
    rw [held] at left shown
    refine ⟨fun d found => ?_, fun _ => kind_of_alters_none single onCarrier left⟩
    cases shown.symm.trans found
  | some d =>
    rw [held] at left shown
    obtain ⟨t, active, kind⟩ :=
      Item.kind_of_greeting (of_decide_eq_true (Bool.and_eq_true_iff.mp (listed d (Or.inl held))).2)
    have result := kind_of_alters shown kind left
    refine ⟨fun d' found => ?_, fun agreed => ?_⟩
    · obtain rfl : d = d' := Option.some.inj (shown.symm.trans found)
      exact ⟨t, active, kind, result⟩
    · have agrees := kind.symm.trans (agreed d shown)
      rw [result, ← agrees]
      cases active with
      | false => rfl
      | true => rw [hasSuccessor_eq_false single shown onCarrier agrees.symm]; rfl

/-- Greetings follow the carrier where they come and go. After a cycle that completes the device has
the greetings that the carrier has. One that the cycle brought in is of the carrier's type and has the
carrier's flag, and so is one that was there and agreed with the carrier before. Any other keeps its
type and its flag, except that an active greeting of its type that comes in ends its turn. -/
theorem greetings_followed {r : Report} (apart : m.FamiliesApart) (single : m.carrier.snapshot.SinglyActive)
    (ends : Ends (reacts True) (greetingSync probe).cycle m (.ok r) m') :
    let before := m.device.snapshot.retain .greeting
    let device := m'.device.snapshot.retain .greeting
    let carrier := m'.carrier.snapshot.retain .greeting
    carrier = m.carrier.snapshot.retain .greeting ∧ device.keys = carrier.keys ∧
      ∀ k i j, device.get? k = some i → carrier.get? k = some j →
        (∀ d, before.get? k = some d → ∃ t active, d.kind = .greeting t active ∧
          i.kind = .greeting t (active && !m.hasSuccessor t)) ∧
        ((∀ d, before.get? k = some d → d.kind = j.kind) → i.kind = j.kind) := by
  intro before device carrier
  have kept := kept_of_completed ends
  have heard : carrier = m.carrier.snapshot.retain .greeting := by
    refine Snapshot.ext_get? fun k => ?_
    rw [Carrier.get?_retain_snapshot, Carrier.get?_retain_snapshot]
    exact Slot.heard_of_recording (kept k).1 .greeting
  have paired : ∀ k, (m'.slot k).Paired := fun k =>
    (apart.transacted_paired probe k).of_isSome (kept k).2.1 (kept k).1
  refine ⟨heard, Snapshot.keys_eq_of_isSome fun k => ?_, fun k i j onDevice onCarrier => ?_⟩
  · rw [Device.get?_retain_snapshot, Carrier.get?_retain_snapshot, Slot.heard, Option.isSome_map]
    exact paired k
  · rw [heard] at onCarrier
    exact kind_of_completed apart (single.retain .greeting) ends onDevice onCarrier

/-- A greeting as the stores hold it. -/
def greeting (id : String) (active : Bool) : Item := { Item.voicemail id with kind := .greeting .normal active }

/-- The carrier now plays a third greeting instead of the one that was played so far. -/
def relieved : Memory where
  device := ({} : Device).seed [greeting "a" true, greeting "b" false]
  carrier := ({} : Carrier).seed [greeting "a" false, greeting "b" false, greeting "c" true]

theorem relieved_followed :
    relieved.FamiliesApart ∧ relieved.carrier.snapshot.SinglyActive ∧ relieved.hasSuccessor .normal = true ∧
      ∃ r m', Ends (reacts True) (ofKind .greetingSync {}).cycle relieved (.ok r) m' ∧
        (m'.device.snapshot.retain .greeting).keys = (m'.carrier.snapshot.retain .greeting).keys ∧
        ∀ i j, (m'.device.snapshot.retain .greeting).get? "a" = some i →
          (m'.carrier.snapshot.retain .greeting).get? "a" = some j → i.kind = .greeting .normal false := by
  have apart : relieved.FamiliesApart := by decide +kernel
  have single : relieved.carrier.snapshot.SinglyActive := by
    unfold Snapshot.SinglyActive
    decide +kernel
  have successor : relieved.hasSuccessor .normal = true := by decide +kernel
  obtain ⟨⟨r, completed⟩, _⟩ := sync_turns (p := ofKind .greetingSync {}) ⟨rfl, rfl, rfl, rfl, rfl, rfl⟩ apart
  have ends : Ends (reacts True) (ofKind .greetingSync {}).cycle relieved (.ok r)
      ((ofKind .greetingSync {}).sync relieved) := by
    rw [← completed]
    exact Program.ends_run (fun _ _ => Or.inl rfl) _ _
  obtain ⟨_, keys, followed⟩ := greetings_followed apart single ends
  refine ⟨apart, single, successor, r, _, ends, keys, fun i j onDevice onCarrier => ?_⟩
  have before : (relieved.device.snapshot.retain .greeting).get? "a" = some (greeting "a" true) := by
    decide +kernel
  obtain ⟨t, active, was, is⟩ := (followed "a" i j onDevice onCarrier).1 _ before
  cases was
  rw [is, successor]
  rfl

/-- Both stores have the same two greetings, and the carrier now plays the other one. -/
def switched : Memory where
  device := ({} : Device).seed [greeting "a" true, greeting "b" false]
  carrier := ({} : Carrier).seed [greeting "a" false, greeting "b" true]

/-- The device goes on playing the greeting it played before: a plan has no action that would tell it
otherwise. -/
theorem switched_unfollowed : ¬∀ (probe : ContentProbe) (m m' : Memory) (r : Report), m.FamiliesApart →
    m.carrier.snapshot.SinglyActive → (ofKind .greetingSync probe).cycle.run Memory.answer m = (.ok r, m') →
    r.warnings = [] → m'.GreetingsAgree := by
  intro follows
  have apart : switched.FamiliesApart := by decide +kernel
  have single : switched.carrier.snapshot.SinglyActive := by
    unfold Snapshot.SinglyActive
    decide +kernel
  have device : ((((ofKind .greetingSync {}).sync switched).device.snapshot.retain .greeting).get? "a").map
      Item.kind = some (.greeting .normal true) := by decide +kernel
  have carrier : ((((ofKind .greetingSync {}).sync switched).carrier.snapshot.retain .greeting).get? "a").map
      Item.kind = some (.greeting .normal false) := by decide +kernel
  have clean : ((ofKind .greetingSync {}).cycle.run Memory.answer switched).1.toOption.map Report.warnings =
      some [] := by decide +kernel
  cases completed : ((ofKind .greetingSync {}).cycle.run Memory.answer switched).1 with
  | error e =>
    rw [completed] at clean
    cases clean
  | ok r =>
    rw [completed] at clean
    obtain ⟨i, onDevice, kindI⟩ := Option.map_eq_some_iff.mp device
    obtain ⟨j, onCarrier, kindJ⟩ := Option.map_eq_some_iff.mp carrier
    have agree := follows {} switched ((ofKind .greetingSync {}).sync switched) r apart single
      (Prod.ext completed rfl) (Option.some.inj clean)
    rw [agree.2 "a" i j onDevice onCarrier, kindJ] at kindI
    cases kindI

end Policy

end MailboxSync
