import MailboxSync.Proofs.Families

namespace MailboxSync

namespace Item

theorem markRead_of_read {i : Item} (read : i.isRead = true) : i.markRead = i := by
  obtain ⟨id, kind, isRead, hasContent, uri, len⟩ := i
  cases read
  rfl

end Item

theorem Recording.markRead_of_read {r : Recording} (read : r.item.isRead = true) : r.markRead = r := by
  rw [markRead, Item.markRead_of_read read]

namespace Slot

variable {faulty : Prop} {s t : Slot} {as bs cs : List Action} {a : Action} {f : Family}

/-- What becomes of a message that device and carrier both have: both take over a read mark, and the
device gets the content if it lacks it. -/
def merge (d : Item) (content : Option Payload) (r : Recording) : Slot :=
  let marked := if r.item.isRead then d.markRead else d
  let heard := if d.isRead then r.markRead else r
  { item := some (if d.hasContent then marked else r.item.holding r.payload marked)
    content := if d.hasContent then content else some r.payload
    recording := some heard
    mirror := some heard.item }

/-- What becomes of a message that vanished from the carrier. -/
def forsaken (p : Policy) (d : Item) (content : Option Payload) : Slot :=
  match p with
  | .noLocalDeletion => ⟨some d.markRead, content, none, none⟩
  | .fullSync | .greetingSync _ => ⟨none, none, none, none⟩

/-- What a cycle that nothing disturbs makes of the slot of a message. -/
def landed (p : Policy) (s : Slot) : Slot :=
  match (s.seen .voicemail).item, (s.seen .voicemail).recording, (s.seen .voicemail).mirror with
  | none, none, _ => { s with mirror := none }
  | none, some r, none => ⟨some r.item.bare, s.content, some r, some r.item⟩
  | none, some _, some _ => ⟨none, s.content, none, none⟩
  | some d, none, _ => forsaken p d s.content
  | some d, some r, _ => merge d s.content r

/-- What two of them make of it: the content of a message that came in is fetched by the second. -/
def settled (p : Policy) (s : Slot) : Slot :=
  match (s.seen .voicemail).item, (s.seen .voicemail).recording, (s.seen .voicemail).mirror with
  | none, some r, none => merge r.item.bare s.content r
  | _, _, _ => s.landed p

variable {p : Policy} {d : Item} {x : Option Payload} {r : Recording}

theorem merge_markRead_item (read : r.item.isRead = true) : merge d.markRead x r = merge d x r := by
  obtain ⟨id, kind, isRead, hasContent, uri, len⟩ := d
  obtain ⟨⟨id', kind', isRead', hasContent', uri', len'⟩, payload⟩ := r
  cases read
  cases isRead <;> cases hasContent <;> rfl

theorem merge_markRead_recording (read : d.isRead = true) : merge d x r.markRead = merge d x r := by
  obtain ⟨id, kind, isRead, hasContent, uri, len⟩ := d
  obtain ⟨⟨id', kind', isRead', hasContent', uri', len'⟩, payload⟩ := r
  cases read
  cases isRead' <;> cases hasContent <;> rfl

theorem merge_holding (lacks : d.hasContent = false) :
    merge (r.item.holding r.payload d) (some r.payload) r = merge d x r := by
  obtain ⟨id, kind, isRead, hasContent, uri, len⟩ := d
  obtain ⟨⟨id', kind', isRead', hasContent', uri', len'⟩, payload⟩ := r
  cases lacks
  cases isRead <;> cases isRead' <;> rfl

theorem Obeys.of_fetch {m : Option Item}
    (obeys : Obeys faulty (if d.hasContent then [] else [⟨.fetchContent, .carrier, r.item⟩])
      ⟨some d, x, some r, m⟩ cs t) :
    ∃ d' x', t = ⟨some d', x', some r, m⟩ ∧ merge d' x' r = merge d x r ∧ d'.isRead = d.isRead ∧
      (∀ y, cs.foldl (fun y a => a.observe y) y = y) ∧
      (¬faulty → d' = (if d.hasContent then d else r.item.holding r.payload d) ∧
        x' = if d.hasContent then x else some r.payload) := by
  cases held : d.hasContent with
  | true =>
    rw [held] at obeys
    obtain ⟨rfl, rfl⟩ := obeys.of_nil
    exact ⟨d, x, rfl, rfl, rfl, fun _ => rfl, fun _ => ⟨rfl, rfl⟩⟩
  | false =>
    rw [held] at obeys
    rcases obeys.of_singleton with ⟨_, rfl, rfl⟩ | ⟨reason, rfl, rfl⟩
    · exact ⟨_, _, rfl, merge_holding held, rfl, fun _ => rfl, fun _ => ⟨rfl, rfl⟩⟩
    · refine ⟨d, x, rfl, rfl, rfl, fun _ => rfl, ?_⟩
      intro sure
      rcases reason with fault | refused
      · exact absurd fault sure
      · cases refused

theorem Obeys.of_marks {m : Option Item} (read : Bool)
    (marks : as = [] ∧ (read = true → r.item.isRead = true) ∨
      ∃ a, as = [a] ∧ a.kind = .markAsRead ∧ read = true)
    (obeys : Obeys faulty as ⟨some d, x, some r, m⟩ cs t) :
    ∃ r', t = ⟨some d, x, some r', m⟩ ∧ (r' = r ∨ read = true ∧ r' = r.markRead) ∧
      cs.foldl (fun y a => a.observe y) (some r.item) = some r'.item ∧
      (¬faulty ∨ as ⊆ cs → r' = if read then r.markRead else r) := by
  rcases marks with ⟨rfl, behind⟩ | ⟨a, rfl, kind, rfl⟩
  · obtain ⟨rfl, rfl⟩ := obeys.of_nil
    refine ⟨r, rfl, Or.inl rfl, rfl, ?_⟩
    intro _
    split
    · next marked => exact (Recording.markRead_of_read (behind marked)).symm
    · rfl
  · rcases obeys.of_singleton with ⟨_, rfl, rfl⟩ | ⟨reason, rfl, rfl⟩
    · refine ⟨r.markRead, by simp [obey, kind], Or.inr ⟨rfl, rfl⟩, ?_, fun _ => rfl⟩
      simp [Action.observe, kind, Recording.markRead]
    · refine ⟨r, rfl, Or.inl rfl, rfl, ?_⟩
      rintro (sure | completed)
      · rcases reason with fault | refused
        · exact absurd fault sure
        · simp [grants, kind] at refused
      · cases completed List.mem_cons_self

/-- The commands about a message that both have: content is fetched if the device lacks it, and the
carrier is told of a read mark if it lacks that. -/
theorem Obeys.of_commands {m : Option Item} {d₀ : Item} (content : d₀.hasContent = d.hasContent)
    (obeys : Obeys faulty (Policy.messageCommands (some d) (some r.item) m) ⟨some d₀, x, some r, m⟩ cs t) :
    ∃ d' x' r', t = ⟨some d', x', some r', m⟩ ∧ merge d' x' r = merge d₀ x r ∧
      d'.isRead = d₀.isRead ∧ (r' = r ∨ d.isRead = true ∧ r' = r.markRead) ∧
      cs.foldl (fun y a => a.observe y) (some r.item) = some r'.item ∧
      (¬faulty → d' = (if d₀.hasContent then d₀ else r.item.holding r.payload d₀) ∧
        x' = if d₀.hasContent then x else some r.payload) ∧
      ((¬faulty ∨ ∀ a ∈ Policy.messageCommands (some d) (some r.item) m, a.kind = .markAsRead → a ∈ cs) →
        r' = if d.isRead then r.markRead else r) := by
  obtain ⟨as, commands, single⟩ := Policy.messageCommands_of_both d r.item m
  rw [commands] at obeys ⊢
  obtain ⟨cs₁, v, cs₂, rfl, fetches, marks⟩ := Obeys.of_append obeys
  rw [← content] at fetches
  have foreign : ∀ a ∈ cs₁, a.kind = .fetchContent := by
    intro a mem
    have asked := fetches.subset mem
    split at asked
    · cases asked
    · rw [List.mem_singleton.mp asked]
  obtain ⟨d', x', rfl, kept, read', quiet, fetched⟩ := fetches.of_fetch
  obtain ⟨r', rfl, marked, observed, sure⟩ := marks.of_marks d.isRead single
  refine ⟨d', x', r', rfl, kept, read', marked, ?_, fetched, ?_⟩
  · rw [List.foldl_append, quiet, observed]
  · intro reason
    refine sure (reason.imp_right fun completed a mem => ?_)
    have kind : a.kind = .markAsRead := by
      rcases single with ⟨nothing, _⟩ | ⟨b, one, kind, _⟩
      · rw [nothing] at mem
        cases mem
      · rw [one] at mem
        rw [List.mem_singleton.mp mem, kind]
    rcases List.mem_append.mp (completed a (List.mem_append_right _ mem) kind) with mem | mem
    · rw [foreign a mem] at kind
      cases kind
    · exact mem

theorem plan_of_listed (voicemail : p.family = .voicemail)
    (listed : ∀ i, s.Holds i → i.listed .voicemail = true) :
    s.plan p = p.planAt s.item (s.recording.map Recording.item) s.mirror := by
  rw [plan, voicemail, heard_of_listed listed, seen_of_listed listed]

theorem carrier_plan_of_listed {k : String} (voicemail : p.family = .voicemail)
    (listed : ∀ i, s.Holds i → i.listed .voicemail = true) (named : ∀ i, s.Holds i → i.id = k) :
    (s.plan p).carrier.toList =
      Policy.messageCommands s.item (s.recording.map Recording.item) s.mirror := by
  rw [plan_of_listed voicemail listed, Policy.carrier_planAt_of_voicemail _ _ _ voicemail]
  intro i item j heard
  obtain ⟨r, recording, rfl⟩ := Option.map_eq_some_iff.mp heard
  rw [named i (Or.inl item), named r.item (Or.inr (Or.inl ⟨r, recording, rfl⟩))]

theorem observed_none (cs : List Action) :
    cs.foldl (fun y a => a.observe y) (none : Option Item) = none := by
  rw [← Option.not_isSome_iff_eq_none]
  intro left
  obtain ⟨i, left⟩ := Option.isSome_iff_exists.mp left
  obtain ⟨j, absent, _⟩ := alike_of_observed left
  cases absent

variable {k : String} {m : Option Item} {settled renewed : Bool}

section

variable {i : Option Item} {c : Option Recording}

/-- What a cycle does about a message. -/
theorem Turns.of_listed (voicemail : p.family = .voicemail)
    (listed : ∀ j, (Slot.mk i x c m).Holds j → j.listed .voicemail = true)
    (named : ∀ j, (Slot.mk i x c m).Holds j → j.id = k)
    (turns : (Slot.mk i x c m).Turns p faulty
      (Action.alterAll ((Slot.mk i x c m).plan p).device.toList k) settled renewed t) :
    ∃ cs u, Obeys faulty (Policy.messageCommands i (c.map Recording.item) m)
        (if settled then (Slot.mk i x c m).transacted
          (Action.alterAll (p.planAt i (c.map Recording.item) m).device.toList k) else ⟨i, x, c, m⟩) cs u ∧
      t = if renewed then
        { u with mirror := cs.foldl (fun y a => a.observe y) (c.map Recording.item) } else u := by
  obtain ⟨cs, u, obeys, rfl⟩ := turns
  have planned : (Slot.mk i x c m).plan p = p.planAt i (c.map Recording.item) m :=
    plan_of_listed voicemail listed
  have heard : (Slot.mk i x c m).heard .voicemail = c.map Recording.item := heard_of_listed listed
  rw [carrier_plan_of_listed voicemail listed named, planned] at obeys
  rw [voicemail, heard]
  exact ⟨cs, u, obeys, rfl⟩

end

/-- A name that only the mirror knows is forgotten. -/
theorem Turns.gone (voicemail : p.family = .voicemail)
    (listed : ∀ i, (Slot.mk none x none m).Holds i → i.listed .voicemail = true)
    (named : ∀ i, (Slot.mk none x none m).Holds i → i.id = k)
    (turns : (Slot.mk none x none m).Turns p faulty
      (Action.alterAll ((Slot.mk none x none m).plan p).device.toList k) settled renewed t) :
    ∃ m', t = ⟨none, x, none, m'⟩ ∧ (renewed = true → m' = none) := by
  obtain ⟨cs, u, obeys, rfl⟩ := turns.of_listed voicemail listed named
  rw [Policy.device_planAt_of_voicemail _ _ _ voicemail] at obeys
  have start : (if settled then (Slot.mk none x none m).transacted (Action.alterAll [] k)
      else ⟨none, x, none, m⟩) = ⟨none, x, none, m⟩ := by
    cases settled <;> rfl
  simp only [Option.map_none, start] at obeys
  have still : u = ⟨none, x, none, m⟩ := by
    cases m with
    | none => exact obeys.of_nil.2
    | some i =>
      rcases obeys.of_singleton with ⟨_, _, rfl⟩ | ⟨_, _, rfl⟩
      · rfl
      · rfl
  rw [still, Option.map_none, observed_none]
  cases renewed with
  | false => exact ⟨m, rfl, fun renewed => absurd renewed Bool.false_ne_true⟩
  | true => exact ⟨none, rfl, fun _ => rfl⟩

/-- A message comes in, or all stays as it was. -/
theorem Turns.arrived (voicemail : p.family = .voicemail)
    (listed : ∀ i, (Slot.mk none x (some r) none).Holds i → i.listed .voicemail = true)
    (named : ∀ i, (Slot.mk none x (some r) none).Holds i → i.id = k)
    (turns : (Slot.mk none x (some r) none).Turns p faulty
      (Action.alterAll ((Slot.mk none x (some r) none).plan p).device.toList k) settled renewed t) :
    t = { (if settled then ⟨some r.item.bare, x, some r, none⟩ else ⟨none, x, some r, none⟩ : Slot) with
      mirror := if renewed then some r.item else none } := by
  obtain ⟨cs, u, obeys, rfl⟩ := turns.of_listed voicemail listed named
  rw [Policy.device_planAt_of_voicemail _ _ _ voicemail] at obeys
  obtain ⟨rfl, rfl⟩ := obeys.of_nil
  have own : r.item.id = k := named r.item (Or.inr (Or.inl ⟨r, rfl, rfl⟩))
  cases settled <;> cases renewed <;> simp [transacted, Action.alterAll, Action.alter, Action.id, own]

/-- A message that was taken off the device is erased. Until then it is remembered. -/
theorem Turns.takenOff {i : Item} (voicemail : p.family = .voicemail)
    (listed : ∀ j, (Slot.mk none x (some r) (some i)).Holds j → j.listed .voicemail = true)
    (named : ∀ j, (Slot.mk none x (some r) (some i)).Holds j → j.id = k)
    (turns : (Slot.mk none x (some r) (some i)).Turns p faulty
      (Action.alterAll ((Slot.mk none x (some r) (some i)).plan p).device.toList k) settled renewed t) :
    (∃ m', t = ⟨none, x, none, m'⟩ ∧ (renewed = true → m' = none)) ∨
      faulty ∧ ∃ i', t = ⟨none, x, some r, some i'⟩ := by
  obtain ⟨cs, u, obeys, rfl⟩ := turns.of_listed voicemail listed named
  rw [Policy.device_planAt_of_voicemail _ _ _ voicemail] at obeys
  have start : (if settled then (Slot.mk none x (some r) (some i)).transacted (Action.alterAll [] k)
      else ⟨none, x, some r, some i⟩) = ⟨none, x, some r, some i⟩ := by
    cases settled <;> rfl
  simp only [Option.map_some, Option.isSome_some, if_true, start] at obeys
  rcases obeys.of_singleton with ⟨_, rfl, rfl⟩ | ⟨reason, rfl, rfl⟩
  · left
    cases renewed with
    | false => exact ⟨some i, rfl, fun renewed => absurd renewed Bool.false_ne_true⟩
    | true => exact ⟨none, rfl, fun _ => rfl⟩
  · right
    have fault : faulty := reason.resolve_right (by simp [grants])
    cases renewed with
    | false => exact ⟨fault, i, rfl⟩
    | true => exact ⟨fault, r.item, rfl⟩

/-- A message that vanished from the carrier vanishes from the device or is read there, whatever
the carrier is told about it. -/
theorem Turns.vanished (voicemail : p.family = .voicemail)
    (listed : ∀ i, (Slot.mk (some d) x none m).Holds i → i.listed .voicemail = true)
    (named : ∀ i, (Slot.mk (some d) x none m).Holds i → i.id = k)
    (turns : (Slot.mk (some d) x none m).Turns p faulty
      (Action.alterAll ((Slot.mk (some d) x none m).plan p).device.toList k) settled renewed t) :
    t = { (if settled then forsaken p d x else ⟨some d, x, none, none⟩ : Slot) with
      mirror := if renewed then none else m } := by
  have own : d.id = k := named d (Or.inl rfl)
  obtain ⟨cs, u, obeys, rfl⟩ := turns.of_listed voicemail listed named
  rw [Policy.device_planAt_of_voicemail _ _ _ voicemail] at obeys
  have start : (if settled then (Slot.mk (some d) x none m).transacted
      (Action.alterAll (p.onDeviceOnly d) k) else ⟨some d, x, none, m⟩) =
      { (if settled then forsaken p d x else ⟨some d, x, none, none⟩ : Slot) with mirror := m } := by
    cases settled with
    | false => rfl
    | true =>
      cases p with
      | greetingSync probe => cases voicemail
      | fullSync =>
        simp [transacted, forsaken, Policy.onDeviceOnly, Action.alterAll, Action.alter, Action.id, own]
      | noLocalDeletion =>
        cases read : d.isRead <;>
          simp [transacted, forsaken, Policy.onDeviceOnly, read, Action.alterAll, Action.alter,
            Action.id, own, Item.markRead_of_read]
  have missing : (if settled then forsaken p d x else ⟨some d, x, none, none⟩ : Slot).recording = none := by
    cases settled <;> cases p <;> rfl
  simp only [Option.map_none, start] at obeys
  generalize (if settled then forsaken p d x else ⟨some d, x, none, none⟩ : Slot) = v at *
  -- The carrier may be told that the message was read, and has nothing to mark.
  have still : u = { v with mirror := m } := by
    simp only [Policy.messageCommands] at obeys
    split at obeys
    · rcases obeys.of_singleton with ⟨granted, _, _⟩ | ⟨_, _, rfl⟩
      · simp [grants, missing] at granted
      · rfl
    · exact obeys.of_nil.2
  rw [Option.map_none, observed_none, still]
  cases renewed <;> rfl

/-- The device takes over a read mark from the carrier. -/
theorem transacted_shared (voicemail : p.family = .voicemail) (own : d.id = k) (r : Recording) :
    (Slot.mk (some d) x (some r) m).transacted (Action.alterAll
      (p.planAt (some d) (some r.item) m).device.toList k) =
    ⟨some (if r.item.isRead then d.markRead else d), x, some r, m⟩ := by
  rw [Policy.device_planAt_of_voicemail _ _ _ voicemail]
  cases read : d.isRead <;> cases far : r.item.isRead <;>
    simp [transacted, read, far, Action.alterAll, Action.alter, Action.id, own, Item.markRead_of_read]

/-- A message that both have goes on to be merged, however much of a cycle fails. -/
theorem Turns.shared (voicemail : p.family = .voicemail)
    (listed : ∀ i, (Slot.mk (some d) x (some r) m).Holds i → i.listed .voicemail = true)
    (named : ∀ i, (Slot.mk (some d) x (some r) m).Holds i → i.id = k)
    (turns : (Slot.mk (some d) x (some r) m).Turns p faulty
      (Action.alterAll ((Slot.mk (some d) x (some r) m).plan p).device.toList k) settled renewed t) :
    ∃ d' x' r' m', t = ⟨some d', x', some r', m'⟩ ∧ merge d' x' r' = merge d x r ∧
      (¬faulty → settled = true → renewed = true → t = merge d x r) := by
  have after := transacted_shared (m := m) (x := x) voicemail (named d (Or.inl rfl)) r
  obtain ⟨cs, u, obeys, rfl⟩ := turns.of_listed voicemail listed named
  -- The item that the commands find, be it with the mark the transaction sets.
  obtain ⟨d₀, start, same, content, read, done⟩ : ∃ d₀,
      (if settled then (Slot.mk (some d) x (some r) m).transacted (Action.alterAll
        (p.planAt (some d) (some r.item) m).device.toList k) else ⟨some d, x, some r, m⟩) =
        ⟨some d₀, x, some r, m⟩ ∧ merge d₀ x r = merge d x r ∧ d₀.hasContent = d.hasContent ∧
      (d.isRead = true → d₀.isRead = true) ∧
      (settled = true → d₀ = if r.item.isRead then d.markRead else d) := by
    cases settled with
    | false => exact ⟨d, rfl, rfl, rfl, id, fun settled => absurd settled Bool.false_ne_true⟩
    | true =>
      refine ⟨_, after, ?_, ?_, ?_, fun _ => rfl⟩
      · split
        · next far => exact merge_markRead_item far
        · rfl
      · split <;> rfl
      · intro read
        split
        · rfl
        · exact read
  simp only [Option.map_some, start] at obeys
  obtain ⟨d', x', r', rfl, kept, read', marked, observed, fetched, sure⟩ := obeys.of_commands content
  have merged : merge d' x' r' = merge d x r := by
    rcases marked with rfl | ⟨near, rfl⟩
    · exact kept.trans same
    · rw [merge_markRead_recording (by rw [read', read near])]
      exact kept.trans same
  rw [Option.map_some, observed]
  cases renewed with
  | false => exact ⟨d', x', r', m, rfl, merged, fun _ _ renewed => absurd renewed Bool.false_ne_true⟩
  | true =>
    refine ⟨d', x', r', some r'.item, rfl, merged, ?_⟩
    intro quietly settled _
    obtain ⟨rfl, rfl⟩ := fetched quietly
    rw [sure (Or.inl quietly), merge, done settled]
    cases d.isRead <;> cases r.item.isRead <;> rfl

theorem settled_of_listed (listed : ∀ i, s.Holds i → i.listed .voicemail = true) : s.settled p =
    match s.item, s.recording, s.mirror with
    | none, none, _ => { s with mirror := none }
    | none, some r, none => merge r.item.bare s.content r
    | none, some _, some _ => ⟨none, s.content, none, none⟩
    | some d, none, _ => forsaken p d s.content
    | some d, some r, _ => merge d s.content r := by
  obtain ⟨item, content, recording, mirror⟩ := s
  rw [settled, landed, seen_of_listed listed]
  cases item <;> cases recording <;> cases mirror <;> rfl

theorem landed_of_listed (listed : ∀ i, s.Holds i → i.listed .voicemail = true) : s.landed p =
    match s.item, s.recording, s.mirror with
    | none, none, _ => { s with mirror := none }
    | none, some r, none => ⟨some r.item.bare, s.content, some r, some r.item⟩
    | none, some _, some _ => ⟨none, s.content, none, none⟩
    | some d, none, _ => forsaken p d s.content
    | some d, some r, _ => merge d s.content r := by
  rw [landed, seen_of_listed listed]

theorem landed_of_unlisted (unlisted : ∀ i, s.Holds i → i.listed .voicemail = false) :
    s.landed p = { s with mirror := none } ∧ s.settled p = { s with mirror := none } := by
  rw [settled, landed, seen_of_unlisted unlisted]
  exact ⟨rfl, rfl⟩

/-- Of what other cycles are for, a cycle only loses the mirror. -/
theorem Turns.foreign (voicemail : p.family = .voicemail)
    (unlisted : ∀ i, s.Holds i → i.listed .voicemail = false)
    (turns : s.Turns p faulty (Action.alterAll (s.plan p).device.toList k) settled renewed t) :
    t = if renewed then { s with mirror := none } else s := by
  have heard : s.heard .voicemail = none := by rw [heard, seen_of_unlisted unlisted]; rfl
  have planned : s.plan p = p.planAt none none none := by
    rw [plan, voicemail, heard, seen_of_unlisted unlisted]
  obtain ⟨cs, u, obeys, rfl⟩ := turns
  rw [planned, Policy.device_planAt_of_voicemail _ _ _ voicemail,
    Policy.carrier_planAt_of_voicemail _ _ _ voicemail (by simp)] at obeys
  have start : (if settled then s.transacted (Action.alterAll [] k) else s) = s := by
    cases settled with
    | false => rfl
    | true => exact transacted_id s
  rw [start] at obeys
  obtain ⟨rfl, rfl⟩ := obeys.of_nil
  rw [voicemail, heard]
  rfl

/-- A cycle brings a message no further away from where two quiet cycles take it, whatever fails
on the way. Where nothing fails it makes the first of the two steps. -/
theorem Turns.message (voicemail : p.family = .voicemail) (apart : s.Apart .voicemail)
    (named : ∀ i, s.Holds i → i.id = k) (descends : s.Descends t)
    (bound : renewed = true → settled = true)
    (turns : s.Turns p faulty (Action.alterAll (s.plan p).device.toList k) settled renewed t) :
    t.settled p = s.settled p ∧ (¬faulty → settled = true → renewed = true → t = s.landed p) := by
  rcases apart with listed | unlisted
  · have later := listed_of_descends listed descends
    rw [settled_of_listed later, settled_of_listed listed, landed_of_listed listed]
    obtain ⟨item, content, recording, mirror⟩ := s
    -- Which stores know the message decides what the policy asks for.
    cases item with
    | none =>
      cases recording with
      | none =>
        obtain ⟨m', rfl, forgotten⟩ := turns.gone voicemail listed named
        refine ⟨rfl, ?_⟩
        intro _ _ renewed
        rw [forgotten renewed]
      | some r =>
        cases mirror with
        | none =>
          have outcome := turns.arrived voicemail listed named
          subst outcome
          refine ⟨?_, ?_⟩
          · cases settled with
            | true => rfl
            | false =>
              cases renewed with
              | true => cases bound rfl
              | false => rfl
          · rintro _ rfl rfl
            rfl
        | some i =>
          rcases turns.takenOff voicemail listed named with ⟨m', rfl, forgotten⟩ | ⟨fault, i', rfl⟩
          · refine ⟨rfl, ?_⟩
            intro _ _ renewed
            rw [forgotten renewed]
          · exact ⟨rfl, fun quiet => absurd fault quiet⟩
    | some d =>
      cases recording with
      | none =>
        have outcome := turns.vanished voicemail listed named
        subst outcome
        cases p with
        | greetingSync probe => cases voicemail
        | fullSync => cases settled <;> cases renewed <;> simp [forsaken]
        | noLocalDeletion => cases settled <;> cases renewed <;> simp [forsaken, Item.markRead]
      | some r =>
        obtain ⟨d', x', r', m', rfl, merged, quiet⟩ := turns.shared voicemail listed named
        exact ⟨merged, quiet⟩
  · have outcome := turns.foreign voicemail unlisted
    rw [(landed_of_unlisted unlisted).1, (landed_of_unlisted unlisted).2]
    rw [(landed_of_unlisted (unlisted_of_descends unlisted descends)).2]
    subst outcome
    refine ⟨?_, ?_⟩
    · cases renewed <;> rfl
    · rintro _ _ rfl
      rfl

theorem merge_merge {d' : Item} {x' : Option Payload} {r' : Recording} {m' : Option Item}
    (merged : merge d x r = ⟨some d', x', some r', m'⟩) : merge d' x' r' = merge d x r := by
  cases merged
  obtain ⟨id, kind, isRead, hasContent, uri, len⟩ := d
  obtain ⟨⟨id', kind', isRead', hasContent', uri', len'⟩, payload⟩ := r
  cases hasContent <;> cases isRead <;> cases isRead' <;> rfl

/-- The second of two quiet cycles goes where the first one was heading. -/
theorem landed_landed (p : Policy) (apart : s.Apart .voicemail) (descends : s.Descends (s.landed p)) :
    (s.landed p).landed p = s.settled p := by
  rcases apart with listed | unlisted
  · have later := listed_of_descends listed descends
    rw [landed_of_listed later, landed_of_listed listed, settled_of_listed listed]
    obtain ⟨item, content, recording, mirror⟩ := s
    cases item with
    | none =>
      cases recording with
      | none => rfl
      | some r => cases mirror <;> rfl
    | some d =>
      cases recording with
      | none => cases p <;> rfl
      | some r => exact merge_merge rfl
  · have later := unlisted_of_descends unlisted descends
    rw [(landed_of_unlisted later).1, (landed_of_unlisted unlisted).1, (landed_of_unlisted unlisted).2]

theorem rests_of_listed (voicemail : p.family = .voicemail)
    (listed : ∀ i, s.Holds i → i.listed .voicemail = true) (named : ∀ i, s.Holds i → i.id = k)
    (device : (p.planAt s.item (s.recording.map Recording.item) s.mirror).device.toList = [])
    (carrier : Policy.messageCommands s.item (s.recording.map Recording.item) s.mirror = [])
    (mirror : s.mirror = s.recording.map Recording.item) : s.Rests p := by
  refine ⟨?_, ?_, ?_⟩
  · rw [plan_of_listed voicemail listed, device]
  · rw [carrier_plan_of_listed voicemail listed named, carrier]
  · rw [voicemail, heard_of_listed listed, mirror]

theorem rests_merge (voicemail : p.family = .voicemail)
    (listed : ∀ i, (merge d x r).Holds i → i.listed .voicemail = true)
    (named : ∀ i, (merge d x r).Holds i → i.id = k) : (merge d x r).Rests p := by
  refine rests_of_listed voicemail listed named ?_ ?_ rfl
  · rw [Policy.device_planAt_of_voicemail _ _ _ voicemail]
    cases held : d.hasContent <;> cases near : d.isRead <;> cases far : r.item.isRead <;>
      simp [merge, held, near, far, Item.holding, Item.markRead, Recording.markRead]
  · cases held : d.hasContent <;> cases near : d.isRead <;> cases far : r.item.isRead <;>
      simp [merge, Policy.messageCommands, held, near, far, Item.holding, Item.markRead, Recording.markRead]

/-- Two quiet cycles leave nothing to do about a message. -/
theorem rests_settled (voicemail : p.family = .voicemail) (apart : s.Apart .voicemail)
    (named : ∀ i, (s.settled p).Holds i → i.id = k) (descends : s.Descends (s.settled p)) :
    (s.settled p).Rests p := by
  rcases apart with listed | unlisted
  · have later := listed_of_descends listed descends
    have shape := settled_of_listed listed (p := p)
    clear descends
    generalize s.settled p = u at *
    obtain ⟨item, content, recording, mirror⟩ := s
    cases item with
    | none =>
      cases recording with
      | none =>
        subst shape
        refine rests_of_listed voicemail later named ?_ rfl rfl
        rw [Policy.device_planAt_of_voicemail _ _ _ voicemail]
        rfl
      | some r =>
        cases mirror with
        | none =>
          subst shape
          exact rests_merge voicemail later named
        | some i =>
          subst shape
          refine rests_of_listed voicemail later named ?_ rfl rfl
          rw [Policy.device_planAt_of_voicemail _ _ _ voicemail]
          rfl
    | some d =>
      cases recording with
      | none =>
        subst shape
        refine rests_of_listed voicemail later named ?_ ?_ ?_
        · rw [Policy.device_planAt_of_voicemail _ _ _ voicemail]
          cases p <;> rfl
        · cases p <;> rfl
        · cases p <;> rfl
      | some r =>
        subst shape
        exact rests_merge voicemail later named
  · have later := unlisted_of_descends unlisted descends
    rw [(landed_of_unlisted unlisted).2] at later ⊢
    have heard : Slot.heard .voicemail { s with mirror := none } = none := by
      rw [heard, seen_of_unlisted later]
      rfl
    have planned : Slot.plan p { s with mirror := none } = p.planAt none none none := by
      rw [plan, voicemail, heard, seen_of_unlisted later]
    refine ⟨?_, ?_, ?_⟩
    · rw [planned, Policy.device_planAt_of_voicemail _ _ _ voicemail]
    · rw [planned, Policy.carrier_planAt_of_voicemail _ _ _ voicemail (by simp)]
      rfl
    · rw [voicemail, heard]

end Slot

end MailboxSync
