import MailboxSync.Proofs.Families
import MailboxSync.Proofs.Matching

namespace MailboxSync

open Program (ask Asks)

theorem filter_eq_self_of_all {α : Type} {x : Option α} {q : α → Bool} (all : ∀ a, x = some a → q a = true) :
    x.filter q = x := by
  cases x with
  | none => rfl
  | some a => rw [Option.filter_some, if_pos (all a rfl)]

namespace Slot

variable {f : Family} {s t : Slot}

/-- Some store has an item of the family under the name. -/
def concerns (f : Family) (s : Slot) : Bool :=
  s.item.any (·.family = f) || s.recording.any (·.item.family = f) || s.mirror.any (·.family = f)

/-- What the stores have of a family under one name. -/
def ofFamily (f : Family) (s : Slot) : Slot where
  item := s.item.filter (·.family = f)
  content := if s.concerns f then s.content else none
  recording := s.recording.filter (·.item.family = f)
  mirror := s.mirror.filter (·.family = f)

theorem concerns_iff : s.concerns f = true ↔ ∃ i, s.Holds i ∧ i.family = f := by
  simp only [concerns, Bool.or_eq_true, Option.any_eq_true, decide_eq_true_eq, or_assoc]
  constructor
  · rintro (⟨i, held, own⟩ | ⟨r, held, own⟩ | ⟨i, held, own⟩)
    · exact ⟨i, Or.inl held, own⟩
    · exact ⟨r.item, Or.inr (Or.inl ⟨r, held, rfl⟩), own⟩
    · exact ⟨i, Or.inr (Or.inr held), own⟩
  · rintro ⟨i, held | ⟨r, held, rfl⟩ | held, own⟩
    · exact Or.inl ⟨i, held, own⟩
    · exact Or.inr (Or.inl ⟨r, held, own⟩)
    · exact Or.inr (Or.inr ⟨i, held, own⟩)

theorem concerns_ofFamily (f : Family) (s : Slot) : (s.ofFamily f).concerns f = s.concerns f := by
  simp only [concerns, ofFamily, Option.any_filter, Bool.and_self]

theorem ofFamily_congr (item : (s.item.filter (·.family = f)) = t.item.filter (·.family = f))
    (content : s.content = t.content)
    (recording : (s.recording.filter (·.item.family = f)) = t.recording.filter (·.item.family = f))
    (mirror : (s.mirror.filter (·.family = f)) = t.mirror.filter (·.family = f)) :
    s.ofFamily f = t.ofFamily f := by
  have concerned : s.concerns f = t.concerns f := by
    simp only [concerns, ← Option.isSome_filter, item, recording, mirror]
  simp only [ofFamily, item, content, recording, mirror, concerned]

theorem ofFamily_of_concerns (all : ∀ i, s.Holds i → i.family = f) (concerned : s.concerns f = true) :
    s.ofFamily f = s := by
  obtain ⟨item, content, recording, mirror⟩ := s
  have ownItem : item.filter (·.family = f) = item :=
    filter_eq_self_of_all fun i held => by simpa using all i (Or.inl held)
  have ownRecording : recording.filter (·.item.family = f) = recording :=
    filter_eq_self_of_all fun r held => by simpa using all r.item (Or.inr (Or.inl ⟨r, held, rfl⟩))
  have ownMirror : mirror.filter (·.family = f) = mirror :=
    filter_eq_self_of_all fun i held => by simpa using all i (Or.inr (Or.inr held))
  simp only [ofFamily, ownItem, ownRecording, ownMirror, concerned, if_true]

theorem ofFamily_of_not_concerns (foreign : s.concerns f = false) : s.ofFamily f = ⟨none, none, none, none⟩ := by
  have unheld : ∀ i, s.Holds i → i.family ≠ f := by
    intro i held own
    rw [concerns_iff.mpr ⟨i, held, own⟩] at foreign
    cases foreign
  obtain ⟨item, content, recording, mirror⟩ := s
  have noItem : item.filter (·.family = f) = none :=
    Option.filter_eq_none_iff.mpr fun i held => by simpa using unheld i (Or.inl held)
  have noRecording : recording.filter (·.item.family = f) = none :=
    Option.filter_eq_none_iff.mpr fun r held => by simpa using unheld r.item (Or.inr (Or.inl ⟨r, held, rfl⟩))
  have noMirror : mirror.filter (·.family = f) = none :=
    Option.filter_eq_none_iff.mpr fun i held => by simpa using unheld i (Or.inr (Or.inr held))
  simp only [ofFamily, noItem, noRecording, noMirror, foreign, Bool.false_eq_true, if_false]

theorem seen_of_not_concerns (foreign : s.concerns f = false) : s.seen f = ⟨none, s.content, none, none⟩ := by
  refine seen_of_unlisted fun i held => ?_
  rw [← Bool.not_eq_true, concerns_iff] at foreign
  have other : i.family ≠ f := fun own => foreign ⟨i, held, own⟩
  simp [Item.listed, other]

/-- A family that has nothing under a name gets nothing there from what only changes what is there. -/
theorem Descends.not_concerns (descends : s.Descends t) (foreign : s.concerns f = false) :
    t.concerns f = false := by
  rw [← Bool.not_eq_true, concerns_iff] at foreign ⊢
  rintro ⟨j, held, own⟩
  obtain ⟨i, before, alike⟩ := descends j held
  exact foreign ⟨i, before, alike.2.symm.trans own⟩

end Slot

/-- A transaction comes out in the same way on two folders that have the same under the names it is about,
and leaves the same under these names. -/
theorem Folder.performAll_same {N : String → Prop} {as : List Action} (within : ∀ a ∈ as, N a.id) {f g : Folder}
    (same : ∀ k, N k → f.get? k = g.get? k) :
    (∃ e, f.performAll as = .error e ∧ g.performAll as = .error e) ∨
      ∃ f' g', f.performAll as = .ok f' ∧ g.performAll as = .ok g' ∧ ∀ k, N k → f'.get? k = g'.get? k := by
  induction as generalizing f g with
  | nil => exact Or.inr ⟨f, g, rfl, rfl, same⟩
  | cons a rest ih =>
    have contained : f.contains a.id = g.contains a.id := by
      rw [Shelf.contains_eq_isSome, Shelf.contains_eq_isSome, same a.id (within a List.mem_cons_self)]
    have first : (∃ e, f.perform a = .error e ∧ g.perform a = .error e) ∨
        ∃ f' g', f.perform a = .ok f' ∧ g.perform a = .ok g' := by
      unfold perform
      rw [contained]
      split
      · split
        · exact Or.inl ⟨_, rfl, rfl⟩
        · exact Or.inr ⟨_, _, rfl, rfl⟩
      · exact Or.inr ⟨_, _, rfl, rfl⟩
      · exact Or.inr ⟨_, _, rfl, rfl⟩
      · exact Or.inl ⟨_, rfl, rfl⟩
    simp only [performAll, List.foldlM_cons]
    rcases first with ⟨e, left, right⟩ | ⟨f', g', left, right⟩
    · exact Or.inl ⟨e, by rw [left]; rfl, by rw [right]; rfl⟩
    · have after : ∀ k, N k → f'.get? k = g'.get? k := by
        intro k own
        rw [get?_perform left, get?_perform right, same k own]
      rw [left, right]
      exact ih (fun b mem => within b (List.mem_cons_of_mem _ mem)) after

/-- What a transaction leaves of the contents. -/
theorem Device.content_kept (d : Device) (items : Folder) (k : String) :
    ((d.keptContents items).get? k).map Prod.snd =
      if (d.items.get? k).isSome && (items.get? k).isNone then none else d.content k := by
  rw [get?_keptContents, apply_ite (Option.map Prod.snd)]
  rfl

/-- Every name that the call is about is one of these. -/
def Request.Within (N : String → Prop) : Request → Prop
  | .listDevice | .listCarrier | .listMirror => True
  | .applyDevice as => ∀ a ∈ as, N a.id
  | .storeContent i _ | .fetchContent i => N i.id
  | .applyCarrier a => N a.id
  | .replaceMirror s => ∀ k, s.contains k = true → N k

namespace Memory

/-- The same calls are going to fail. -/
structure SameFaults (m n : Memory) : Prop where
  deviceList : m.device.listFault = n.device.listFault
  deviceApply : m.device.applyFault = n.device.applyFault
  carrierList : m.carrier.listFault = n.carrier.listFault
  actions : m.carrier.actionFaults = n.carrier.actionFaults
  fetches : m.carrier.fetchFaults = n.carrier.fetchFaults
  mirror : m.mirror.replaceFault = n.mirror.replaceFault

/-- Two systems that have the same under these names, and where the same calls are going to fail. -/
structure SameOn (N : String → Prop) (m n : Memory) : Prop where
  faults : m.SameFaults n
  slots : ∀ k, N k → m.slot k = n.slot k

variable {N : String → Prop} {m n : Memory} {r : Request}

namespace SameOn

variable (same : SameOn N m n)

include same

theorem of_device {d e : Device} (listFault : d.listFault = e.listFault) (applyFault : d.applyFault = e.applyFault)
    (items : ∀ k, N k → d.items.get? k = e.items.get? k) (contents : ∀ k, N k → d.content k = e.content k) :
    SameOn N { m with device := d } { n with device := e } where
  faults := { same.faults with deviceList := listFault, deviceApply := applyFault }
  slots k own := by
    have before := same.slots k own
    show Slot.mk (d.items.get? k) (d.content k) (m.slot k).recording (m.slot k).mirror = _
    rw [items k own, contents k own, before]
    rfl

theorem of_carrier {c d : Carrier} (listFault : c.listFault = d.listFault)
    (actionFaults : c.actionFaults = d.actionFaults) (fetchFaults : c.fetchFaults = d.fetchFaults)
    (recordings : ∀ k, N k → c.recordings.get? k = d.recordings.get? k) :
    SameOn N { m with carrier := c } { n with carrier := d } where
  faults := { same.faults with carrierList := listFault, actions := actionFaults, fetches := fetchFaults }
  slots k own := by
    have before := same.slots k own
    show Slot.mk (m.slot k).item (m.slot k).content (c.recordings.get? k) (m.slot k).mirror = _
    rw [recordings k own, before]
    rfl

theorem of_mirror {x y : Mirror} (replaceFault : x.replaceFault = y.replaceFault)
    (snapshot : ∀ k, N k → x.snapshot.get? k = y.snapshot.get? k) :
    SameOn N { m with mirror := x } { n with mirror := y } where
  faults := { same.faults with mirror := replaceFault }
  slots k own := by
    have before := same.slots k own
    show Slot.mk (m.slot k).item (m.slot k).content (m.slot k).recording (x.snapshot.get? k) = _
    rw [snapshot k own, before]
    rfl

theorem items {k : String} (own : N k) : m.device.items.get? k = n.device.items.get? k :=
  congrArg Slot.item (same.slots k own)

theorem content {k : String} (own : N k) : m.device.content k = n.device.content k :=
  congrArg Slot.content (same.slots k own)

theorem recordings {k : String} (own : N k) : m.carrier.recordings.get? k = n.carrier.recordings.get? k :=
  congrArg Slot.recording (same.slots k own)

theorem applyDevice {as : List Action} (within : ∀ a ∈ as, N a.id) :
    (m.answer (.applyDevice as)).1 = (n.answer (.applyDevice as)).1 ∧
      SameOn N (m.answer (.applyDevice as)).2 (n.answer (.applyDevice as)).2 := by
  show (m.device.apply as).1 = (n.device.apply as).1 ∧
    SameOn N { m with device := (m.device.apply as).2 } { n with device := (n.device.apply as).2 }
  have listFault := same.faults.deviceList
  have applyFault := same.faults.deviceApply
  unfold Device.apply
  cases armed : n.device.applyFault with
  | some reason =>
    rw [applyFault, armed]
    exact ⟨rfl, same.of_device listFault rfl (fun _ => same.items) fun _ => same.content⟩
  | none =>
    rw [applyFault, armed]
    rcases Folder.performAll_same within (fun _ => same.items) with ⟨e, left, right⟩ | ⟨f, g, left, right, after⟩
    · simp only [left, right]
      exact ⟨trivial, same.of_device listFault applyFault (fun _ => same.items) fun _ => same.content⟩
    · simp only [left, right]
      refine ⟨trivial, same.of_device listFault rfl after fun k own => ?_⟩
      show ((m.device.keptContents f).get? k).map Prod.snd = ((n.device.keptContents g).get? k).map Prod.snd
      rw [Device.content_kept, Device.content_kept, same.items own, after k own, same.content own]

theorem storeContent {i : Item} (p : Payload) (within : N i.id) :
    (m.answer (.storeContent i p)).1 = (n.answer (.storeContent i p)).1 ∧
      SameOn N (m.answer (.storeContent i p)).2 (n.answer (.storeContent i p)).2 := by
  show (m.device.storeContent i p).1 = (n.device.storeContent i p).1 ∧
    SameOn N { m with device := (m.device.storeContent i p).2 } { n with device := (n.device.storeContent i p).2 }
  have faults : ∀ d : Device, (d.storeContent i p).2.listFault = d.listFault ∧
      (d.storeContent i p).2.applyFault = d.applyFault := by
    intro d
    unfold Device.storeContent
    split <;> exact ⟨rfl, rfl⟩
  refine ⟨?_, same.of_device ?_ ?_ (fun k own => ?_) fun k own => ?_⟩
  · unfold Device.storeContent
    rw [Shelf.contains_eq_isSome, Shelf.contains_eq_isSome, same.items within]
    split <;> rfl
  · rw [(faults _).1, (faults _).1, same.faults.deviceList]
  · rw [(faults _).2, (faults _).2, same.faults.deviceApply]
  · rw [Device.get?_storeContent, Device.get?_storeContent, same.items own]
  · have kept := same.content own
    simp only [Device.content] at kept ⊢
    rw [Device.get?_storeContent_contents, Device.get?_storeContent_contents, same.items within,
      apply_ite (Option.map Prod.snd), apply_ite (Option.map Prod.snd), kept]

theorem applyCarrier {a : Action} (within : N a.id) :
    (m.answer (.applyCarrier a)).1 = (n.answer (.applyCarrier a)).1 ∧
      SameOn N (m.answer (.applyCarrier a)).2 (n.answer (.applyCarrier a)).2 := by
  show (m.carrier.apply a).1 = (n.carrier.apply a).1 ∧
    SameOn N { m with carrier := (m.carrier.apply a).2 } { n with carrier := (n.carrier.apply a).2 }
  have listFault := same.faults.carrierList
  have actions := same.faults.actions
  have fetches := same.faults.fetches
  have contained : m.carrier.recordings.contains a.id = n.carrier.recordings.contains a.id := by
    rw [Shelf.contains_eq_isSome, Shelf.contains_eq_isSome, same.recordings within]
  unfold Carrier.apply
  rw [actions, contained]
  split
  · exact ⟨rfl, same.of_carrier listFault rfl fetches fun _ => same.recordings⟩
  · split
    · refine ⟨rfl, same.of_carrier listFault actions fetches fun k own => ?_⟩
      show (m.carrier.remove a.id).recordings.get? k = (n.carrier.remove a.id).recordings.get? k
      rw [Carrier.get?_remove, Carrier.get?_remove, same.recordings own]
    · split
      · refine ⟨rfl, same.of_carrier listFault actions fetches fun k own => ?_⟩
        show (m.carrier.markRead a.id).recordings.get? k = (n.carrier.markRead a.id).recordings.get? k
        rw [Carrier.get?_markRead, Carrier.get?_markRead, same.recordings own]
      · exact ⟨rfl, same.of_carrier listFault actions fetches fun _ => same.recordings⟩
    · exact ⟨rfl, same.of_carrier listFault actions fetches fun _ => same.recordings⟩
    · exact ⟨rfl, same.of_carrier listFault actions fetches fun _ => same.recordings⟩

theorem fetchContent {i : Item} (within : N i.id) :
    (m.answer (.fetchContent i)).1 = (n.answer (.fetchContent i)).1 ∧
      SameOn N (m.answer (.fetchContent i)).2 (n.answer (.fetchContent i)).2 := by
  show (m.carrier.fetchContent i).1 = (n.carrier.fetchContent i).1 ∧
    SameOn N { m with carrier := (m.carrier.fetchContent i).2 } { n with carrier := (n.carrier.fetchContent i).2 }
  have listFault := same.faults.carrierList
  have actions := same.faults.actions
  have fetches := same.faults.fetches
  unfold Carrier.fetchContent
  rw [fetches, same.recordings within]
  split
  · exact ⟨rfl, same.of_carrier listFault actions rfl fun _ => same.recordings⟩
  · split
    · exact ⟨rfl, same.of_carrier listFault actions fetches fun _ => same.recordings⟩
    · exact ⟨rfl, same.of_carrier listFault actions fetches fun _ => same.recordings⟩

theorem replaceMirror (s : Snapshot) :
    (m.answer (.replaceMirror s)).1 = (n.answer (.replaceMirror s)).1 ∧
      SameOn N (m.answer (.replaceMirror s)).2 (n.answer (.replaceMirror s)).2 := by
  show (m.mirror.replaceWith s).1 = (n.mirror.replaceWith s).1 ∧
    SameOn N { m with mirror := (m.mirror.replaceWith s).2 } { n with mirror := (n.mirror.replaceWith s).2 }
  have replaceFault := same.faults.mirror
  unfold Mirror.replaceWith
  cases armed : n.mirror.replaceFault with
  | some reason =>
    rw [replaceFault, armed]
    exact ⟨rfl, same.of_mirror rfl fun k own => congrArg Slot.mirror (same.slots k own)⟩
  | none =>
    rw [replaceFault, armed]
    exact ⟨rfl, same.of_mirror rfl fun _ _ => rfl⟩

theorem listDevice : SameOn N (m.answer .listDevice).2 (n.answer .listDevice).2 ∧
    ((∃ e, (m.answer .listDevice).1 = .error e ∧ (n.answer .listDevice).1 = .error e) ∨
      m.answer .listDevice = (.ok m.device.snapshot, m) ∧ n.answer .listDevice = (.ok n.device.snapshot, n)) := by
  have listFault := same.faults.deviceList
  simp only [answer, onDevice, Device.list]
  cases armed : n.device.listFault with
  | some reason =>
    rw [listFault, armed]
    exact ⟨same.of_device rfl same.faults.deviceApply (fun _ => same.items) fun _ => same.content,
      Or.inl ⟨_, rfl, rfl⟩⟩
  | none =>
    rw [listFault, armed]
    exact ⟨same, Or.inr ⟨rfl, rfl⟩⟩

theorem listCarrier : SameOn N (m.answer .listCarrier).2 (n.answer .listCarrier).2 ∧
    ((∃ e, (m.answer .listCarrier).1 = .error e ∧ (n.answer .listCarrier).1 = .error e) ∨
      m.answer .listCarrier = (.ok m.carrier.snapshot, m) ∧ n.answer .listCarrier = (.ok n.carrier.snapshot, n)) := by
  have listFault := same.faults.carrierList
  simp only [answer, onCarrier, Carrier.list]
  cases armed : n.carrier.listFault with
  | some reason =>
    rw [listFault, armed]
    exact ⟨same.of_carrier rfl same.faults.actions same.faults.fetches fun _ => same.recordings,
      Or.inl ⟨_, rfl, rfl⟩⟩
  | none =>
    rw [listFault, armed]
    exact ⟨same, Or.inr ⟨rfl, rfl⟩⟩

/-- A call about these names that is no listing is answered the same on both. -/
theorem answer (within : r.Within N) (looks : r.method.isListing = false) :
    (m.answer r).1 = (n.answer r).1 ∧ SameOn N (m.answer r).2 (n.answer r).2 := by
  cases r with
  | listDevice | listCarrier | listMirror => cases looks
  | applyDevice as => exact same.applyDevice within
  | storeContent i p => exact same.storeContent p within
  | applyCarrier a => exact same.applyCarrier within
  | fetchContent i => exact same.fetchContent within
  | replaceMirror s => exact same.replaceMirror s

end SameOn

/-- So runs of such calls come to the same. -/
theorem SameOn.run {α : Type} {q : Program α} (asks : q.Asks fun r => r.Within N ∧ r.method.isListing = false)
    (same : SameOn N m n) : (q.run Memory.answer m).1 = (q.run Memory.answer n).1 ∧
      SameOn N (q.run Memory.answer m).2 (q.run Memory.answer n).2 := by
  induction q generalizing m n with
  | done a => exact ⟨rfl, same⟩
  | call r next ih =>
    obtain ⟨answers, after⟩ := same.answer asks.1.1 asks.1.2
    rw [Program.run_call, Program.run_call, answers]
    exact ih _ (asks.2 _) after

end Memory

namespace Policy

open Memory

variable {p : Policy} {N : String → Prop} {m n : Memory}

/-- What a cycle does after it has listed the stores. -/
def enactment (p : Policy) (d c x : Snapshot) : Program (Except Failure Report) :=
  (p.planned d c x).carryOut >>= p.conclude c (p.planned d c x)

/-- Items of the other family make no difference to it. -/
theorem enactment_congr {d c x d' c' x' : Snapshot} (device : d.retain p.family = d'.retain p.family)
    (carrier : c.retain p.family = c'.retain p.family) (mirror : x.retain p.family = x'.retain p.family) :
    p.enactment d c x = p.enactment d' c' x' := by
  have plans : p.planned d c x = p.planned d' c' x' := by
    rw [planned, planned, device, carrier, mirror]
  have conclusions : p.conclude c = p.conclude c' := by
    funext plan applied
    by_cases settled : applied.device.isSettled = true
    · rw [conclude_eq settled, conclude_eq settled, carrier]
    · unfold conclude
      cases outcome : applied.device with
      | rolledBack e => rfl
      | skipped | committed n => exact absurd (by rw [outcome]; rfl) settled
  rw [enactment, enactment, plans, conclusions]

/-- It is about the names of the family that were listed. -/
theorem enactment_asks {d c x : Snapshot} (device : ∀ i ∈ (d.retain p.family).toList, N i.id)
    (carrier : ∀ i ∈ (c.retain p.family).toList, N i.id) (mirror : ∀ i ∈ (x.retain p.family).toList, N i.id) :
    (p.enactment d c x).Asks fun r => r.Within N ∧ r.method.isListing = false := by
  have within : ∀ a, a ∈ (p.planned d c x).device.toList ∨ a ∈ (p.planned d c x).carrier.toList → N a.id := by
    intro a mem
    rcases p.item_of_actions _ _ _ (Plan.mem_of_ofList mem) with own | own | own
    · exact device a.item own
    · exact carrier a.item own
    · exact mirror a.item own
  have commands : ∀ a ∈ (p.planned d c x).carrier.toList,
      a.execute.Asks fun r => r.Within N ∧ r.method.isListing = false := by
    intro a mem
    have own := within a (Or.inr mem)
    exact Action.execute_asks ⟨own, rfl⟩ ⟨own, rfl⟩ fun _ => ⟨own, rfl⟩
  refine .bind (.bind (ActionList.commit_asks ⟨fun a mem => within a (Or.inl mem), rfl⟩) fun _ =>
    .bind (Action.attemptAll_asks_each commands) fun _ => trivial) fun applied => ?_
  refine p.conclude_asks_renewal _ ⟨fun k contained => ?_, rfl⟩
  obtain ⟨j, observed⟩ := Snapshot.contains_eq_true_iff.mp contained
  rw [Snapshot.get?_observeAll] at observed
  obtain ⟨i, found, _⟩ := Slot.alike_of_observed observed
  rw [← Snapshot.id_of_get? found]
  exact carrier i (Snapshot.get?_eq_some_iff.mp found).1

theorem listings_same (same : SameOn N m n) (left : ∀ k, ¬N k → (m.slot k).concerns p.family = false)
    (right : ∀ k, ¬N k → (n.slot k).concerns p.family = false) :
    m.device.snapshot.retain p.family = n.device.snapshot.retain p.family ∧
      m.carrier.snapshot.retain p.family = n.carrier.snapshot.retain p.family ∧
      m.mirror.snapshot.retain p.family = n.mirror.snapshot.retain p.family := by
  have seen : ∀ k, ((m.slot k).seen p.family).item = ((n.slot k).seen p.family).item ∧
      (m.slot k).heard p.family = (n.slot k).heard p.family ∧
      ((m.slot k).seen p.family).mirror = ((n.slot k).seen p.family).mirror := by
    intro k
    by_cases own : N k
    · rw [same.slots k own]
      exact ⟨rfl, rfl, rfl⟩
    · rw [Slot.heard, Slot.heard, Slot.seen_of_not_concerns (left k own), Slot.seen_of_not_concerns (right k own)]
      exact ⟨rfl, rfl, rfl⟩
  refine ⟨Snapshot.ext_get? fun k => ?_, Snapshot.ext_get? fun k => ?_, Snapshot.ext_get? fun k => ?_⟩
  · rw [Device.get?_retain_snapshot, Device.get?_retain_snapshot, (seen k).1]
  · rw [Carrier.get?_retain_snapshot, Carrier.get?_retain_snapshot, (seen k).2.1]
  · rw [Mirror.get?_retain_snapshot, Mirror.get?_retain_snapshot, (seen k).2.2]

theorem enactment_asks_of_listings (left : ∀ k, ¬N k → (m.slot k).concerns p.family = false) :
    (p.enactment m.device.snapshot m.carrier.snapshot m.mirror.snapshot).Asks
      fun r => r.Within N ∧ r.method.isListing = false := by
  have own : ∀ k i, (m.slot k).Holds i → i.listed p.family = true → N k := by
    intro k i held listed
    by_contra other
    have concerned : (m.slot k).concerns p.family = true :=
      Slot.concerns_iff.mpr ⟨i, held, of_decide_eq_true (Bool.and_eq_true_iff.mp listed).2⟩
    rw [left k other] at concerned
    cases concerned
  refine enactment_asks (fun i mem => ?_) (fun i mem => ?_) fun i mem => ?_
  all_goals have found := Snapshot.get?_eq_some_iff.mpr ⟨mem, rfl⟩
  · rw [Device.get?_retain_snapshot] at found
    obtain ⟨held, listed⟩ := Option.filter_eq_some_iff.mp found
    exact own i.id i (Or.inl held) listed
  · rw [Carrier.get?_retain_snapshot] at found
    obtain ⟨held, listed⟩ := Slot.holds_of_heard found
    exact own i.id i held listed
  · rw [Mirror.get?_retain_snapshot] at found
    obtain ⟨held, listed⟩ := Option.filter_eq_some_iff.mp found
    exact own i.id i (Or.inr (Or.inr held)) listed

/-- A cycle goes the same way on stores that have the same under some names, and nothing of its family
under others. -/
theorem run_cycle_same (same : SameOn N m n) (left : ∀ k, ¬N k → (m.slot k).concerns p.family = false)
    (right : ∀ k, ¬N k → (n.slot k).concerns p.family = false) :
    (p.cycle.run Memory.answer m).1 = (p.cycle.run Memory.answer n).1 ∧
      SameOn N (p.cycle.run Memory.answer m).2 (p.cycle.run Memory.answer n).2 := by
  obtain ⟨device, carrier, mirror⟩ := listings_same same left right
  unfold cycle
  rw [Program.run_bind, Program.run_bind, Program.run_ask, Program.run_ask]
  obtain ⟨after, ⟨e, failed, failed'⟩ | ⟨listed, listed'⟩⟩ := same.listDevice
  · rw [failed, failed']
    exact ⟨rfl, after⟩
  rw [listed, listed']
  dsimp only
  rw [Program.run_bind, Program.run_bind, Program.run_ask, Program.run_ask]
  obtain ⟨after, ⟨e, failed, failed'⟩ | ⟨listed, listed'⟩⟩ := same.listCarrier
  · rw [failed, failed']
    exact ⟨rfl, after⟩
  rw [listed, listed']
  dsimp only
  rw [Program.run_bind, Program.run_bind, Program.run_ask, Program.run_ask, answer_listMirror, answer_listMirror]
  simp only [planFor_eq]
  change ((p.enactment m.device.snapshot m.carrier.snapshot m.mirror.snapshot).run Memory.answer m).1 =
      ((p.enactment n.device.snapshot n.carrier.snapshot n.mirror.snapshot).run Memory.answer n).1 ∧
    SameOn N ((p.enactment m.device.snapshot m.carrier.snapshot m.mirror.snapshot).run Memory.answer m).2
      ((p.enactment n.device.snapshot n.carrier.snapshot n.mirror.snapshot).run Memory.answer n).2
  rw [enactment_congr device carrier mirror]
  exact same.run (enactment_asks_of_listings right)

end Policy

/-- A greeting ends the turn of greetings only. -/
theorem Item.yieldTo_of_ne {new i : Item} (differ : i.family ≠ new.family) : yieldTo new i = i := by
  cases kind : i.kind with
  | voicemail =>
    unfold yieldTo demote
    rw [kind]
    split <;> rfl
  | greeting t active =>
    refine yieldTo_of_voicemail ?_ i
    cases other : new.kind with
    | voicemail => rw [family, other]; rfl
    | greeting t' active' => exact absurd (by rw [family, family, kind, other]; rfl) differ

/-- A transaction that is not about a name, and brings nothing in of the family of what is there, leaves
it alone. -/
theorem Action.alterAll_of_foreign {as : List Action} {k : String} {x : Option Item}
    (foreign : ∀ a ∈ as, a.id ≠ k) (apart : ∀ a ∈ as, a.kind = .insert → ∀ i, x = some i → i.family ≠ a.item.family) :
    alterAll as k x = x := by
  induction as with
  | nil => rfl
  | cons a rest ih =>
    have own := foreign a List.mem_cons_self
    have still : a.alter k x = x := by
      cases kind : a.kind with
      | insert =>
        cases x with
        | none => simp [alter, kind, own]
        | some i => simp [alter, kind, own, Item.yieldTo_of_ne (apart a List.mem_cons_self kind i rfl)]
      | delete | markAsRead | fetchContent => simp [alter, kind, own]
    rw [alterAll_cons, still]
    exact ih (fun b mem => foreign b (List.mem_cons_of_mem _ mem)) fun b mem =>
      apart b (List.mem_cons_of_mem _ mem)

theorem Slot.transacted_of_still {s : Slot} {g : Option Item → Option Item} (still : g s.item = s.item) :
    s.transacted g = s := by
  obtain ⟨item, content, recording, mirror⟩ := s
  rw [transacted, still]
  cases item <;> rfl

namespace Policy

open Memory

variable {p : Policy} {m n : Memory} {k : String}

/-- A plan has nothing about a name that is not listed. -/
theorem planAt_none (p : Policy) :
    (p.planAt none none none).device.toList = [] ∧ (p.planAt none none none).carrier.toList = [] := by
  cases p <;> exact ⟨rfl, rfl⟩

theorem plan_of_not_concerns (foreign : (m.slot k).concerns p.family = false) :
    ((m.slot k).plan p).device.toList = [] ∧ ((m.slot k).plan p).carrier.toList = [] := by
  rw [Slot.plan, Slot.heard, Slot.seen_of_not_concerns foreign]
  exact p.planAt_none

theorem alters_of_not_concerns (foreign : (m.slot k).concerns p.family = false) :
    p.alters m k (m.slot k).item = (m.slot k).item := by
  have nothing : ((p.planOf m).device.toList.filter fun a => a.id = k) = [] := by
    rw [filter_device_planOf]
    exact (plan_of_not_concerns foreign).1
  refine Action.alterAll_of_foreign (fun a mem => ?_) fun a mem insert i held same => ?_
  · have other := List.filter_eq_nil_iff.mp nothing a mem
    simpa using other
  · have listed := (Slot.holds_of_heard (heard_of_insert mem insert)).2
    have concerned : (m.slot k).concerns p.family = true := Slot.concerns_iff.mpr
      ⟨i, Or.inl held, same.trans (of_decide_eq_true (Bool.and_eq_true_iff.mp listed).2)⟩
    rw [foreign] at concerned
    cases concerned

/-- The ways a cycle can go, whatever faults were armed. -/
theorem run_cycle_turns (p : Policy) (m : Memory) : ∃ settled renewed, ∀ k,
    (m.slot k).Turns p True (p.alters m k) settled renewed ((p.cycle.run Memory.answer m).2.slot k) := by
  have ends := ends_disarmed (Program.ends_run (fun _ _ => Or.inl rfl) p.cycle m)
  obtain ⟨settled, renewed, _, _, turns⟩ := turns_of_ends m.unarmed_disarmed ends
  exact ⟨settled, renewed, turns⟩

theorem run_cycle_descends (p : Policy) (m : Memory) (k : String) :
    (m.slot k).Descends ((p.cycle.run Memory.answer m).2.slot k) := by
  obtain ⟨settled, renewed, turns⟩ := p.run_cycle_turns m
  exact descends_of_turns (turns k)

/-- Where its family has nothing a cycle changes nothing, save that the mirror may forget. -/
theorem run_cycle_foreign (foreign : (m.slot k).concerns p.family = false) :
    ((p.cycle.run Memory.answer m).2.slot k).item = (m.slot k).item ∧
      ((p.cycle.run Memory.answer m).2.slot k).content = (m.slot k).content ∧
      ((p.cycle.run Memory.answer m).2.slot k).recording = (m.slot k).recording := by
  obtain ⟨settled, renewed, turns⟩ := p.run_cycle_turns m
  obtain ⟨cs, u, obeys, result⟩ := turns k
  have still := alters_of_not_concerns foreign
  have start : (if settled then (m.slot k).transacted (p.alters m k) else m.slot k) = m.slot k := by
    cases settled with
    | false => rfl
    | true => exact Slot.transacted_of_still still
  rw [start, (plan_of_not_concerns foreign).2] at obeys
  obtain ⟨rfl, rfl⟩ := obeys.of_nil
  rw [result]
  cases renewed <;> exact ⟨rfl, rfl, rfl⟩

end Policy

namespace Memory

variable {f : Family} {m n : Memory} {k : String}

/-- Two systems that hold the same of a family, and where the same calls are going to fail. What they hold
of the other family is left open. -/
structure SameFor (f : Family) (m n : Memory) : Prop where
  faults : m.SameFaults n
  slots : ∀ k, (m.slot k).ofFamily f = (n.slot k).ofFamily f

theorem FamiliesApart.family_of_concerns (apart : m.FamiliesApart) (concerned : (m.slot k).concerns f = true) :
    ∀ i, (m.slot k).Holds i → i.family = f := by
  obtain ⟨i, held, own⟩ := Slot.concerns_iff.mp concerned
  exact fun j held' => (apart k j i held' held).trans own

theorem FamiliesApart.ofFamily_slot (apart : m.FamiliesApart) (concerned : (m.slot k).concerns f = true) :
    (m.slot k).ofFamily f = m.slot k :=
  Slot.ofFamily_of_concerns (apart.family_of_concerns concerned) concerned

theorem SameFor.concerns (same : m.SameFor f n) (k : String) : (n.slot k).concerns f = (m.slot k).concerns f := by
  rw [← Slot.concerns_ofFamily, ← same.slots, Slot.concerns_ofFamily]

/-- It is enough that the same is left where the other family is left out. -/
theorem SameFor.of_filters (faults : m.SameFaults n) (contents : m.device.contents = n.device.contents)
    (items : m.device.items.filter (·.family = f) = n.device.items.filter (·.family = f))
    (recordings : m.carrier.recordings.filter (·.item.family = f) = n.carrier.recordings.filter (·.item.family = f))
    (mirror : m.mirror.snapshot.retain f = n.mirror.snapshot.retain f) : m.SameFor f n where
  faults := faults
  slots k := by
    refine Slot.ofFamily_congr ?_ (congrArg (fun c : Contents => (c.get? k).map Prod.snd) contents) ?_ ?_
    · exact (Shelf.get?_filter _ _ k).symm.trans ((congrArg (Shelf.get? · k) items).trans (Shelf.get?_filter _ _ k))
    · exact (Shelf.get?_filter _ _ k).symm.trans
        ((congrArg (Shelf.get? · k) recordings).trans (Shelf.get?_filter _ _ k))
    · exact (Snapshot.get?_retain _ f k).symm.trans
        ((congrArg (Snapshot.get? · k) mirror).trans (Snapshot.get?_retain _ f k))

/-- Such systems have the same under the names of the family. -/
theorem SameFor.sameOn (same : m.SameFor f n) (apart : m.FamiliesApart) (apart' : n.FamiliesApart) :
    SameOn (fun k => (m.slot k).concerns f = true) m n where
  faults := same.faults
  slots k concerned := by
    rw [← apart.ofFamily_slot concerned, same.slots k]
    exact apart'.ofFamily_slot ((same.concerns k).trans concerned)

theorem SameOn.sameFor {N : String → Prop} (same : SameOn N m n) (left : ∀ k, ¬N k → (m.slot k).concerns f = false)
    (right : ∀ k, ¬N k → (n.slot k).concerns f = false) : m.SameFor f n where
  faults := same.faults
  slots k := by
    by_cases own : N k
    · rw [same.slots k own]
    · rw [Slot.ofFamily_of_not_concerns (left k own), Slot.ofFamily_of_not_concerns (right k own)]

end Memory

namespace Policy

open Memory

variable {p : Policy} {m n : Memory} {k : String}

/-- All that is under a name of the family is of the family, before a cycle and after it. -/
theorem family_of_concerns (apart : m.FamiliesApart) (concerned : (m.slot k).concerns p.family = true) :
    (∀ i, (m.slot k).Holds i → i.family = p.family) ∧
      ∀ i, ((p.cycle.run Memory.answer m).2.slot k).Holds i → i.family = p.family := by
  have before := apart.family_of_concerns concerned
  refine ⟨before, fun j held => ?_⟩
  obtain ⟨i, held', alike⟩ := p.run_cycle_descends m k j held
  exact alike.2.trans (before i held')

theorem other_family_untouched (apart : m.FamiliesApart) {m' : Memory}
    (result : m' = (p.cycle.run Memory.answer m).2) :
    m'.device.items.filter (·.family ≠ p.family) = m.device.items.filter (·.family ≠ p.family) ∧
      (∀ i ∈ m.device.items.toList, i.family ≠ p.family → m'.device.content i.id = m.device.content i.id) ∧
      m'.carrier.recordings.filter (·.item.family ≠ p.family) =
        m.carrier.recordings.filter (·.item.family ≠ p.family) := by
  subst result
  refine ⟨Shelf.ext_get? fun k => ?_, fun i mem other => ?_, Shelf.ext_get? fun k => ?_⟩
  · rw [Shelf.get?_filter, Shelf.get?_filter]
    change ((p.cycle.run Memory.answer m).2.slot k).item.filter _ = (m.slot k).item.filter _
    cases concerned : (m.slot k).concerns p.family with
    | true =>
      obtain ⟨before, after⟩ := family_of_concerns apart concerned
      rw [Option.filter_eq_none_iff.mpr fun i held => by simp [after i (Or.inl held)],
        Option.filter_eq_none_iff.mpr fun i held => by simp [before i (Or.inl held)]]
    | false => rw [(run_cycle_foreign concerned).1]
  · have held : (m.slot i.id).Holds i := Or.inl (Shelf.get?_eq_some_iff.mpr ⟨mem, rfl⟩)
    have foreign : (m.slot i.id).concerns p.family = false := by
      rw [← Bool.not_eq_true]
      exact fun concerned => other ((family_of_concerns apart concerned).1 i held)
    exact (run_cycle_foreign foreign).2.1
  · rw [Shelf.get?_filter, Shelf.get?_filter]
    change ((p.cycle.run Memory.answer m).2.slot k).recording.filter _ = (m.slot k).recording.filter _
    cases concerned : (m.slot k).concerns p.family with
    | true =>
      obtain ⟨before, after⟩ := family_of_concerns apart concerned
      rw [Option.filter_eq_none_iff.mpr fun r held => by simp [after r.item (Or.inr (Or.inl ⟨r, held, rfl⟩))],
        Option.filter_eq_none_iff.mpr fun r held => by simp [before r.item (Or.inr (Or.inl ⟨r, held, rfl⟩))]]
    | false => rw [(run_cycle_foreign concerned).2.2]

theorem other_family_unseen (apart : m.FamiliesApart) (apart' : n.FamiliesApart) (same : m.SameFor p.family n) :
    (p.cycle.run Memory.answer m).1 = (p.cycle.run Memory.answer n).1 ∧
      (p.cycle.run Memory.answer m).2.SameFor p.family (p.cycle.run Memory.answer n).2 := by
  have left : ∀ k, ¬(m.slot k).concerns p.family = true → (m.slot k).concerns p.family = false :=
    fun k other => Bool.not_eq_true _ ▸ other
  have right : ∀ k, ¬(m.slot k).concerns p.family = true → (n.slot k).concerns p.family = false :=
    fun k other => (same.concerns k).trans (left k other)
  obtain ⟨results, after⟩ := run_cycle_same (same.sameOn apart apart') left right
  refine ⟨results, after.sameFor (fun k other => ?_) fun k other => ?_⟩
  · exact (p.run_cycle_descends m k).not_concerns (left k other)
  · exact (p.run_cycle_descends n k).not_concerns (right k other)

/-- A cycle neither touches nor sees the other family, whatever faults were armed. It leaves the items of
the other family on the device, their contents, and the recordings of the other family on the carrier as
they were. And systems that differ in the other family only come to the same result, and still differ in
the other family only. -/
theorem other_family_apart (p : Policy) (m : Memory) (apart : m.FamiliesApart) :
    let m' := (p.cycle.run Memory.answer m).2
    (m'.device.items.filter (·.family ≠ p.family) = m.device.items.filter (·.family ≠ p.family) ∧
      (∀ i ∈ m.device.items.toList, i.family ≠ p.family → m'.device.content i.id = m.device.content i.id) ∧
      m'.carrier.recordings.filter (·.item.family ≠ p.family) =
        m.carrier.recordings.filter (·.item.family ≠ p.family)) ∧
    ∀ n, n.FamiliesApart → m.SameFor p.family n →
      (p.cycle.run Memory.answer m).1 = (p.cycle.run Memory.answer n).1 ∧
        m'.SameFor p.family (p.cycle.run Memory.answer n).2 :=
  ⟨other_family_untouched apart rfl, fun _ apart' same => other_family_unseen apart apart' same⟩

/-- A message to take off the device, one to bring in, one that the carrier will not let go, and a greeting. -/
def mixed (g : String) : Memory where
  device := ({} : Device).seed [.voicemail "a", { Item.voicemail g with kind := .greeting .normal true }]
  carrier := { ({} : Carrier).seed [.voicemail "b"] with actionFaults := .ofList ["c"] }
  mirror := ({} : Mirror).seed [.voicemail "a", .voicemail "c"]

theorem mixed_apart : (mixed "g").FamiliesApart ∧ (mixed "h").FamiliesApart ∧
    (mixed "g").SameFor .voicemail (mixed "h") ∧
    (fullSync.cycle.run Memory.answer (mixed "g")).1 = (fullSync.cycle.run Memory.answer (mixed "h")).1 ∧
    (fullSync.cycle.run Memory.answer (mixed "g")).2.device.items.filter (·.family ≠ .voicemail) =
      (mixed "g").device.items.filter (·.family ≠ .voicemail) := by
  have apart : (mixed "g").FamiliesApart := by decide +kernel
  have apart' : (mixed "h").FamiliesApart := by decide +kernel
  have same : (mixed "g").SameFor .voicemail (mixed "h") :=
    .of_filters ⟨rfl, rfl, rfl, rfl, rfl, rfl⟩ rfl (by decide +kernel) (by decide +kernel) (by decide +kernel)
  obtain ⟨untouched, unseen⟩ := other_family_apart fullSync (mixed "g") apart
  exact ⟨apart, apart', same, (unseen _ apart' same).1, untouched.1⟩

end Policy

end MailboxSync
