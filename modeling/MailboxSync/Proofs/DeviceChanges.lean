import MailboxSync.Proofs.CycleOutline
import MailboxSync.Proofs.Families
import MailboxSync.Proofs.ReadMarks

namespace MailboxSync

/-- At this moment a call takes the item off the device. -/
def Moment.discards (x : Moment) (k : String) (i : Item) : Prop :=
  x.before.device.items.get? k = some i ∧
    ∃ r, x.what = .answered r ∧ (x.before.answer r).2.device.items.get? k = none

/-- A cycle deletes from the device what the device listed and the carrier did not. -/
theorem Policy.listed_of_delete {p : Policy} {d c m : Snapshot} {a : Action}
    (mem : a ∈ (p.planned d c m).device.toList) (delete : a.kind = .delete) :
    p ≠ noLocalDeletion ∧ (∃ i, (d.retain p.family).get? a.id = some i) ∧
      (c.retain p.family).get? a.id = none := by
  rw [planned, mem_device_plan_iff] at mem
  obtain ⟨others, listed, absent⟩ := (owes_of_mem mem).of_delete delete
  exact ⟨others, ⟨_, listed⟩, absent⟩

namespace Memory

variable {m m' : Memory} {r : Request} {k : String}

/-- What is on the device was there before, in the same family. -/
def DeviceFrom (m m' : Memory) : Prop :=
  ∀ k j, m'.device.items.get? k = some j → ∃ i, m.device.items.get? k = some i ∧ j.family = i.family

theorem deviceFrom_of_eq (same : m'.device.items = m.device.items) : m.DeviceFrom m' :=
  fun k j found => ⟨j, by rw [← same]; exact found, rfl⟩

theorem deviceFrom_happen (m : Memory) (e : Event) : m.DeviceFrom (m.happen e) := by
  match e with
  | .carrier _ => exact deviceFrom_of_eq rfl
  | .device (.read id) =>
    intro k j found
    change (m.device.markRead id).items.get? k = some j at found
    rw [Device.get?_markRead] at found
    split at found
    · obtain ⟨i, before, rfl⟩ := Option.map_eq_some_iff.mp found
      exact ⟨i, before, rfl⟩
    · exact ⟨j, found, rfl⟩
  | .device (.remove id) =>
    intro k j found
    change (m.device.remove id).items.get? k = some j at found
    rw [Device.get?_remove] at found
    split at found
    · cases found
    · exact ⟨j, found, rfl⟩

/-- Only a transaction brings an item in or takes one off. -/
theorem device_answer (other : r.method ≠ .applyDevice) (m : Memory) (k : String) :
    (m.answer r).2.device.items.get? k = m.device.items.get? k ∨
      ∃ i p, r = .storeContent i p ∧
        (m.answer r).2.device.items.get? k = (m.device.items.get? k).map (i.holding p) := by
  cases r with
  | applyDevice => exact absurd rfl other
  | listDevice => exact Or.inl (congrArg (Shelf.get? · k) m.device.items_list)
  | storeContent i p =>
    have after := m.device.get?_storeContent i p k
    by_cases own : k = i.id
    · rw [if_pos own] at after
      exact Or.inr ⟨i, p, rfl, after⟩
    · rw [if_neg own] at after
      exact Or.inl after
  | listCarrier | listMirror | applyCarrier | fetchContent | replaceMirror => exact Or.inl rfl

theorem deviceFrom_answer (other : r.method ≠ .applyDevice) (m : Memory) : m.DeviceFrom (m.answer r).2 := by
  intro k j found
  rcases device_answer other m k with same | ⟨i, p, _, held⟩
  · exact ⟨j, same.symm.trans found, rfl⟩
  · obtain ⟨i', before, rfl⟩ := Option.map_eq_some_iff.mp (held.symm.trans found)
    exact ⟨i', before, rfl⟩

theorem isSome_device_answer (other : r.method ≠ .applyDevice) (m : Memory) (k : String) :
    ((m.answer r).2.device.items.get? k).isSome = (m.device.items.get? k).isSome := by
  rcases device_answer other m k with same | ⟨i, p, _, held⟩
  · rw [same]
  · rw [held, Option.isSome_map]

theorem content_happen {e : Event} {payload : Payload}
    (held : (m.happen e).device.content k = some payload) : m.device.content k = some payload := by
  match e with
  | .carrier _ | .device (.read _) => exact held
  | .device (.remove id) =>
    change ((m.device.contents.erase id).get? k).map Prod.snd = some payload at held
    rw [Shelf.get?_erase] at held
    split at held
    · cases held
    · exact held

theorem contents_answer (transaction : r.method ≠ .applyDevice) (keeping : r.method ≠ .storeContent)
    (m : Memory) : (m.answer r).2.device.contents = m.device.contents := by
  cases r with
  | applyDevice => exact absurd rfl transaction
  | storeContent => exact absurd rfl keeping
  | listDevice =>
    show m.device.list.2.contents = _
    unfold Device.list
    split <;> rfl
  | listCarrier | listMirror | applyCarrier | fetchContent | replaceMirror => rfl

theorem content_storeContent (m : Memory) (i : Item) (p : Payload) (k : String) :
    (m.answer (.storeContent i p)).2.device.content k =
      if k = i.id ∧ (m.device.items.get? i.id).isSome = true then some p else m.device.content k := by
  show ((m.device.storeContent i p).2.contents.get? k).map Prod.snd = _
  rw [Device.get?_storeContent_contents]
  split <;> rfl

/-- A transaction that goes through takes content from the items that it takes off. -/
theorem content_applyDevice (m : Memory) (as : List Action) (k : String) :
    (m.answer (.applyDevice as)).2.device.content k = m.device.content k ∨
      (m.answer (.applyDevice as)).2.device.content k = none ∧
        (m.answer (.applyDevice as)).2.device.items.get? k = none := by
  show ((m.device.apply as).2.contents.get? k).map Prod.snd = _ ∨
    ((m.device.apply as).2.contents.get? k).map Prod.snd = none ∧ (m.device.apply as).2.items.get? k = none
  cases outcome : (m.device.apply as).1 with
  | error e =>
    rw [(m.device.apply_error outcome).2]
    exact Or.inl rfl
  | ok _ =>
    obtain ⟨items, _, after⟩ := m.device.apply_ok outcome
    rw [after]
    dsimp only
    rw [Device.get?_keptContents]
    split
    · next gone =>
      rw [Bool.and_eq_true, Option.isNone_iff_eq_none] at gone
      exact Or.inr ⟨rfl, gone.2⟩
    · exact Or.inl rfl

/-- Only content that is stored comes to the device. -/
theorem content_answer (other : r.method ≠ .storeContent) {payload : Payload}
    (held : (m.answer r).2.device.content k = some payload) : m.device.content k = some payload := by
  by_cases transaction : r.method = .applyDevice
  · cases r with
    | applyDevice as =>
      rcases m.content_applyDevice as k with same | ⟨gone, _⟩
      · exact same.symm.trans held
      · cases gone.symm.trans held
    | _ => cases transaction
  · rw [Device.content, contents_answer transaction other] at held
    exact held

/-- No call takes the content of an item, as long as the item stays. -/
theorem content_lasts {j : Item} (m : Memory) (after : (m.answer r).2.device.items.get? k = some j)
    (held : (m.device.content k).isSome = true) : ((m.answer r).2.device.content k).isSome = true := by
  cases r with
  | applyDevice as =>
    rcases m.content_applyDevice as k with same | ⟨_, gone⟩
    · rw [same]
      exact held
    · cases gone.symm.trans after
  | storeContent i p =>
    rw [content_storeContent]
    split
    · rfl
    · exact held
  | listDevice =>
    rw [Device.content, contents_answer (by simp [Request.method]) (by simp [Request.method])]
    exact held
  | listCarrier | listMirror | applyCarrier | fetchContent | replaceMirror => exact held

/-- Nor does a call take back the note that the content is there. -/
theorem hasContent_lasts (sparing : r.Sparing) (m : Memory) (k : String) :
    Lasts (fun i => i.hasContent = true) (m.device.items.get? k) ((m.answer r).2.device.items.get? k) := by
  by_cases transaction : r.method = .applyDevice
  · cases r with
    | applyDevice as =>
      show Lasts _ _ ((m.device.apply as).2.items.get? k)
      cases outcome : (m.device.apply as).1 with
      | error e =>
        rw [(m.device.apply_error outcome).1]
        exact .refl _
      | ok _ =>
        obtain ⟨items, done, result⟩ := m.device.apply_ok outcome
        rw [result]
        refine Folder.lasts_of_performAll ?_ (fun _ held => held) done sparing k
        intro new i held
        rwa [Item.eq_yieldTo Item.passive_hasContent]
    | _ => cases transaction
  · rcases device_answer transaction m k with same | ⟨i, p, _, held⟩
    · rw [same]
      exact .refl _
    · rw [held]
      exact .map (f := i.holding p) (fun _ _ => rfl) _

/-- Only a transaction takes an item off. -/
theorem not_discards (other : r.method ≠ .applyDevice) {i : Item} :
    ¬Moment.discards ⟨m, .answered r⟩ k i := by
  rintro ⟨held, r, same, gone⟩
  cases same
  have stays := isSome_device_answer other m k
  rw [held, gone] at stays
  cases stays

/-- The carrier hands out what it holds. -/
theorem supplied_of_fetch {i : Item} {payload : Payload} (answer : (m.answer (.fetchContent i)).1 = .ok payload) :
    ∃ r, m.carrier.recordings.get? i.id = some r ∧ r.payload = payload := by
  change (m.carrier.fetchContent i).1 = .ok payload at answer
  unfold Carrier.fetchContent at answer
  split at answer
  · cases answer
  · split at answer
    · next r held => exact ⟨r, held, Except.ok.inj answer⟩
    · cases answer

end Memory

namespace History

/-- Anything may happen from outside, also that the carrier gives out a name again. -/
def disturbs (h h' : History) : Prop := ∃ e, h' = h.happen e

/-- No name has been a message in one store and a greeting in another. -/
def Apart (h : History) : Prop := ∀ x ∈ h.past, x.before.FamiliesApart

/-- The carrier held this payload under the name at some moment. -/
def Supplied (h : History) (k : String) (payload : Payload) : Prop :=
  ∃ x ∈ h.past, ∃ r, x.before.carrier.recordings.get? k = some r ∧ r.payload = payload

/-- A cycle had reason to take the item off: it is one for the policy, and the carrier, which the cycle had
just listed, did not list it. -/
def Warranted (p : Policy) (earlier : List Moment) (k : String) (i : Item) : Prop :=
  p ≠ .noLocalDeletion ∧ i.family = p.family ∧ ∃ d c m before, c.contains k = false ∧
    earlier.filterMap Moment.exchange? =
      ⟨.listMirror, .ok m⟩ :: ⟨.listCarrier, .ok c⟩ :: ⟨.listDevice, .ok d⟩ :: before

/-- No item was taken off without reason. -/
def Guarded (p : Policy) (h : History) : Prop :=
  ∀ later x earlier k i, h.past = later ++ x :: earlier → x.discards k i → Warranted p earlier k i

/-- What is true all through a run: no item was taken off without reason, and all content is from the
carrier, unless it was there from the start. -/
structure Custody (p : Policy) (start : Memory) (h : History) : Prop where
  guarded : h.Apart → h.Guarded p
  sourced : ∀ k payload, h.now.device.content k = some payload →
    start.device.content k = some payload ∨ h.Supplied k payload

/-- The latest calls, and listings that do not differ from the device on the family of an item. -/
structure Seen (latest : List Exchange) (listings : List Snapshot) (h : History) : Prop where
  calls : ∃ before, h.calls = latest ++ before
  agrees : h.Apart → ∀ s ∈ listings, ∀ k i j, s.get? k = some i → h.now.device.items.get? k = some j →
    j.family = i.family

variable {p : Policy} {start : Memory} {h h' : History} {r : Request} {x : r.Answer} {what : Occurrence}
  {now : Memory} {latest : List Exchange} {listings : List Snapshot}

theorem Apart.of_note (apart : (h.note what now).Apart) : h.Apart :=
  fun x mem => apart x (List.mem_cons_of_mem _ mem)

theorem Supplied.note {k : String} {payload : Payload} (supplied : h.Supplied k payload) :
    (h.note what now).Supplied k payload := by
  obtain ⟨x, mem, held⟩ := supplied
  exact ⟨x, List.mem_cons_of_mem _ mem, held⟩

theorem Guarded.note (guarded : h.Guarded p)
    (reason : ∀ k i, Moment.discards ⟨h.now, what⟩ k i → Warranted p h.past k i) :
    (h.note what now).Guarded p := by
  intro later x earlier k i split discards
  cases later with
  | nil =>
    obtain ⟨rfl, rfl⟩ := List.cons.inj split
    exact reason k i discards
  | cons y later =>
    obtain ⟨-, same⟩ := List.cons.inj split
    exact guarded later x earlier k i same discards

theorem Custody.note (custody : h.Custody p start)
    (reason : (h.note what now).Apart → ∀ k i, Moment.discards ⟨h.now, what⟩ k i → Warranted p h.past k i)
    (source : ∀ k payload, now.device.content k = some payload →
      h.now.device.content k = some payload ∨ h.Supplied k payload) :
    (h.note what now).Custody p start where
  guarded := fun apart => (custody.guarded apart.of_note).note (reason apart)
  sourced := by
    intro k payload held
    rcases source k payload held with before | supplied
    · exact (custody.sourced k payload before).imp_right Supplied.note
    · exact Or.inr supplied.note

theorem Custody.disturbed (custody : h.Custody p start) (other : disturbs h h') : h'.Custody p start := by
  obtain ⟨e, rfl⟩ := other
  refine custody.note ?_ fun k payload held => Or.inl (Memory.content_happen held)
  rintro _ k i ⟨_, r, event, _⟩
  cases event

theorem Custody.failed (custody : h.Custody p start) (r : Request) (e : Failure) :
    (h.note (.failed r e) h.now).Custody p start := by
  refine custody.note ?_ fun k payload held => Or.inl held
  rintro _ k i ⟨_, r, failed, _⟩
  cases failed

/-- A call does no harm, unless it is a transaction or stores content. -/
theorem Custody.replied (custody : h.Custody p start) (reply : replies r h x h')
    (transaction : r.method ≠ .applyDevice) (keeping : r.method ≠ .storeContent) : h'.Custody p start := by
  rcases reply with ⟨_, rfl⟩ | ⟨e, _, rfl⟩
  · exact custody.note (fun _ k i discards => absurd discards (Memory.not_discards transaction))
      fun k payload held => Or.inl (Memory.content_answer keeping held)
  · exact custody.failed r e

/-- Nor does it do harm to store what the carrier supplied. -/
theorem Custody.stored {i : Item} {payload : Payload} {x : Except Failure Unit} (custody : h.Custody p start)
    (supplied : h.Supplied i.id payload) (reply : replies (.storeContent i payload) h x h') :
    h'.Custody p start := by
  rcases reply with ⟨_, rfl⟩ | ⟨e, _, rfl⟩
  · refine custody.note (fun _ k i discards => ?_) fun k payload' held => ?_
    · exact absurd discards (Memory.not_discards (by simp [Request.method]))
    · rw [Memory.content_storeContent] at held
      split at held
      · next own =>
        cases held
        exact Or.inr (own.1 ▸ supplied)
      · exact Or.inl held
  · exact custody.failed _ e

theorem Seen.disturbed (seen : h.Seen latest listings) (other : disturbs h h') : h'.Seen latest listings := by
  obtain ⟨e, rfl⟩ := other
  refine ⟨seen.calls, fun apart s mem k i j listed held => ?_⟩
  obtain ⟨j', before, same⟩ := Memory.deviceFrom_happen h.now e k j held
  exact same.trans (seen.agrees apart.of_note s mem k i j' listed before)

theorem Seen.replied (seen : h.Seen latest listings) (reply : replies r h x h')
    (transaction : r.method ≠ .applyDevice) : h'.Seen (⟨r, x⟩ :: latest) listings := by
  obtain ⟨before, same⟩ := seen.calls
  refine ⟨⟨before, by rw [calls_of_replies reply, same]; rfl⟩, fun apart s mem k i j listed held => ?_⟩
  rcases reply with ⟨_, rfl⟩ | ⟨e, _, rfl⟩
  · obtain ⟨j', before, same⟩ := Memory.deviceFrom_answer transaction h.now k j held
    exact same.trans (seen.agrees apart.of_note s mem k i j' listed before)
  · exact seen.agrees apart.of_note s mem k i j listed held

theorem Seen.and (seen : h.Seen latest listings) {s : Snapshot}
    (agrees : h.Apart → ∀ k i j, s.get? k = some i → h.now.device.items.get? k = some j → j.family = i.family) :
    h.Seen latest (s :: listings) where
  calls := seen.calls
  agrees := by
    intro apart t mem
    rcases List.mem_cons.mp mem with rfl | older
    · exact agrees apart
    · exact seen.agrees apart t older

/-- The device agrees with what it has listed. -/
theorem agrees_device {s : Snapshot} (reply : replies .listDevice h (.ok s) h') :
    ∀ k i j, s.get? k = some i → h'.now.device.items.get? k = some j → j.family = i.family := by
  intro k i j listed held
  rcases reply with ⟨answer, rfl⟩ | ⟨e, failed, _⟩
  · rw [(h.now.device.list_ok answer.symm).1, Device.get?_snapshot] at listed
    change h.now.device.list.2.items.get? k = some j at held
    rw [h.now.device.items_list] at held
    have same := (Option.filter_eq_some_iff.mp listed).1
    cases held.symm.trans same
    rfl
  · cases failed

/-- It agrees with what the carrier has listed, where families are kept apart. -/
theorem agrees_carrier {s : Snapshot} (apart : h'.Apart) (reply : replies .listCarrier h (.ok s) h') :
    ∀ k i j, s.get? k = some i → h'.now.device.items.get? k = some j → j.family = i.family := by
  intro k i j listed held
  rcases reply with ⟨answer, rfl⟩ | ⟨e, failed, _⟩
  · rw [(h.now.carrier.list_ok answer.symm).1, Carrier.get?_snapshot] at listed
    obtain ⟨r, recorded, rfl⟩ := Option.map_eq_some_iff.mp (Option.filter_eq_some_iff.mp listed).1
    exact apart _ List.mem_cons_self k j r.item (Or.inl held) (Or.inr (Or.inl ⟨r, recorded, rfl⟩))
  · cases failed

theorem supplied_of_replies {i : Item} {payload : Payload} (reply : replies (.fetchContent i) h (.ok payload) h') :
    h'.Supplied i.id payload := by
  rcases reply with ⟨answer, rfl⟩ | ⟨e, failed, _⟩
  · exact ⟨_, List.mem_cons_self, Memory.supplied_of_fetch answer.symm⟩
  · cases failed

/-- The transaction of a cycle takes off what the device listed and the carrier did not. -/
theorem Custody.transacted {d c m : Snapshot} {x : Except Failure Unit} (custody : h.Custody p start)
    (seen : h.Seen [⟨.listMirror, .ok m⟩, ⟨.listCarrier, .ok c⟩, ⟨.listDevice, .ok d⟩] [c, d])
    (reply : replies (.applyDevice (p.planned d c m).device.toList) h x h') : h'.Custody p start := by
  rcases reply with ⟨_, rfl⟩ | ⟨e, _, rfl⟩
  rotate_left
  · exact custody.failed _ e
  refine custody.note ?_ fun k payload held => Or.inl (Memory.content_answer (by simp [Request.method]) held)
  rintro apart k i ⟨held, r, same, gone⟩
  cases same
  change (h.now.device.apply (p.planned d c m).device.toList).2.items.get? k = none at gone
  change h.now.device.items.get? k = some i at held
  cases outcome : (h.now.device.apply (p.planned d c m).device.toList).1 with
  | error e =>
    rw [(h.now.device.apply_error outcome).1, held] at gone
    cases gone
  | ok _ =>
    obtain ⟨items, done, after⟩ := h.now.device.apply_ok outcome
    rw [after] at gone
    rw [Folder.get?_performAll done, held] at gone
    obtain ⟨a, mem, delete, rfl⟩ := Action.deleted_of_alterAll gone
    obtain ⟨allowed, ⟨j, listed⟩, absent⟩ := Policy.listed_of_delete mem delete
    rw [Snapshot.get?_retain, Option.filter_eq_some_iff] at listed
    rw [Snapshot.get?_retain, Option.filter_eq_none_iff] at absent
    have family : i.family = p.family :=
      (seen.agrees apart.of_note d (by simp) _ _ _ listed.1 held).trans (of_decide_eq_true listed.2)
    obtain ⟨before, calls⟩ := seen.calls
    refine ⟨allowed, family, d, c, m, before, ?_, calls⟩
    rw [Snapshot.contains_eq_false_iff]
    cases found : c.get? a.id with
    | none => rfl
    | some i' =>
      have same := seen.agrees apart.of_note c (by simp) _ _ _ found held
      exact absurd (decide_eq_true (same.symm.trans family)) (absent i' found)

/-- The outline of a cycle. -/
def custodyOutline (p : Policy) (start : Memory) : Outline History where
  start := Custody p start
  afterDevice d h := h.Custody p start ∧ h.Seen [⟨.listDevice, .ok d⟩] [d]
  afterCarrier d c h := h.Custody p start ∧ h.Seen [⟨.listCarrier, .ok c⟩, ⟨.listDevice, .ok d⟩] [c, d]
  afterMirror d c m h := h.Custody p start ∧
    h.Seen [⟨.listMirror, .ok m⟩, ⟨.listCarrier, .ok c⟩, ⟨.listDevice, .ok d⟩] [c, d]
  trying _ _ _ _ _ _ := Custody p start
  finish := Custody p start

theorem keeps_custody {Q : r.Answer → History → Prop} (custody : h.Custody p start)
    (after : ∀ h x h', h.Custody p start → replies r h x h' → h'.Custody p start ∧ Q x h') :
    (Program.ask r).Keeps (replies.after disturbs) (Custody p start) Q h :=
  keeps_ask _ (fun _ _ other custody => custody.disturbed other) custody (fun _ custody => custody) after

theorem keeps_seen {Q : r.Answer → History → Prop} (seen : h.Custody p start ∧ h.Seen latest listings)
    (transaction : r.method ≠ .applyDevice) (keeping : r.method ≠ .storeContent)
    (after : ∀ h x h', h'.Custody p start → h'.Seen (⟨r, x⟩ :: latest) listings → replies r h x h' → Q x h') :
    (Program.ask r).Keeps (replies.after disturbs) (Custody p start) Q h := by
  refine keeps_ask (fun h => h.Custody p start ∧ h.Seen latest listings)
    (fun _ _ other seen => ⟨seen.1.disturbed other, seen.2.disturbed other⟩) seen (fun _ seen => seen.1) ?_
  intro h x h' before reply
  have custody := before.1.replied reply transaction keeping
  exact ⟨custody, after h x h' custody (before.2.replied reply transaction) reply⟩

theorem custody_valid : (custodyOutline p start).Valid (replies.after disturbs) (Custody p start) p where
  listDevice := by
    intro h custody
    refine keeps_custody custody ?_
    rintro h (e | d) h' before reply
    · have after := before.replied reply (by decide) (by decide)
      exact ⟨after, after⟩
    · have after := before.replied reply (by decide) (by decide)
      have nothing : h'.Seen [⟨.listDevice, .ok d⟩] [] :=
        ⟨⟨h.calls, calls_of_replies reply⟩, fun _ s mem => absurd mem List.not_mem_nil⟩
      exact ⟨after, after, nothing.and fun _ => agrees_device reply⟩
  listCarrier := by
    intro d h seen
    refine keeps_seen seen (by decide) (by decide) ?_
    rintro h (e | c) h' custody seen reply
    · exact custody
    · exact ⟨custody, seen.and fun apart => agrees_carrier apart reply⟩
  listMirror := by
    intro d c h seen
    refine keeps_seen seen (by decide) (by decide) ?_
    rintro h (e | m) h' custody seen _
    · exact custody
    · exact ⟨custody, seen⟩
  idle := fun seen _ => seen.1
  transact := by
    intro d c m h seen
    refine keeps_ask ((custodyOutline p start).afterMirror d c m)
      (fun _ _ other seen => ⟨seen.1.disturbed other, seen.2.disturbed other⟩) seen (fun _ seen => seen.1) ?_
    intro h x h' before reply
    have after := before.1.transacted before.2 reply
    exact ⟨after, after⟩
  command := by
    intro d c m settled done a rest h mem kind custody
    refine keeps_custody custody fun h x h' before reply => ?_
    have after := before.replied reply (by simp [Request.method]) (by simp [Request.method])
    exact ⟨after, after⟩
  fetch := by
    intro d c m settled done a rest h mem kind custody
    refine keeps_custody custody ?_
    rintro h (e | payload) h' before reply
    · have after := before.replied reply (by simp [Request.method]) (by simp [Request.method])
      exact ⟨after, after⟩
    · have after := before.replied reply (by simp [Request.method]) (by simp [Request.method])
      refine ⟨after, ?_⟩
      refine keeps_ask (fun h => h.Custody p start ∧ h.Supplied a.item.id payload) ?_
        ⟨after, supplied_of_replies reply⟩ (fun _ both => both.1) ?_
      · rintro h _ ⟨e, rfl⟩ ⟨custody, supplied⟩
        exact ⟨custody.disturbed ⟨e, rfl⟩, supplied.note⟩
      · rintro h x h' ⟨custody, supplied⟩ reply
        have after := custody.stored supplied reply
        exact ⟨after, after⟩
  giveUp := fun custody => custody
  renew := by
    intro d c m done h custody
    refine keeps_custody custody fun h x h' before reply => ?_
    have after := before.replied reply (by simp [Request.method]) (by simp [Request.method])
    exact ⟨after, after⟩
  trying_within := fun custody => custody
  finish_within := fun custody => custody

instance (h : History) : Decidable h.Apart := by
  unfold Apart
  infer_instance

end History

namespace System

open History

variable {p : Policy} {m : Memory} {s t : System} {P : Request → Prop}

/-- A run in which anything may happen from outside. -/
abbrev Roams (p : Policy) : System → System → Prop := Relation.ReflTransGen (Goes disturbs p)

theorem Reaches.roams (run : Reaches p s t) : Roams p s t :=
  run.lift id fun _ _ step => step.goes.mono fun _ _ ⟨e, _, happened⟩ => ⟨e, happened⟩

/-- Every call that was made has the property that all calls of a cycle have. -/
theorem requests_of_roams (cycle : p.cycle.Asks P) (run : Roams p ⟨⟨m, []⟩, none⟩ s) :
    s.Asks P ∧ ∀ x ∈ s.history.calls, P x.request := by
  induction run with
  | refl => exact ⟨fun q busy => (by cases busy), fun x mem => absurd mem List.not_mem_nil⟩
  | tail _ step ih =>
    obtain ⟨asks, asked⟩ := ih
    cases step with
    | drift other =>
      obtain ⟨e, rfl⟩ := other
      exact ⟨asks, asked⟩
    | start => exact ⟨fun q busy => Option.some.inj busy ▸ cycle, asked⟩
    | call reply =>
      have own := asks _ rfl
      refine ⟨fun q busy => Option.some.inj busy ▸ own.2 _, fun x mem => ?_⟩
      rw [calls_of_replies reply] at mem
      rcases List.mem_cons.mp mem with rfl | older
      · exact own.1
      · exact asked x older
    | finish => exact ⟨fun q busy => (by cases busy), asked⟩

/-- What is on the device is safe with the cycles, whatever happens and whatever fails. A cycle takes an
item off only if the policy allows it, the item is one for the policy, and the carrier has not listed it
in this very cycle. For as long as an item stays no call takes its content or the note that it is there. And
all content is the carrier's own: the carrier held it under the same name before, if the device was empty
in the beginning. -/
theorem device_in_custody (run : Roams p ⟨⟨m, []⟩, none⟩ s) (apart : s.history.Apart) :
    s.history.Guarded p ∧
      (∀ x ∈ s.history.past, ∀ r, x.what = .answered r → ∀ k i j, x.before.device.items.get? k = some i →
        (x.before.answer r).2.device.items.get? k = some j →
        (i.hasContent = true → j.hasContent = true) ∧
          ((x.before.device.content k).isSome = true →
            ((x.before.answer r).2.device.content k).isSome = true)) ∧
      (m.device.contents = .empty → ∀ k payload, s.history.now.device.content k = some payload →
        s.history.Supplied k payload) := by
  have start : Steady disturbs (Custody p m) (Custody p m) ⟨⟨m, []⟩, none⟩ := by
    refine ⟨fun _ later x earlier k i split => ?_, fun k payload held => Or.inl held⟩
    exact absurd split (by simp)
  have stable : ∀ h h', disturbs h h' → h.Custody p m → h'.Custody p m :=
    fun _ _ other custody => custody.disturbed other
  have steady := start.reaches stable stable (fun _ custody => custody_valid.cycle custody) run
  have custody := steady.now fun _ custody => custody
  refine ⟨custody.guarded apart, ?_, ?_⟩
  · intro x mem r answered k i j before after
    have sparing : r.Sparing := (requests_of_roams p.cycle_sparing run).2 ⟨r, (x.before.answer r).1⟩
      (List.mem_filterMap.mpr ⟨x, mem, by simp only [Moment.exchange?, answered]⟩)
    exact ⟨Memory.hasContent_lasts sparing x.before k i before j after, Memory.content_lasts x.before after⟩
  · intro empty k payload held
    rcases custody.sourced k payload held with before | supplied
    · rw [Device.content, empty] at before
      cases before
    · exact supplied

/-- The carrier has one message of two, and its audio is not on the device. -/
def halved : Memory where
  device := ({} : Device).seed [.voicemail "a", .voicemail "b"]
  carrier := ({} : Carrier).seed [.voicemail "b"]

/-- A cycle takes the one off and fetches the audio of the other. -/
def halvedCycle : List Move :=
  [.start, .answer, .answer, .answer, .answer, .event (.carrier (.read "b")), .answer, .answer, .answer, .finish]

theorem halved_in_custody : ∃ s, Roams .fullSync ⟨⟨halved, []⟩, none⟩ s ∧ s.history.Apart ∧
    s.history.Guarded .fullSync ∧ s.history.now.device.items.contains "a" = false ∧
    s.history.Supplied "b" (.silence 32 "audio/amr") := by
  have run := reaches_getD (p := .fullSync) (s := ⟨⟨halved, []⟩, none⟩) halvedCycle (by decide +kernel)
  have apart : ((moves .fullSync ⟨⟨halved, []⟩, none⟩ halvedCycle).getD ⟨⟨halved, []⟩, none⟩).history.Apart := by
    decide +kernel
  obtain ⟨guarded, _, supplied⟩ := device_in_custody (Reaches.roams run) apart
  exact ⟨_, Reaches.roams run, apart, guarded, by decide +kernel, supplied rfl "b" _ (by decide +kernel)⟩

end System

end MailboxSync
