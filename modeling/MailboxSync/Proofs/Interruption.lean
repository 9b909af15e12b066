import MailboxSync.Proofs.Families
import MailboxSync.Proofs.Matching

namespace MailboxSync

open Program (Asks Matches)

theorem Item.markRead_yieldTo (new i : Item) : (yieldTo new i).markRead = yieldTo new i.markRead := by
  unfold yieldTo
  split
  · obtain ⟨_, kind, _, _, _, _⟩ := i
    cases kind with
    | voicemail => rfl
    | greeting t' active =>
      simp only [demote, markRead]
      split <;> rfl
  · rfl

namespace DeviceEvent

def id : DeviceEvent → String
  | .read id | .remove id => id

/-- What becomes of the item the event is about. -/
def alter : DeviceEvent → Option Item → Option Item
  | .read _, x => x.map Item.markRead
  | .remove _, _ => none

/-- What becomes of the items on the device. -/
def touch (e : DeviceEvent) (f : Folder) : Folder :=
  match e with
  | .read id => f.adjust id Item.markRead Item.markRead_id
  | .remove id => f.erase id

variable (e : DeviceEvent) (f : Folder)

theorem get?_touch (k : String) : (e.touch f).get? k = if k = e.id then e.alter (f.get? k) else f.get? k := by
  cases e with
  | read id => exact f.get?_adjust id Item.markRead Item.markRead_id k
  | remove id => exact f.get?_erase id k

theorem contains_touch {k : String} (other : k ≠ e.id) : (e.touch f).contains k = f.contains k := by
  rw [Shelf.contains_eq_isSome, Shelf.contains_eq_isSome, get?_touch, if_neg other]

/-- What does not look at the read mark may be done before or after. -/
theorem alter_map {g : Item → Item} (marks : ∀ i, (g i).markRead = g i.markRead) (x : Option Item) :
    e.alter (x.map g) = (e.alter x).map g := by
  cases e with
  | remove id => rfl
  | read id =>
    show (x.map g).map _ = (x.map _).map g
    rw [Option.map_map, Option.map_map]
    exact Option.map_congr fun i _ => marks i

theorem alter_none : e.alter none = none := by
  cases e <;> rfl

/-- What becomes of the contents on the device. -/
def drop (e : DeviceEvent) (c : Contents) : Contents :=
  match e with
  | .read _ => c
  | .remove id => c.erase id

theorem happen_eq (d : Device) :
    d.happen e = { d with items := e.touch d.items, contents := e.drop d.contents } := by
  cases e <;> rfl

end DeviceEvent

/-- No transaction brings in what the event is about. -/
def Request.Spares (e : DeviceEvent) : Request → Prop
  | .applyDevice as => ∀ a ∈ as, a.kind = .insert → a.id ≠ e.id
  | _ => True

section

variable {e : DeviceEvent}

theorem Request.spares_of_ne {r : Request} (other : r.method ≠ .applyDevice) : r.Spares e := by
  cases r <;> simp [method, Spares] at other ⊢

/-- The event may as well come after the action, unless the action brings in what it is about. -/
theorem Folder.perform_touch (f : Folder) {a : Action} (spares : a.kind = .insert → a.id ≠ e.id) :
    (e.touch f).perform a = (f.perform a).map e.touch := by
  unfold Folder.perform
  cases kind : a.kind with
  | insert =>
    have other := spares kind
    dsimp only
    rw [e.contains_touch f other]
    split
    · rfl
    · refine congrArg Except.ok (Shelf.ext_get? fun k => ?_)
      rw [Folder.get?_add, e.get?_touch, e.get?_touch, Folder.get?_add]
      by_cases own : a.item.id = k
      · rw [if_pos own, if_pos own, if_neg (own ▸ other)]
      · rw [if_neg own, if_neg own]
        split
        · rw [e.alter_map (Item.markRead_yieldTo a.item)]
        · rfl
  | delete =>
    refine congrArg Except.ok (Shelf.ext_get? fun k => ?_)
    rw [Shelf.get?_erase, e.get?_touch, e.get?_touch, Shelf.get?_erase]
    by_cases own : k = a.id
    · rw [if_pos own, if_pos own, e.alter_none, ite_self]
    · rw [if_neg own, if_neg own]
  | markAsRead =>
    refine congrArg Except.ok (Shelf.ext_get? fun k => ?_)
    rw [Shelf.get?_adjust, e.get?_touch, e.get?_touch, Shelf.get?_adjust]
    by_cases own : k = a.id
    · rw [if_pos own, if_pos own, e.alter_map fun _ => rfl]
      split <;> rfl
    · rw [if_neg own, if_neg own]
  | fetchContent => rfl

theorem Folder.performAll_touch {as : List Action} (spares : (Request.applyDevice as).Spares e)
    (f : Folder) : (e.touch f).performAll as = (f.performAll as).map e.touch := by
  induction as generalizing f with
  | nil => rfl
  | cons a rest ih =>
    show ((e.touch f).perform a >>= fun g => g.performAll rest) =
      (f.perform a >>= fun g => g.performAll rest).map e.touch
    rw [Folder.perform_touch f (spares a List.mem_cons_self)]
    cases f.perform a with
    | error failure => rfl
    | ok g => exact ih (fun b mem => spares b (List.mem_cons_of_mem _ mem)) g

namespace Device

variable (d : Device)

theorem eq_of_get? {d d' : Device} (items : ∀ k, d'.items.get? k = d.items.get? k)
    (contents : ∀ k, d'.contents.get? k = d.contents.get? k) (listFault : d'.listFault = d.listFault)
    (applyFault : d'.applyFault = d.applyFault) : d' = d := by
  obtain ⟨items₀, contents₀, _, _⟩ := d
  obtain ⟨items₁, contents₁, _, _⟩ := d'
  obtain rfl : items₁ = items₀ := Shelf.ext_get? items
  obtain rfl : contents₁ = contents₀ := Shelf.ext_get? contents
  cases listFault
  cases applyFault
  rfl

theorem keptContents_happen (items : Folder) :
    (d.happen e).keptContents (e.touch items) = e.drop (d.keptContents items) := by
  refine Shelf.ext_get? fun k => ?_
  rw [get?_keptContents, e.happen_eq]
  dsimp only
  rw [e.get?_touch, e.get?_touch]
  cases e with
  | read id =>
    show _ = (d.keptContents items).get? k
    rw [get?_keptContents]
    by_cases own : k = id <;> simp [own, DeviceEvent.id, DeviceEvent.alter, DeviceEvent.drop]
  | remove id =>
    show _ = ((d.keptContents items).erase id).get? k
    rw [Shelf.get?_erase, get?_keptContents]
    by_cases own : k = id <;>
      simp [own, DeviceEvent.id, DeviceEvent.alter, DeviceEvent.drop, Shelf.get?_erase]

theorem apply_happen {as : List Action} (spares : (Request.applyDevice as).Spares e) :
    (d.happen e).apply as = ((d.apply as).1, (d.apply as).2.happen e) := by
  have kept := d.keptContents_happen (e := e)
  simp only [e.happen_eq] at kept ⊢
  obtain ⟨items, contents, listFault, applyFault⟩ := d
  unfold apply
  cases applyFault with
  | some reason => rfl
  | none =>
    dsimp only
    rw [Folder.performAll_touch spares]
    cases items.performAll as with
    | error failure => rfl
    | ok after => exact congrArg (fun contents => (Except.ok (), Device.mk _ contents _ _)) (kept after)

/-- Content that comes for an item after the user took it off is not kept. If it comes before, it goes
with the item. -/
theorem storeContent_happen (i : Item) (p : Payload) :
    ((d.happen e).storeContent i p).2 = (d.storeContent i p).2.happen e := by
  have faults : ∀ d' : Device, (d'.storeContent i p).2.listFault = d'.listFault ∧
      (d'.storeContent i p).2.applyFault = d'.applyFault := by
    intro d'
    unfold storeContent
    split <;> exact ⟨rfl, rfl⟩
  rw [e.happen_eq, e.happen_eq]
  refine eq_of_get? (fun k => ?_) (fun k => ?_)
    ((faults _).1.trans (faults d).1.symm) ((faults _).2.trans (faults d).2.symm)
  · dsimp only
    rw [get?_storeContent, e.get?_touch, e.get?_touch, get?_storeContent]
    by_cases own : k = i.id
    · rw [if_pos own, if_pos own, e.alter_map (g := i.holding p) fun _ => rfl]
      split <;> rfl
    · rw [if_neg own, if_neg own]
  · rw [get?_storeContent_contents]
    dsimp only
    rw [e.get?_touch]
    cases e with
    | read id =>
      show _ = (d.storeContent i p).2.contents.get? k
      rw [get?_storeContent_contents]
      by_cases own : i.id = id <;> simp [own, DeviceEvent.id, DeviceEvent.alter, DeviceEvent.drop]
    | remove id =>
      show _ = ((d.storeContent i p).2.contents.erase id).get? k
      rw [Shelf.get?_erase, get?_storeContent_contents]
      by_cases own : i.id = id
      · by_cases here : k = id <;>
          simp [own, here, DeviceEvent.id, DeviceEvent.alter, DeviceEvent.drop, Shelf.get?_erase]
      · by_cases here : k = id
        · simp [here, Ne.symm own, DeviceEvent.drop, Shelf.get?_erase]
        · simp [here, own, DeviceEvent.id, DeviceEvent.drop, Shelf.get?_erase]

end Device

namespace Memory

variable (m : Memory)

theorem answer_happen {r : Request} (listing : r.method ≠ .listDevice) (keeping : r.method ≠ .storeContent)
    (spares : r.Spares e) :
    (m.happen (.device e)).answer r = ((m.answer r).1, (m.answer r).2.happen (.device e)) := by
  cases r with
  | listDevice => exact absurd rfl listing
  | storeContent i p => exact absurd rfl keeping
  | applyDevice as =>
    show (((m.device.happen e).apply as).1, { m with device := ((m.device.happen e).apply as).2 }) = _
    rw [m.device.apply_happen spares]
    rfl
  | listCarrier | listMirror | applyCarrier | fetchContent | replaceMirror => rfl

theorem storeContent_happen (i : Item) (p : Payload) :
    ((m.happen (.device e)).answer (.storeContent i p)).2 =
      (m.answer (.storeContent i p)).2.happen (.device e) := by
  show { m with device := ((m.device.happen e).storeContent i p).2 } = _
  rw [m.device.storeContent_happen]
  rfl

end Memory

end

/-! What a cycle does after its listings does not depend on whether content could be kept. -/

/-- The same call with the same answer. Only whether content could be kept goes unheard. -/
inductive Deaf : Correspondence
  | heard {r : Request} : r.method ≠ .listDevice → r.method ≠ .storeContent → Deaf r r fun x x' => x = x'
  | unheard {i : Item} {p : Payload} : Deaf (.storeContent i p) (.storeContent i p) fun _ _ => True

namespace Program

variable {α α' β σ : Type} {P : Request → Prop} {A : α → α' → Prop}
  (handle : (r : Request) → σ → r.Answer × σ)

/-- The first calls of a program, and what is left of it after them. -/
def advance : Nat → Program α → σ → Program α × σ
  | n + 1, call r next, s => (next (handle r s).1).advance n (handle r s).2
  | 0, q, s => (q, s)
  | _, done a, s => (done a, s)

@[simp] theorem advance_zero (q : Program α) (s : σ) : q.advance handle 0 s = (q, s) := by
  cases q <;> rfl

theorem advance_ask {q : Program α} {r : Request} {k : r.Answer → Program α} (asks : q = ask r >>= k)
    (n : Nat) (s : σ) :
    q.advance handle (n + 1) s = (k (handle r s).1).advance handle n (handle r s).2 := by
  subst asks
  rfl

theorem advance_answer {q : Program α} {r : Request} {k : r.Answer → Program α} {s s' : σ} {x : r.Answer}
    (asks : q = ask r >>= k) (answer : handle r s = (x, s')) (n : Nat) :
    q.advance handle (n + 1) s = (k x).advance handle n s' := by
  rw [advance_ask handle asks, answer]

theorem run_answer {q : Program α} {r : Request} {k : r.Answer → Program α} {s s' : σ} {x : r.Answer}
    (asks : q = ask r >>= k) (answer : handle r s = (x, s')) : q.run handle s = (k x).run handle s' := by
  rw [asks, run_bind, run_ask, answer]

/-- To run a program is to run what is left of it after some calls. -/
theorem run_advance (n : Nat) (q : Program α) (s : σ) :
    (q.advance handle n s).1.run handle (q.advance handle n s).2 = q.run handle s := by
  induction n generalizing q s with
  | zero => rw [advance_zero]
  | succ n ih =>
    cases q with
    | done a => rfl
    | call r next => exact ih _ _

theorem Asks.advance {q : Program α} (asks : q.Asks P) (n : Nat) (s : σ) :
    (q.advance handle n s).1.Asks P := by
  induction n generalizing q s with
  | zero => rwa [advance_zero]
  | succ n ih =>
    cases q with
    | done a => exact asks
    | call r next => exact ih (asks.2 _) _

theorem Matches.advance {B : α → α → Prop} {q : Program α} (same : Matches Deaf B q q) (n : Nat) (s : σ) :
    Matches Deaf B (q.advance handle n s).1 (q.advance handle n s).1 := by
  induction n generalizing q s with
  | zero => rwa [advance_zero]
  | succ n ih =>
    cases same with
    | done ends => exact .done ends
    | call calls later =>
      cases calls with
      | heard => exact ih (later _ _ rfl) _
      | unheard => exact ih (later _ _ trivial) _

/-- The event may as well come after the calls of such a program. -/
theorem run_happen {e : DeviceEvent} {q : Program α} {q' : Program α'} (same : Matches Deaf A q q')
    (spares : q.Asks (Request.Spares e)) (m : Memory) :
    (q'.run Memory.answer (m.happen (.device e))).2 = (q.run Memory.answer m).2.happen (.device e) := by
  induction same generalizing m with
  | done => rfl
  | call calls _ ih =>
    rw [run_call, run_call]
    cases calls with
    | heard listing keeping =>
      rw [m.answer_happen listing keeping spares.1]
      exact ih _ _ rfl (spares.2 _) _
    | unheard =>
      rw [m.storeContent_happen]
      exact ih _ _ trivial (spares.2 _) _

end Program

theorem Action.execute_deaf (a : Action) :
    Matches Deaf (fun x x' => a.kind ≠ .fetchContent → x = x') a.execute a.execute := by
  unfold execute
  split
  · exact .pure fun _ => rfl
  · split
    · next kind =>
      refine .bind (.ask (.heard (by simp [Request.method]) (by simp [Request.method]))) ?_
      rintro (e | p) _ rfl
      · exact .pure fun _ => rfl
      · exact .call .unheard fun _ _ _ => .pure fun other => absurd kind other
    all_goals
      exact .call (.heard (by simp [Request.method]) (by simp [Request.method])) fun x x' same =>
        .pure fun _ => same

/-- The mirror is going to show the same, whichever of the two is recorded. -/
def CarrierOutcome.Agrees (o o' : CarrierOutcome) : Prop :=
  ∀ s : Snapshot, s.observeAll o.completed = s.observeAll o'.completed

theorem Snapshot.observeAll_record (s : Snapshot) (o : CarrierOutcome) (a : Action) (x : Except Failure Unit) :
    s.observeAll (o.record a x).completed =
      if x.isOk then (s.observeAll o.completed).observe a else s.observeAll o.completed := by
  cases x with
  | ok _ => exact List.foldl_append
  | error e => rfl

/-- What the mirror is going to show does not depend on which fetches went through. -/
theorem CarrierOutcome.Agrees.attempt {o o' : CarrierOutcome} (agree : o.Agrees o') (a : Action) :
    Matches Deaf Agrees (o.attempt a) (o'.attempt a) := by
  refine .bind a.execute_deaf fun x x' same => .pure fun s => ?_
  rw [Snapshot.observeAll_record, Snapshot.observeAll_record, agree s]
  by_cases kind : a.kind = .fetchContent
  · have still : ∀ t : Snapshot, t.observe a = t := fun t => by simp only [Snapshot.observe, kind]
    simp [still]
  · rw [same kind]

namespace Policy

variable {p : Policy} {m : Memory} {e : DeviceEvent}

/-- What a cycle that nothing disturbs does after its listings. -/
@[irreducible] def enact (p : Policy) (m : Memory) : Program (Except Failure Report) :=
  (p.planOf m).carryOut >>= p.conclude m.carrier.snapshot (p.planOf m)

theorem enact_deaf : Matches Deaf (fun _ _ => True) (p.enact m) (p.enact m) := by
  have valid : ∀ a ∈ (p.planOf m).device.toList, a.isValidFor .device = true :=
    fun a mem => isValidFor_device_of_mem _ _ _ mem
  have transaction : Deaf (.applyDevice (p.planOf m).device.toList) _ fun x x' => x = x' :=
    .heard (by simp [Request.method]) (by simp [Request.method])
  have commits := ActionList.commit_matches (D := fun o o' => o = o') valid valid rfl transaction rfl
    fun _ _ same => congrArg _ same
  have sends : Matches Deaf CarrierOutcome.Agrees (p.planOf m).carrier.send (p.planOf m).carrier.send :=
    CarrierOutcome.attempts_match (List.forall₂_same.mpr fun a _ _ _ agree => agree.attempt a) fun _ => rfl
  unfold enact
  refine .bind (Plan.carryOut_matches commits sends) ?_
  rintro ⟨o, sent⟩ ⟨o', sent'⟩ ⟨settled, agree⟩
  refine conclude_matches (L := fun x x' => x = x') (congrArg DeviceOutcome.isSettled settled)
    (fun _ _ _ _ => trivial) ?_ fun _ _ _ => trivial
  dsimp only
  rw [agree]
  exact .heard (by simp [Request.method]) (by simp [Request.method])

theorem enact_of_listings :
    (match p.planFor m.device.snapshot m.carrier.snapshot m.mirror.snapshot with
      | .error e => pure (.error e)
      | .ok plan => plan.carryOut >>= p.conclude m.carrier.snapshot plan) = p.enact m := by
  rw [p.planFor_listings, enact]

/-- While a cycle lists the stores nothing changes but the device, which has been listed already. -/
theorem run_listings (unarmed : m.Unarmed) {n : Nat} (listed : 1 ≤ n) (listing : n ≤ 3) (e : DeviceEvent) :
    (p.cycle.advance Memory.answer n m).2 = m ∧
      (p.cycle.advance Memory.answer n m).1.run Memory.answer (m.happen (.device e)) =
        (p.enact m).run Memory.answer (m.happen (.device e)) := by
  have listD := unarmed.answer_listDevice
  have listC := unarmed.answer_listCarrier
  have listM := Memory.answer_listMirror m
  have carrier : (m.happen (.device e)).answer .listCarrier = (.ok m.carrier.snapshot, m.happen (.device e)) :=
    (unarmed.happen (.device e)).answer_listCarrier
  have mirror : (m.happen (.device e)).answer .listMirror = (.ok m.mirror.snapshot, m.happen (.device e)) :=
    Memory.answer_listMirror _
  have enacts := congrArg (Program.run Memory.answer · (m.happen (.device e))) (enact_of_listings (p := p) (m := m))
  obtain rfl | rfl | rfl : n = 1 ∨ n = 2 ∨ n = 3 := by omega
  · rw [Program.advance_answer _ (q := p.cycle) rfl listD 0, Program.advance_zero]
    exact ⟨rfl, (Program.run_answer _ rfl carrier).trans ((Program.run_answer _ rfl mirror).trans enacts)⟩
  · rw [Program.advance_answer _ (q := p.cycle) rfl listD 1, Program.advance_answer _ rfl listC 0,
      Program.advance_zero]
    exact ⟨rfl, (Program.run_answer _ rfl mirror).trans enacts⟩
  · rw [Program.advance_answer _ (q := p.cycle) rfl listD 2, Program.advance_answer _ rfl listC 1,
      Program.advance_answer _ rfl listM 0, Program.advance_zero]
    exact ⟨rfl, enacts⟩

theorem advance_listings (unarmed : m.Unarmed) (n : Nat) :
    p.cycle.advance Memory.answer (n + 3) m = (p.enact m).advance Memory.answer n m := by
  refine (Program.advance_answer _ rfl unarmed.answer_listDevice _).trans ?_
  refine (Program.advance_answer _ rfl unarmed.answer_listCarrier _).trans ?_
  refine (Program.advance_answer _ rfl (Memory.answer_listMirror m) _).trans ?_
  exact congrArg (Program.advance Memory.answer n · m) enact_of_listings

theorem carryOut_spares {plan : Plan} {c : Snapshot}
    (transaction : (Request.applyDevice plan.device.toList).Spares e) :
    (plan.carryOut >>= p.conclude c plan).Asks (Request.Spares e) :=
  .bind (Plan.carryOut_asks (fun _ => Request.spares_of_ne) _ transaction)
    (p.conclude_asks (fun _ => Request.spares_of_ne) _ _)

/-- After its listings a cycle asks for one transaction at the most, and for that first of all. -/
theorem spares_of_advance (n : Nat) :
    ((p.enact m).advance Memory.answer (n + 1) m).1.Asks (Request.Spares e) := by
  have valid : ∀ a ∈ (p.planOf m).device.toList, a.isValidFor .device = true :=
    fun a mem => isValidFor_device_of_mem _ _ _ mem
  unfold enact
  -- From here on the plan is any valid one: with its definition in sight every goal is slow to elaborate.
  generalize p.planOf m = plan at valid ⊢
  by_cases nothing : plan.device.size = 0
  · refine Asks.advance _ (carryOut_spares ?_) _ _
    rw [List.length_eq_zero_iff.mp nothing]
    exact fun _ mem => absurd mem List.not_mem_nil
  · rw [Plan.carryOut_eq valid nothing, Program.bind_assoc, Program.advance_ask Memory.answer rfl, Program.bind_assoc]
    exact Asks.advance _ (ActionList.send_asks (fun _ => Request.spares_of_ne) _ fun _ =>
      p.conclude_asks (fun _ => Request.spares_of_ne) _ _ _) _ _

/-- The stores after a cycle in the course of which, after so many of its calls, the user does something
on the device. -/
def interrupted (p : Policy) (e : DeviceEvent) (n : Nat) (m : Memory) : Memory :=
  let (rest, now) := p.cycle.advance Memory.answer n m
  (rest.run Memory.answer (now.happen (.device e))).2

/-- What the user does on the device during a cycle is not lost. Once the cycle has listed the device
the event may as well come after the cycle: the stores are the same, then and after any number of
further cycles. -/
theorem event_survives_cycle (unarmed : m.Unarmed) (apart : m.FamiliesApart) {n : Nat} (listed : 1 ≤ n)
    (held : (p.cycle.advance Memory.answer n m).2.device.items.contains e.id = true) (later : Nat) :
    p.after later (p.interrupted e n m) = p.after later ((p.sync m).happen (.device e)) := by
  have whole : p.sync m = ((p.enact m).run Memory.answer m).2 := by
    rw [sync, ← Program.run_advance Memory.answer 3, advance_listings unarmed 0, Program.advance_zero]
  congr 1
  rw [whole]
  show ((p.cycle.advance Memory.answer n m).1.run Memory.answer
    ((p.cycle.advance Memory.answer n m).2.happen (.device e))).2 = _
  by_cases listing : n ≤ 3
  · obtain ⟨same, rest⟩ := run_listings unarmed listed listing e (p := p)
    rw [same] at held ⊢
    rw [rest]
    have spares : (p.enact m).Asks (Request.Spares e) := by
      unfold enact
      refine carryOut_spares fun a mem insert own => ?_
      rw [← own, apart.lacks_of_insert mem insert] at held
      cases held
    exact Program.run_happen enact_deaf spares m
  · obtain ⟨j, rfl⟩ : ∃ j, n = j + 1 + 3 := ⟨n - 4, by omega⟩
    rw [advance_listings unarmed, ← Program.run_advance Memory.answer (j + 1) (p.enact m)]
    exact Program.run_happen (enact_deaf.advance _ _ _) (spares_of_advance j) _

/-- A message that came without its audio, and one that the device has not heard of. -/
def arriving : Memory where
  device := ({} : Device).seed [.voicemail "a"]
  carrier := ({} : Carrier).seed [.voicemail "a", .voicemail "b"]

/-- The user takes a message off between the transaction and the fetch of its audio. -/
theorem arriving_survives : arriving.Unarmed ∧ arriving.FamiliesApart ∧
    (fullSync.cycle.advance Memory.answer 4 arriving).2.device.items.contains "a" = true ∧
    fullSync.after 3 (fullSync.interrupted (.remove "a") 4 arriving) =
      fullSync.after 3 ((fullSync.sync arriving).happen (.device (.remove "a"))) ∧
    (fullSync.after 3 (fullSync.interrupted (.remove "a") 4 arriving)).carrier.recordings.contains "a" = false := by
  have unarmed : arriving.Unarmed := ⟨rfl, rfl, rfl, rfl, rfl, rfl⟩
  have apart : arriving.FamiliesApart := by decide +kernel
  have held : (fullSync.cycle.advance Memory.answer 4 arriving).2.device.items.contains "a" = true := by
    decide +kernel
  exact ⟨unarmed, apart, held, event_survives_cycle (e := .remove "a") unarmed apart (by decide) held 3,
    by decide +kernel⟩

end Policy

end MailboxSync
