import MailboxSync.Proofs.CycleParts
import MailboxSync.Proofs.Stores
import MailboxSync.Proofs.TakenOff
import MailboxSync.Proofs.Transaction

namespace MailboxSync

/-- Something is there, and it was read. -/
def isRead (x : Option Item) : Bool := x.any Item.isRead

/-- From one look at an item to the next the property is not lost, unless with the item. -/
def Lasts (P : Item → Prop) (x y : Option Item) : Prop := ∀ i ∈ x, ∀ j ∈ y, P i → P j

namespace Lasts

variable {P : Item → Prop} {x y : Option Item}

theorem refl (x : Option Item) : Lasts P x x := by
  rintro i rfl j same holds
  cases same
  exact holds

theorem none_left (y : Option Item) : Lasts P none y := fun _ absent => nomatch absent

theorem none_right (x : Option Item) : Lasts P x none := fun _ _ _ absent => nomatch absent

theorem trans {z : Option Item} (first : Lasts P x y) (stays : y = none → x = none)
    (second : Lasts P y z) : Lasts P x z := by
  rintro i rfl k last holds
  cases y with
  | none => cases stays rfl
  | some j => exact second j rfl k last (first i rfl j rfl holds)

theorem map {f : Item → Item} (keeps : ∀ i, P i → P (f i)) (x : Option Item) : Lasts P x (x.map f) := by
  rintro i rfl j same holds
  cases same
  exact keeps i holds

end Lasts

/-- From one look at an item to the next no read mark is lost, unless with the item. -/
def KeepsRead (x y : Option Item) : Prop := ∀ i ∈ x, ∀ j ∈ y, i.isRead = true → j.isRead = true

namespace KeepsRead

variable {x y : Option Item}

theorem refl (x : Option Item) : KeepsRead x x := Lasts.refl x

theorem of_eq (same : y = x) : KeepsRead x y := same ▸ refl x

theorem isRead {x y : Option Item} (keeps : KeepsRead x y) (stays : y.isSome = true)
    (read : isRead x = true) : isRead y = true := by
  cases x with
  | none => cases read
  | some i =>
    cases y with
    | none => cases stays
    | some j => exact keeps i rfl j rfl read

theorem none_left (y : Option Item) : KeepsRead none y := Lasts.none_left y

theorem none_right (x : Option Item) : KeepsRead x none := Lasts.none_right x

theorem map {f : Item → Item} (keeps : ∀ i, i.isRead = true → (f i).isRead = true) (x : Option Item) :
    KeepsRead x (x.map f) := Lasts.map keeps x

end KeepsRead

/-- A transaction does not delete what it brings in. Other calls are no transactions. -/
def Request.Sparing : Request → Prop
  | .applyDevice as => ∀ a ∈ as, ∀ b ∈ as, a.kind = .insert → b.kind = .delete → a.id ≠ b.id
  | _ => True

namespace Folder

/-- Where nothing is deleted and brought in again, a transaction takes nothing away from an item that
giving way and being marked leave alone. -/
theorem lasts_of_performAll {P : Item → Prop} (yields : ∀ new i, P i → P (Item.yieldTo new i))
    (marks : ∀ i, P i → P i.markRead) {f g : Folder} {as : List Action} (done : f.performAll as = .ok g)
    (sparing : (Request.applyDevice as).Sparing) (k : String) : Lasts P (f.get? k) (g.get? k) := by
  induction as generalizing f with
  | nil =>
    cases done
    exact .refl _
  | cons a rest ih =>
    obtain ⟨f', first, others⟩ := foldlM_cons_ok done
    have later := ih others fun b memB c memC =>
      sparing b (List.mem_cons_of_mem _ memB) c (List.mem_cons_of_mem _ memC)
    have between := get?_perform first k
    unfold Action.alter at between
    cases kind : a.kind with
    | insert =>
      simp only [kind] at between
      by_cases own : a.id = k
      · rw [← own, absent_of_insert first kind]
        exact .none_left _
      · rw [if_neg own] at between
        rw [between] at later
        exact .trans (.map (yields a.item) _) Option.map_eq_none_iff.mp later
    | delete =>
      simp only [kind] at between
      by_cases own : a.id = k
      · have gone : g.get? k = none := by
          rw [get?_performAll others, between, if_pos own]
          exact Action.alterAll_none fun b mem insert same =>
            sparing b (List.mem_cons_of_mem _ mem) a List.mem_cons_self insert kind (same.trans own.symm)
        rw [gone]
        exact .none_right _
      · rw [if_neg own] at between
        rw [between] at later
        exact later
    | markAsRead =>
      simp only [kind] at between
      by_cases own : a.id = k
      · rw [if_pos own] at between
        rw [between] at later
        exact .trans (.map marks _) Option.map_eq_none_iff.mp later
      · rw [if_neg own] at between
        rw [between] at later
        exact later
    | fetchContent =>
      simp only [kind] at between
      rw [between] at later
      exact later

theorem keepsRead_of_performAll {f g : Folder} {as : List Action} (done : f.performAll as = .ok g)
    (sparing : (Request.applyDevice as).Sparing) (k : String) : KeepsRead (f.get? k) (g.get? k) :=
  lasts_of_performAll (fun new i read => by rwa [Item.eq_yieldTo Item.passive_isRead]) (fun _ _ => rfl) done sparing k

end Folder

namespace Policy

/-- A policy asks one thing of the device about an item, or nothing. -/
theorem device_planAt_unique (p : Policy) (d c m : Option Item) {a b : Action}
    (memA : a ∈ (p.planAt d c m).device.toList) (memB : b ∈ (p.planAt d c m).device.toList) : a = b := by
  rcases device_planAt_cases d c m with nothing | ⟨x, one, -⟩
  · rw [nothing] at memA
    cases memA
  · rw [one, List.mem_singleton] at memA memB
    rw [memA, memB]

theorem sparing_of_planned {p : Policy} {d c m : Snapshot} :
    (Request.applyDevice (p.planned d c m).device.toList).Sparing := by
  intro a memA b memB insert delete same
  rw [planned, mem_device_plan_iff] at memA memB
  rw [same] at memA
  rw [device_planAt_unique p _ _ _ memA memB, delete] at insert
  cases insert

/-- No cycle deletes what it brings in. -/
theorem cycle_sparing (p : Policy) : p.cycle.Asks Request.Sparing := by
  refine cycle_asks ?_ fun _ _ _ => sparing_of_planned
  intro r other
  cases r <;> simp [Request.method, Request.Sparing] at other ⊢

end Policy

namespace Memory

/-- The item the device has under a name. -/
def deviceItem (k : String) (m : Memory) : Option Item := m.device.items.get? k

/-- The item the carrier has under a name. -/
def carrierItem (k : String) (m : Memory) : Option Item := (m.carrier.recordings.get? k).map Recording.item

/-- Whatever stays on the device or at the carrier keeps its read mark. -/
def KeepsMarks (m m' : Memory) : Prop :=
  ∀ k, KeepsRead (m.deviceItem k) (m'.deviceItem k) ∧ KeepsRead (m.carrierItem k) (m'.carrierItem k)

variable {m m' : Memory}

theorem keepsMarks_of_eq (device : m'.device.items = m.device.items)
    (carrier : m'.carrier.recordings = m.carrier.recordings) : m.KeepsMarks m' := by
  intro k
  refine ⟨.of_eq ?_, .of_eq ?_⟩
  · rw [deviceItem, deviceItem, device]
  · rw [carrierItem, carrierItem, carrier]

theorem keepsMarks_of_device (device : ∀ k, KeepsRead (m.deviceItem k) (m'.deviceItem k))
    (carrier : m'.carrier.recordings = m.carrier.recordings) : m.KeepsMarks m' :=
  fun k => ⟨device k, .of_eq (by rw [carrierItem, carrierItem, carrier])⟩

theorem keepsMarks_of_carrier (device : m'.device.items = m.device.items)
    (carrier : ∀ k, KeepsRead (m.carrierItem k) (m'.carrierItem k)) : m.KeepsMarks m' :=
  fun k => ⟨.of_eq (by rw [deviceItem, deviceItem, device]), carrier k⟩

theorem deviceItem_markRead (k id : String) :
    KeepsRead (m.deviceItem k) ((m.device.markRead id).items.get? k) := by
  rw [Device.get?_markRead]
  split
  · exact .map (fun _ _ => rfl) _
  · exact .refl _

theorem deviceItem_remove (k id : String) :
    KeepsRead (m.deviceItem k) ((m.device.remove id).items.get? k) := by
  rw [Device.get?_remove]
  split
  · exact .none_right _
  · exact .refl _

theorem carrierItem_markRead (k id : String) :
    KeepsRead (m.carrierItem k) (((m.carrier.markRead id).recordings.get? k).map Recording.item) := by
  rw [Carrier.get?_markRead]
  split
  · rw [Option.map_map, show Recording.item ∘ Recording.markRead = Item.markRead ∘ Recording.item from rfl,
      ← Option.map_map]
    exact .map (fun _ _ => rfl) _
  · exact .refl _

theorem carrierItem_remove (k id : String) :
    KeepsRead (m.carrierItem k) (((m.carrier.remove id).recordings.get? k).map Recording.item) := by
  rw [Carrier.get?_remove]
  split
  · exact .none_right _
  · exact .refl _

/-- No call takes a read mark away. -/
theorem keepsMarks_answer {r : Request} (sparing : r.Sparing) (m : Memory) :
    m.KeepsMarks (m.answer r).2 := by
  cases r with
  | listDevice => exact keepsMarks_of_eq m.device.items_list rfl
  | listCarrier => exact keepsMarks_of_eq rfl m.carrier.recordings_list
  | listMirror | replaceMirror s => exact keepsMarks_of_eq rfl rfl
  | fetchContent i => exact keepsMarks_of_eq rfl (m.carrier.recordings_fetchContent i)
  | applyDevice as =>
    cases outcome : (m.device.apply as).1 with
    | error e => exact keepsMarks_of_eq (m.device.apply_error outcome).1 rfl
    | ok _ =>
      obtain ⟨items, done, after⟩ := m.device.apply_ok outcome
      refine keepsMarks_of_device (fun k => ?_) rfl
      show KeepsRead _ ((m.device.apply as).2.items.get? k)
      rw [after]
      exact Folder.keepsRead_of_performAll done sparing k
  | storeContent i p =>
    refine keepsMarks_of_device (fun k => ?_) rfl
    show KeepsRead _ ((m.device.storeContent i p).2.items.get? k)
    rw [Device.get?_storeContent]
    split
    · exact .map (f := i.holding p) (fun _ read => read) _
    · exact .refl _
  | applyCarrier a =>
    cases outcome : (m.carrier.apply a).1 with
    | error e => exact keepsMarks_of_eq rfl (m.carrier.apply_error outcome)
    | ok _ =>
      refine keepsMarks_of_carrier rfl fun k => ?_
      show KeepsRead _ (((m.carrier.apply a).2.recordings.get? k).map Recording.item)
      rcases m.carrier.apply_ok outcome with ⟨_, after⟩ | ⟨_, _, after⟩
      · rw [after]
        exact carrierItem_remove k a.id
      · rw [after]
        exact carrierItem_markRead k a.id

end Memory

/-- No event takes a read mark away, since the carrier gives out no name twice. -/
theorem History.keepsMarks_happen {h : History} {e : Event} (admitted : h.admits e = true) :
    h.now.KeepsMarks (h.happen e).now := by
  match e with
  | .device (.read id) => exact Memory.keepsMarks_of_device (fun k => Memory.deviceItem_markRead k id) rfl
  | .device (.remove id) => exact Memory.keepsMarks_of_device (fun k => Memory.deviceItem_remove k id) rfl
  | .carrier (.read id) => exact Memory.keepsMarks_of_carrier rfl fun k => Memory.carrierItem_markRead k id
  | .carrier (.remove id) => exact Memory.keepsMarks_of_carrier rfl fun k => Memory.carrierItem_remove k id
  | .carrier (.arrive i p) =>
    refine Memory.keepsMarks_of_carrier rfl fun k => ?_
    show KeepsRead _ (((h.now.carrier.put i p).recordings.get? k).map Recording.item)
    rw [Carrier.get?_put]
    split
    · next own =>
      have fresh : h.now.carrierItem k = none := by
        cases found : h.now.carrierItem k with
        | none => rfl
        | some j =>
          have held : h.OnCarrier i.id := by
            rw [own]
            show h.now.carrier.recordings.contains k = true
            rw [Shelf.contains_eq_isSome, ← Option.isSome_map (f := Recording.item)]
            exact Option.isSome_of_eq_some found
          simp [admits, held.knows] at admitted
      rw [fresh]
      exact .none_left _
    · exact .refl _

namespace System

variable {p : Policy} {s t : System} {P : Request → Prop}

/-- Every call that the cycle under way may come to make has the property. -/
def Asks (P : Request → Prop) (s : System) : Prop := ∀ q, s.cycle = some q → q.Asks P

theorem Asks.step (cycle : p.cycle.Asks P) (asks : s.Asks P) (step : Step p s t) : t.Asks P := by
  rcases step.cases with ⟨_, same⟩ | ⟨_, rfl⟩ | ⟨r, next, x, h, busy, _, rfl⟩ | ⟨x, _, rfl⟩
  · intro q busy
    exact asks q (same ▸ busy)
  · rintro q ⟨⟩
    exact cycle
  · rintro q ⟨⟩
    exact (asks _ busy).2 x
  · rintro q ⟨⟩

theorem asks_of_reaches (cycle : p.cycle.Asks P) {h : History} (run : Reaches p ⟨h, none⟩ s) :
    s.Asks P := by
  induction run with
  | refl => rintro q ⟨⟩
  | tail _ step ih => exact ih.step cycle step

theorem Step.keepsMarks (asks : s.Asks Request.Sparing) (step : Step p s t) :
    s.history.now.KeepsMarks t.history.now := by
  rcases step.cases with ⟨⟨e, admitted, happened⟩, _⟩ | ⟨_, rfl⟩ | ⟨r, next, x, h, busy, reply, rfl⟩ |
    ⟨x, _, rfl⟩
  · rw [happened]
    exact History.keepsMarks_happen admitted
  · exact Memory.keepsMarks_of_eq rfl rfl
  · rcases reply with ⟨_, rfl⟩ | ⟨e, _, rfl⟩
    · exact Memory.keepsMarks_answer (asks _ busy).1 s.history.now
    · exact Memory.keepsMarks_of_eq rfl rfl
  · exact Memory.keepsMarks_of_eq rfl rfl

/-- A stretch of a run all through which there is an item to be seen. -/
def Stays (p : Policy) (view : Memory → Option Item) : System → System → Prop :=
  Relation.ReflTransGen fun s t => Step p s t ∧ (view t.history.now).isSome = true

theorem Stays.reaches {view : Memory → Option Item} (stays : Stays p view s t) : Reaches p s t := by
  induction stays with
  | refl => exact .refl
  | tail _ step ih => exact ih.tail step.1

/-- What a step never takes away is there all through such a stretch. -/
theorem Stays.read {view : Memory → Option Item} {h : History}
    (keeps : ∀ {s t : System}, s.Asks Request.Sparing → Step p s t →
      KeepsRead (view s.history.now) (view t.history.now))
    (run : Reaches p ⟨h, none⟩ s) (stays : Stays p view s t)
    (read : isRead (view s.history.now) = true) : isRead (view t.history.now) = true := by
  induction stays with
  | refl => exact read
  | tail before step ih =>
    have asks := asks_of_reaches p.cycle_sparing (run.trans (Stays.reaches before))
    exact (keeps asks step.1).isRead step.2 ih

end System

end MailboxSync
