import MailboxSync.Proofs.History
import MailboxSync.Proofs.MemoryAndTable
import MailboxSync.Proofs.MirrorRoundTrip

namespace MailboxSync

/-! What a transaction, or content that is kept, leaves alone. -/

namespace Table.Database

variable {s : Scope} {db db' : Database}

theorem mirror_demote (k : ItemKind) : (db.demote s k).mirror = db.mirror := by
  unfold demote
  split <;> rfl

theorem mirror_perform {a : Action} (done : db.perform s a = .ok db') : db'.mirror = db.mirror := by
  unfold perform at done
  split at done
  · rw [← db.mirror_demote (s := s) a.item.kind]
    unfold addDevice at done
    cases next : (db.demote s a.item.kind).nextId with
    | error e =>
      rw [next] at done
      cases done
    | ok number =>
      simp only [next, bind, Except.bind, insertDevice] at done
      split at done
      · cases done
      · cases done
        rfl
  · cases done
    rfl
  · cases done
    rfl
  · cases done
    rfl

theorem mirror_performAll {as : List Action} (done : as.foldlM (fun db a => db.perform s a) db = .ok db') :
    db'.mirror = db.mirror := by
  induction as generalizing db with
  | nil =>
    cases done
    rfl
  | cons a rest ih =>
    obtain ⟨between, first, others⟩ := foldlM_cons_ok done
    exact (ih others).trans (mirror_perform first)

theorem storeContent_unlocated (i : Item) (p : Payload) :
    db.storeContent s i.unlocated p = db.storeContent s i p := rfl

theorem listMirror_congr (same : db'.mirror = db.mirror) : db'.listMirror s = db.listMirror s := by
  rw [listMirror, listMirror, same]

/-- What has been kept of a listing is listed. -/
theorem replaceMirror_of_plain (covered : ∀ r ∈ db.mirror, s.covers r = true) {l : Snapshot}
    (plain : ∀ i ∈ l.toList, i.Plain ∧ i.family = s.family) :
    (db.replaceMirror s l).mirror = l.toList.map (Row.ofItem s) ∧ (db.replaceMirror s l).listMirror s = .ok l := by
  have cleared : (db.mirror.filter fun r => !s.covers r) = [] := by
    rw [List.filter_eq_nil_iff]
    exact fun r mem => by simp [covered r mem]
  have own : (l.retain s.family).toList = l.toList :=
    List.filter_eq_self.mpr fun i mem => decide_eq_true (plain i mem).2
  have kept : (l.mirrored s.family).toList = l.toList := by
    have unchanged : ∀ i ∈ l.toList, i.mirrored = i := by
      intro i mem
      obtain ⟨⟨uri, len⟩, -⟩ := plain i mem
      rw [Item.mirrored, ← uri, ← len]
    exact (congrArg (List.map Item.mirrored) own).trans ((List.map_congr_left unchanged).trans (List.map_id _))
  have same : l.mirrored s.family = l := Snapshot.ext_get? fun k => congrArg (List.find? _) kept
  rw [listMirror_replaceMirror, same, replaceMirror, cleared, own, List.nil_append]
  exact ⟨rfl, rfl⟩

end Table.Database

/-! The carrier describes no content. -/

namespace Carrier

/-- What a command does at the carrier does not depend on locators. -/
theorem apply_unlocated (c : Carrier) (a : Action) : c.apply a.unlocated = c.apply a := rfl

theorem fetchContent_unlocated (c : Carrier) (i : Item) : c.fetchContent i.unlocated = c.fetchContent i := rfl

/-- Nothing is said at the carrier of where content is, or how long. -/
def Plain (c : Carrier) : Prop := ∀ r ∈ c.recordings.toList, r.item.Plain

variable {c : Carrier} (plain : c.Plain)

include plain

theorem Plain.markRead (id : String) : (c.markRead id).Plain := by
  intro r mem
  obtain ⟨r', held, rfl⟩ := List.mem_map.mp mem
  have before := plain r' held
  split <;> exact before

theorem Plain.remove (id : String) : (c.remove id).Plain := fun r mem => plain r (List.mem_filter.mp mem).1

theorem Plain.happen (e : CarrierEvent) : (c.happen e).Plain := by
  cases e with
  | arrive i p =>
    intro r mem
    rcases Shelf.mem_put.mp mem with rfl | ⟨held, _⟩
    · exact ⟨rfl, rfl⟩
    · exact plain r held
  | read id => exact plain.markRead id
  | remove id => exact plain.remove id

theorem Plain.of_recordings {c' : Carrier} (same : c'.recordings = c.recordings) : c'.Plain := by
  rw [Plain, same]
  exact plain

theorem Plain.apply (a : Action) : (c.apply a).2.Plain := by
  cases outcome : (c.apply a).1 with
  | error e => exact plain.of_recordings (c.apply_error outcome)
  | ok _ =>
    rcases c.apply_ok outcome with ⟨_, same⟩ | ⟨_, _, same⟩
    · exact (plain.remove a.id).of_recordings same
    · exact (plain.markRead a.id).of_recordings same

theorem Plain.fetchContent (i : Item) : (c.fetchContent i).2.Plain :=
  plain.of_recordings (c.recordings_fetchContent i)

theorem Plain.snapshot : ∀ i ∈ c.snapshot.toList, i.Plain := by
  intro i mem
  have found : c.snapshot.get? i.id = some i := Snapshot.get?_eq_some_iff.mpr ⟨mem, rfl⟩
  rw [c.get?_snapshot, Option.filter_eq_some_iff, Option.map_eq_some_iff] at found
  obtain ⟨⟨r, held, rfl⟩, _⟩ := found
  exact plain r (Shelf.get?_eq_some_iff.mp held).1

end Carrier

/-- What can be seen of stores in memory and of others in a database is the same but for locators. -/
structure Agree (m : Memory) (t : Tables) : Prop where
  device : ∃ l l', (m.answer .listDevice).1 = .ok l ∧ (t.answer .listDevice).1 = .ok l' ∧ l.unlocated = l'.unlocated
  content : ∀ id, t.database.content t.scope id = .ok (m.device.content id)
  mirror : ∃ l, (m.answer .listMirror).1 = .ok l ∧ (t.answer .listMirror).1 = .ok l
  carrier : t.carrier = m.carrier

/-- Stores in memory and in a database, of one mailbox and one family, that hold the same. -/
structure Alike (s : Table.Scope) (m : Memory) (t : Tables) : Prop where
  scope : t.scope = s
  unarmed : m.Unarmed
  filed : ∃ E, Table.Filed s m.device t.database E
  covered : ∀ r ∈ t.database.mirror, s.covers r = true
  mirror : t.database.listMirror s = .ok m.mirror.snapshot
  carrier : t.carrier = m.carrier
  plain : m.carrier.Plain

namespace Alike

variable {s : Table.Scope} {m : Memory} {t : Tables}

theorem empty (s : Table.Scope) : Alike s {} { scope := s } where
  scope := rfl
  unarmed := ⟨rfl, rfl, rfl, rfl, rfl, rfl⟩
  filed := ⟨.empty, fun _ => rfl, fun _ => rfl, .nil, nofun, rfl⟩
  covered := fun _ mem => absurd mem List.not_mem_nil
  mirror := by
    simp [Table.Database.listMirror, Table.Database.readAll]
    rfl
  carrier := rfl
  plain := nofun

variable (alike : Alike s m t)

include alike

theorem agree : Agree m t := by
  obtain ⟨rfl, unarmed, ⟨E, filed⟩, _, mirror, carrier, _⟩ := alike
  obtain ⟨l, listed, shows⟩ := filed.listDevice
  refine ⟨⟨m.device.snapshot, l, ?_, listed, shows.symm⟩, filed.content_eq, ⟨_, rfl, mirror⟩, carrier⟩
  rw [unarmed.answer_listDevice]

/-- A change on the device. -/
theorem onDevice {d : Device} {db : Table.Database} (filed : ∃ E, Table.Filed s d db E)
    (faults : d.listFault = none ∧ d.applyFault = none) (mirror : db.mirror = t.database.mirror) :
    Alike s { m with device := d } { t with database := db } where
  scope := alike.scope
  unarmed := { alike.unarmed with deviceList := faults.1, deviceApply := faults.2 }
  filed := filed
  covered := fun r mem => alike.covered r (mirror ▸ mem)
  mirror := (Table.Database.listMirror_congr mirror).trans alike.mirror
  carrier := alike.carrier
  plain := alike.plain

/-- A change at the carrier. -/
theorem onCarrier {c : Carrier} (unarmed : { m with carrier := c : Memory }.Unarmed) (plain : c.Plain) :
    Alike s { m with carrier := c } { t with carrier := c } :=
  { alike with unarmed, plain, carrier := rfl }

theorem happen (e : Event) : Alike s (m.happen e) (t.happen e) := by
  have unarmed := alike.unarmed.happen e
  obtain ⟨E, filed⟩ := alike.filed
  cases e with
  | device e =>
    have mirror : (t.database.happen s e).mirror = t.database.mirror := by
      cases e <;> rfl
    have same : t.happen (.device e) = { t with database := t.database.happen s e } := by
      rw [← alike.scope]
      rfl
    rw [same]
    exact alike.onDevice (filed.happen e) ⟨unarmed.deviceList, unarmed.deviceApply⟩ mirror
  | carrier e =>
    have same : t.happen (.carrier e) = { t with carrier := m.carrier.happen e } := by
      rw [← alike.carrier]
      rfl
    rw [same]
    exact alike.onCarrier unarmed (alike.plain.happen e)

/-- Both stores answer what the carrier answers. -/
theorem carrier_answers {α : Type} {L : α → α → Prop} {f f' : Carrier → Except Failure α × Carrier}
    (same : f' m.carrier = f m.carrier) (unarmed : (m.onCarrier f).2.Unarmed) (plain : (f m.carrier).2.Plain)
    (granted : ∀ a, (f m.carrier).1 = .ok a → L a a) :
    Concur L (m.onCarrier f).1 (t.onCarrier f').1 ∧ Alike s (m.onCarrier f).2 (t.onCarrier f').2 := by
  have both : t.onCarrier f' = ((f m.carrier).1, { t with carrier := (f m.carrier).2 }) := by
    rw [Tables.onCarrier, alike.carrier, same]
  rw [both]
  refine ⟨?_, alike.onCarrier unarmed plain⟩
  show Concur L (f m.carrier).1 (f m.carrier).1
  cases outcome : (f m.carrier).1 with
  | ok a => exact .ok (granted a outcome)
  | error e => exact .error rfl

theorem listDevice : Concur (fun d d' => d.unlocated = d'.unlocated) (m.answer .listDevice).1 (t.answer .listDevice).1 ∧
    Alike s (m.answer .listDevice).2 (t.answer .listDevice).2 := by
  obtain ⟨E, filed⟩ := alike.filed
  obtain ⟨l, listed, shows⟩ := filed.listDevice
  have answered : t.answer .listDevice = (.ok l, t) := by
    rw [← listed, ← alike.scope]
    rfl
  rw [alike.unarmed.answer_listDevice, answered]
  exact ⟨.ok shows.symm, alike⟩

theorem applyDevice {as as' : List Action} (told : as.map Action.unlocated = as'.map Action.unlocated)
    (fits : ∀ a ∈ as, a.Fits s.family) (sparing : (Request.applyDevice as).Sparing) :
    Concur (fun _ _ => True) (m.answer (.applyDevice as)).1 (t.answer (.applyDevice as')).1 ∧
      Alike s (m.answer (.applyDevice as)).2 (t.answer (.applyDevice as')).2 := by
  obtain ⟨E, filed⟩ := alike.filed
  have ends := filed.performAll fits sparing
  have table : t.answer (.applyDevice as') = t.change (as.foldlM (fun db a => db.perform s a) t.database) := by
    rw [← Table.Database.apply_eq fits, ← Table.Database.apply_unlocated, told, Table.Database.apply_unlocated,
      ← alike.scope]
    rfl
  rw [table]
  show Concur _ (m.device.apply as).1 _ ∧ Alike s { m with device := (m.device.apply as).2 } _
  rw [alike.unarmed.apply_eq]
  generalize m.device.items.performAll as = x at ends ⊢
  generalize done : as.foldlM (fun db a => db.perform s a) t.database = y at ends ⊢
  cases ends with
  | error same => exact ⟨.error same, alike⟩
  | ok after =>
    exact ⟨.ok trivial, alike.onDevice after ⟨alike.unarmed.deviceList, alike.unarmed.deviceApply⟩
      (Table.Database.mirror_performAll done)⟩

theorem storeContent {i i' : Item} {p : Payload} (told : i.unlocated = i'.unlocated) (family : i.family = s.family) :
    Concur (fun _ _ => True) (m.answer (.storeContent i p)).1 (t.answer (.storeContent i' p)).1 ∧
      Alike s (m.answer (.storeContent i p)).2 (t.answer (.storeContent i' p)).2 := by
  have unarmed := alike.unarmed.answer (.storeContent i p)
  obtain ⟨E, filed⟩ := alike.filed
  have table : t.answer (.storeContent i' p) = t.change (t.database.storeContent s i p) := by
    rw [← Table.Database.storeContent_unlocated i, told, Table.Database.storeContent_unlocated, ← alike.scope]
    rfl
  rw [table, Table.Database.storeContent, filed.has]
  show Concur _ (m.device.storeContent i p).1 _ ∧ Alike s { m with device := (m.device.storeContent i p).2 } _
  by_cases held : E.contains i.id = true
  · have kept : (m.device.storeContent i p).1 = .ok () := by
      rw [Device.storeContent, if_pos (filed.contains.trans held)]
    rw [if_pos held, kept]
    have faults := And.intro unarmed.deviceList unarmed.deviceApply
    exact ⟨.ok trivial, alike.onDevice ⟨_, filed.storeContent family p held⟩ faults rfl⟩
  · rw [if_neg held, Device.storeContent, if_neg (filed.contains.symm ▸ held)]
    exact ⟨.error rfl, alike⟩

theorem replaceMirror {l : Snapshot} (plain : ∀ i ∈ l.toList, i.Plain ∧ i.family = s.family) :
    Concur (fun _ _ => True) (m.answer (.replaceMirror l)).1 (t.answer (.replaceMirror l)).1 ∧
      Alike s (m.answer (.replaceMirror l)).2 (t.answer (.replaceMirror l)).2 := by
  obtain ⟨E, filed⟩ := alike.filed
  obtain ⟨rows, listed⟩ := Table.Database.replaceMirror_of_plain alike.covered plain
  have table : t.answer (.replaceMirror l) = (.ok (), { t with database := t.database.replaceMirror s l }) := by
    rw [← alike.scope]
    rfl
  rw [table]
  show Concur _ (m.mirror.replaceWith l).1 _ ∧ Alike s { m with mirror := (m.mirror.replaceWith l).2 } _
  rw [alike.unarmed.replaceWith_eq]
  refine ⟨.ok trivial, { alike with unarmed := ?_, filed := ?_, covered := ?_, mirror := listed }⟩
  · exact { alike.unarmed with }
  · exact ⟨E, { filed with }⟩
  · intro r mem
    dsimp only at mem
    rw [rows] at mem
    obtain ⟨i, _, rfl⟩ := List.mem_map.mp mem
    exact Table.Row.covers_ofItem s i

/-- What corresponds is answered alike, and leaves the stores alike. -/
theorem answer {r r' : Request} {L : r.Answer → r'.Answer → Prop} (calls : Parallel s.family r r' L) :
    L (m.answer r).1 (t.answer r').1 ∧ Alike s (m.answer r).2 (t.answer r').2 := by
  have unarmed := alike.unarmed.answer r
  cases calls with
  | listDevice => exact alike.listDevice
  | listCarrier =>
    refine alike.carrier_answers rfl unarmed ?_ ?_
    · exact alike.plain.of_recordings m.carrier.recordings_list
    · intro l listed
      rw [(m.carrier.list_ok listed).1]
      exact ⟨rfl, alike.plain.snapshot⟩
  | listMirror =>
    have answered : t.answer .listMirror = (.ok m.mirror.snapshot, t) := by
      rw [← alike.mirror, ← alike.scope]
      rfl
    rw [answered]
    exact ⟨.ok rfl, alike⟩
  | applyDevice told fits sparing => exact alike.applyDevice told fits sparing
  | storeContent told family => exact alike.storeContent told family
  | @applyCarrier a a' told =>
    have same : m.carrier.apply a' = m.carrier.apply a := by
      rw [← m.carrier.apply_unlocated, ← told, m.carrier.apply_unlocated]
    exact alike.carrier_answers same unarmed (alike.plain.apply a) fun _ _ => trivial
  | @fetchContent i i' told =>
    have same : m.carrier.fetchContent i' = m.carrier.fetchContent i := by
      rw [← m.carrier.fetchContent_unlocated, ← told, m.carrier.fetchContent_unlocated]
    exact alike.carrier_answers same unarmed (alike.plain.fetchContent i) fun _ _ => rfl
  | replaceMirror plain => exact alike.replaceMirror plain

end Alike

end MailboxSync
