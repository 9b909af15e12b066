import Mathlib.Data.List.Pairwise
import MailboxSync.Proofs.TidyTables

namespace MailboxSync

/-- Items of which there is one for each name make up a listing without the blank name. -/
theorem Snapshot.get?_ofList_of_mem_iff {items : List Item} {held : String → Option Item}
    (mem_iff : ∀ i, i ∈ items ↔ held i.id = some i) (named : ∀ k i, held k = some i → i.id = k) (k : String) :
    (ofList items).get? k = (held k).filter Item.isKeyed := by
  refine Option.ext fun i => ?_
  rw [get?_ofList, Option.filter_eq_some_iff]
  constructor
  · intro found
    have mem := (mem_iff i).mp (List.mem_of_find?_eq_some found)
    have both := List.find?_some found
    rw [Bool.and_eq_true, decide_eq_true_eq] at both
    exact ⟨both.2 ▸ mem, both.1⟩
  · rintro ⟨here, keyed⟩
    have own := named k i here
    have mem : i ∈ items := (mem_iff i).mpr (own ▸ here)
    obtain ⟨j, found⟩ := Option.isSome_iff_exists.mp
      (List.find?_isSome (p := fun i : Item => i.isKeyed && i.id = k).mpr ⟨i, mem, by simp [keyed, own]⟩)
    have both := List.find?_some found
    rw [Bool.and_eq_true, decide_eq_true_eq] at both
    have other := (mem_iff j).mp (List.mem_of_find?_eq_some found)
    rw [both.2, here] at other
    cases other
    exact found

namespace Table

theorem Scope.names_iff {s : Scope} {k : String} {r : Row} :
    s.names k r = true ↔ s.covers r = true ∧ r.sourceId = .text k := by
  rw [names, Bool.and_eq_true, decide_eq_true_eq]

/-- A row has one name. -/
theorem Scope.names_inj {s : Scope} {k k' : String} {r : Row} (named : s.names k r = true) :
    s.names k' r = decide (k' = k) := by
  obtain ⟨own, text⟩ := names_iff.mp named
  rw [names, own, text]
  simp [eq_comm]

theorem Row.sameKey_of_names {s : Scope} {k : String} {r r' : Row} (named : s.names k r = true)
    (named' : s.names k r' = true) : r.sameKey r' = true := by
  obtain ⟨own, text⟩ := Scope.names_iff.mp named
  obtain ⟨own', text'⟩ := Scope.names_iff.mp named'
  simp only [Scope.covers, Bool.and_eq_true, decide_eq_true_eq] at own own'
  simp [sameKey, own, own', text, text']

/-- What the index goes by. -/
def DeviceRow.key (r : DeviceRow) : Cell × Cell × Cell := (r.mailbox, r.kind, r.sourceId)

theorem DeviceRow.sameKey_eq (r r' : DeviceRow) :
    r.toRow.sameKey r'.toRow = decide (r.key = r'.key ∧ r.key.2.2 ≠ .null) := by
  rw [Bool.eq_iff_iff]
  simp [Row.sameKey, key, and_assoc]

namespace Database

variable {db db' : Database} {s : Scope} {k : String} {a : Action} {as : List Action}

/-- No two rows of the device's table have the same name, as its index demands. -/
def Indexed (db : Database) : Prop := db.device.Pairwise fun r r' => r.toRow.sameKey r'.toRow = false

/-- The rows that a store finds as its own are such as stores write. -/
structure Kept (db : Database) (s : Scope) : Prop where
  orderly : ∀ r ∈ db.device, s.covers r.toRow = true → r.Orderly
  indexed : db.Indexed

/-- The item that a store reads under a name. -/
def item? (db : Database) (s : Scope) (k : String) : Option Item :=
  (db.device.find? fun r => s.names k r.toRow).bind fun r => (r.readItem s.family).toOption

/-! The index -/

theorem Indexed.eq_of_names (indexed : db.Indexed) {r r' : DeviceRow} (mem : r ∈ db.device)
    (mem' : r' ∈ db.device) (named : s.names k r.toRow = true) (named' : s.names k r'.toRow = true) : r = r' := by
  have symm : Std.Symm fun r r' : DeviceRow => r.toRow.sameKey r'.toRow = false := by
    refine ⟨fun r r' apart => ?_⟩
    rw [DeviceRow.sameKey_eq, decide_eq_false_iff_not] at apart ⊢
    rintro ⟨same, named⟩
    exact apart ⟨same.symm, same ▸ named⟩
  by_contra different
  have apart := indexed.forall mem mem' different
  rw [Row.sameKey_of_names named named'] at apart
  cases apart

namespace Indexed

variable (indexed : db.Indexed)

include indexed

theorem deleteDevice (p : DeviceRow → Bool) : (db.deleteDevice p).Indexed := indexed.filter _

theorem updateDevice {p : DeviceRow → Bool} {f : DeviceRow → DeviceRow} (stays : ∀ r, (f r).key = r.key) :
    (db.updateDevice p f).Indexed := by
  have same : ∀ r, (if p r then f r else r).key = r.key := by
    intro r
    split
    · exact stays r
    · rfl
  refine List.pairwise_map.mpr (indexed.imp ?_)
  intro r r' apart
  rw [DeviceRow.sameKey_eq] at apart ⊢
  rwa [same, same]

theorem demote (s : Scope) (kind : ItemKind) : (db.demote s kind).Indexed := by
  unfold Database.demote
  split
  · exact indexed.updateDevice fun _ => rfl
  · exact indexed

theorem take {i : Item} (new : db.has s i.id = false) : (db.take s i).Indexed := by
  refine List.pairwise_append.mpr ⟨indexed.demote s i.kind, List.pairwise_singleton .., ?_⟩
  intro r mem r' added
  rw [List.mem_singleton.mp added, show (DeviceRow.ofItem _ s i).toRow = Row.ofItem s i.bare from rfl,
    Row.sameKey_ofItem, ← Bool.not_eq_true]
  intro named
  rw [← has_demote s i.kind] at new
  exact absurd (has_eq_true_iff.mpr ⟨r, mem, named⟩) (Bool.eq_false_iff.mp new)

theorem perform (done : db.perform s a = .ok db') : db'.Indexed := by
  rw [perform_eq (nextId_of_perform done)] at done
  split at done
  · split at done
    · cases done
    · next new =>
      cases done
      exact indexed.take (Bool.eq_false_iff.mpr new)
  · cases done
    exact indexed.deleteDevice _
  · cases done
    exact indexed.updateDevice fun _ => rfl
  · cases done
    exact indexed

theorem happen (s : Scope) (e : DeviceEvent) : (db.happen s e).Indexed := by
  cases e with
  | read id => exact indexed.updateDevice fun _ => rfl
  | remove id => exact indexed.deleteDevice _

theorem storeContent {i : Item} {p : Payload} (done : db.storeContent s i p = .ok db') : db'.Indexed := by
  unfold Database.storeContent at done
  split at done
  · cases done
    exact indexed.updateDevice fun _ => rfl
  · cases done

/-- Whatever a store does, the index holds. -/
theorem writes (writes : s.Writes db db') : db'.Indexed := by
  rcases writes with ⟨e, rfl⟩ | ⟨r, c, rfl⟩
  · exact indexed.happen s e
  · rcases database_answer r c with same | ⟨as, -, done⟩ | ⟨i, p, -, done⟩ | ⟨l, -, done⟩
    · rw [same]
      exact indexed
    · exact performAll_keeps (fun a _ _ _ before step => before.perform step) indexed (apply_ok done).2
    · exact indexed.storeContent done
    · rw [done]
      exact indexed

end Indexed

/-- A database that only stores have written to is as they all want to find it. -/
theorem Written.kept (written : db.Written) (s : Scope) : db.Kept s := by
  refine ⟨fun r mem _ => written.tidy.device r mem, ?_⟩
  induction written with
  | refl => exact .nil
  | tail _ writes ih => exact ih.writes writes.choose_spec

/-! What an action makes of the item under a name -/

theorem item?_of_record {x : Record} (found : (db.device.find? fun r => s.names k r.toRow) = some (x.row s))
    (family : x.kind.family = s.family) : db.item? s k = some (x.item s.locator) := by
  rw [item?, found, Option.bind_some, x.readItem_row s family]
  rfl

theorem item?_eq_none (missing : (db.device.find? fun r => s.names k r.toRow) = none) : db.item? s k = none := by
  rw [item?, missing, Option.bind_none]

/-- A row that a store finds as its own is a record of its own. -/
theorem Kept.row (kept : db.Kept s) {r : DeviceRow} (mem : r ∈ db.device) (own : s.covers r.toRow = true) :
    ∃ x : Record, r = x.row s ∧ x.kind.family = s.family :=
  (kept.orderly r mem own).row own

theorem Kept.record (kept : db.Kept s) {r : DeviceRow}
    (found : (db.device.find? fun r => s.names k r.toRow) = some r) :
    ∃ x : Record, r = x.row s ∧ x.kind.family = s.family ∧ x.id = k := by
  have named : s.names k r.toRow = true := List.find?_some (p := fun r : DeviceRow => s.names k r.toRow) found
  obtain ⟨x, rfl, family⟩ := kept.row (List.mem_of_find?_eq_some found) (Scope.names_iff.mp named).1
  rw [x.names_own_row, decide_eq_true_eq] at named
  exact ⟨x, rfl, family, named⟩

theorem find?_updateDevice (db : Database) {p : DeviceRow → Bool} {f : DeviceRow → DeviceRow}
    (stays : ∀ r, s.names k (f r).toRow = s.names k r.toRow) :
    ((db.updateDevice p f).device.find? fun r => s.names k r.toRow) =
      (db.device.find? fun r => s.names k r.toRow).map fun r => if p r then f r else r := by
  rw [updateDevice, List.find?_map]
  congr 2
  funext r
  rw [Function.comp_apply]
  split
  · exact stays r
  · rfl

namespace Kept

variable (kept : db.Kept s)

include kept

/-- A change of rows is a change of records. -/
theorem item?_updateDevice {p : DeviceRow → Bool} {f : DeviceRow → DeviceRow} {g : Record → Record}
    (stays : ∀ r, s.names k (f r).toRow = s.names k r.toRow)
    (changes : ∀ x : Record, x.id = k → x.kind.family = s.family →
      (if p (x.row s) then f (x.row s) else x.row s) = (g x).row s ∧ (g x).kind.family = s.family)
    {h : Item → Item} (shows : ∀ x : Record, (g x).item s.locator = h (x.item s.locator)) :
    (db.updateDevice p f).item? s k = (db.item? s k).map h := by
  have found := db.find?_updateDevice (p := p) stays
  cases before : db.device.find? fun r => s.names k r.toRow with
  | none =>
    rw [before] at found
    rw [item?_eq_none found, item?_eq_none before]
    rfl
  | some r =>
    obtain ⟨x, rfl, family, own⟩ := kept.record before
    rw [before] at found
    obtain ⟨changed, family'⟩ := changes x own family
    rw [Option.map_some, changed] at found
    rw [item?_of_record found family', item?_of_record before family, shows]
    rfl

theorem item?_markRead (id : String) :
    (db.markRead s id).item? s k = if id = k then (db.item? s k).map Item.markRead else db.item? s k := by
  by_cases own : id = k
  · rw [if_pos own]
    refine kept.item?_updateDevice (f := DeviceRow.markRead) (g := Record.markRead) (h := Item.markRead) (fun _ => rfl)
      (fun x named family => ?_) fun _ => rfl
    rw [x.names_own_row, named, if_pos (decide_eq_true own.symm)]
    exact ⟨rfl, family⟩
  · rw [if_neg own, ← Option.map_id' (x := db.item? s k)]
    refine kept.item?_updateDevice (f := DeviceRow.markRead) (g := fun x => x) (h := fun i => i) (fun _ => rfl)
      (fun x named family => ?_) fun _ => rfl
    rw [x.names_own_row, named, if_neg (by simpa using Ne.symm own)]
    exact ⟨rfl, family⟩

theorem item?_demote {i : Item} (family : i.family = s.family) :
    (db.demote s i.kind).item? s k = (db.item? s k).map (Item.yieldTo i) := by
  unfold Database.demote
  split
  · next t kind =>
    have greeting : s.family = .greeting := by rw [← family, Item.family, kind]; rfl
    refine kept.item?_updateDevice (f := DeviceRow.deactivate) (g := fun x => x.yieldTo i) (fun _ => rfl)
      (fun x _ own => ?_) fun x => x.item_yieldTo i _
    exact ⟨x.row_yieldTo s kind greeting own, (x.yieldTo_family i).trans own⟩
  · next other =>
    have still : Item.yieldTo i = fun j => j := by
      funext j
      unfold Item.yieldTo
      split
      · next t kind => exact absurd kind (other t)
      · rfl
    rw [still, Option.map_id']

/-- A new row is found under its name, the others are found as before. -/
theorem item?_take {i : Item} (family : i.family = s.family) (new : db.has s i.id = false) :
    (db.take s i).item? s k = if i.id = k then some i.bare else (db.item? s k).map (Item.yieldTo i) := by
  rw [← kept.item?_demote family]
  have added : s.names k (DeviceRow.ofItem ((db.demote s i.kind).lastId + 1) s i).toRow = decide (i.id = k) :=
    (Record.ofItem _ i).names_own_row s k
  have found : ((db.take s i).device.find? fun r => s.names k r.toRow) =
      ((db.demote s i.kind).device.find? fun r => s.names k r.toRow).or
        (if i.id = k then some (.ofItem ((db.demote s i.kind).lastId + 1) s i) else none) := by
    rw [take, List.find?_append, List.find?_singleton, added]
    simp only [decide_eq_true_eq]
  by_cases own : i.id = k
  · rw [← has_demote s i.kind, own, has, ← List.isSome_find?, Option.isSome_eq_false_iff,
      Option.isNone_iff_eq_none] at new
    rw [if_pos own, new, Option.none_or] at found
    rw [if_pos own]
    exact item?_of_record (x := .ofItem _ i) found family
  · rw [if_neg own, Option.or_none] at found
    rw [if_neg own, item?, found]
    rfl

end Kept

theorem find?_remove (id : String) : ((db.remove s id).device.find? fun r => s.names k r.toRow) =
    if id = k then none else db.device.find? fun r => s.names k r.toRow := by
  rw [remove, deleteDevice, List.find?_filter]
  split
  · next own =>
    rw [List.find?_eq_none]
    simp [own]
  · next other =>
    congr 1
    funext r
    cases named : s.names k r.toRow with
    | false => simp
    | true =>
      rw [Scope.names_inj named]
      simp [other]

theorem item?_remove (id : String) :
    (db.remove s id).item? s k = if id = k then none else db.item? s k := by
  rw [item?, find?_remove]
  split <;> rfl

theorem has_remove (id : String) : (db.remove s id).has s k = (db.has s k && id ≠ k) := by
  unfold has
  rw [← List.isSome_find?, ← List.isSome_find?, find?_remove]
  split <;> simp_all

/-- What an action makes of the item that a store reads under a name. -/
theorem Kept.item?_perform (kept : db.Kept s) (fits : a.Fits s.family) (done : db.perform s a = .ok db') :
    db'.item? s k = a.alter k (db.item? s k) := by
  rw [perform_eq (nextId_of_perform done)] at done
  cases kind : a.kind with
  | insert =>
    simp only [kind] at done
    split at done
    · cases done
    · next new =>
      cases done
      rw [kept.item?_take fits.2 (Bool.eq_false_iff.mpr new), Action.alter, kind]
      rfl
  | delete =>
    simp only [kind] at done
    cases done
    rw [item?_remove, Action.alter, kind]
  | markAsRead =>
    simp only [kind] at done
    cases done
    rw [kept.item?_markRead, Action.alter, kind]
  | fetchContent =>
    simp only [kind] at done
    cases done
    rw [Action.alter, kind]

namespace Kept

variable (kept : db.Kept s)

include kept

theorem updateDevice {p : DeviceRow → Bool} {f : DeviceRow → DeviceRow} (stays : ∀ r, (f r).key = r.key)
    (keeps : ∀ r : DeviceRow, r.Orderly → (f r).Orderly) : (db.updateDevice p f).Kept s := by
  refine ⟨fun r mem own => ?_, kept.indexed.updateDevice stays⟩
  obtain ⟨r, held, rfl⟩ := List.mem_map.mp mem
  have covered : s.covers (f r).toRow = s.covers r.toRow := by
    have same := stays r
    simp only [DeviceRow.key, Prod.mk.injEq] at same
    rw [Scope.covers, Scope.covers, same.1, same.2.1]
  by_cases picked : p r = true
  · simp only [picked, if_true] at own ⊢
    exact keeps r (kept.orderly r held (covered.symm.trans own))
  · simp only [picked, Bool.false_eq_true, if_false] at own ⊢
    exact kept.orderly r held own

theorem demote (kind : ItemKind) : (db.demote s kind).Kept s := by
  unfold Database.demote
  split
  · exact kept.updateDevice (fun _ => rfl) fun _ orderly => orderly.deactivate
  · exact kept

theorem perform (fits : a.Fits s.family) (done : db.perform s a = .ok db') : db'.Kept s := by
  have indexed := kept.indexed.perform done
  rw [perform_eq (nextId_of_perform done)] at done
  split at done
  · split at done
    · cases done
    · cases done
      refine ⟨fun r mem own => ?_, indexed⟩
      rcases List.mem_append.mp mem with held | added
      · exact (kept.demote a.item.kind).orderly r held own
      · rw [List.mem_singleton.mp added]
        exact DeviceRow.orderly_ofItem _ fits.2
  · cases done
    exact ⟨fun r mem own => kept.orderly r (List.mem_filter.mp mem).1 own, indexed⟩
  · cases done
    exact kept.updateDevice (fun _ => rfl) fun _ orderly => orderly.markRead
  · cases done
    exact kept

/-- What a transaction makes of the item that a store reads under a name. -/
theorem item?_performAll (fits : ∀ a ∈ as, a.Fits s.family)
    (done : as.foldlM (fun db a => db.perform s a) db = .ok db') :
    db'.Kept s ∧ ∀ k, db'.item? s k = Action.alterAll as k (db.item? s k) := by
  induction as generalizing db with
  | nil =>
    cases done
    exact ⟨kept, fun _ => rfl⟩
  | cons a rest ih =>
    obtain ⟨between, first, others⟩ := foldlM_cons_ok done
    have fitsA := fits a List.mem_cons_self
    obtain ⟨after, items⟩ := ih (kept.perform fitsA first) (fun b mem => fits b (List.mem_cons_of_mem _ mem)) others
    exact ⟨after, fun k => by rw [items, kept.item?_perform fitsA first, Action.alterAll_cons]⟩

theorem id_of_item? {i : Item} (shown : db.item? s k = some i) : i.id = k := by
  cases found : db.device.find? fun r => s.names k r.toRow with
  | none =>
    rw [item?_eq_none found] at shown
    cases shown
  | some r =>
    obtain ⟨x, rfl, family, named⟩ := kept.record found
    rw [item?_of_record found family] at shown
    cases shown
    exact named

/-- The rows that a store lists are those it finds under their names: there is no other row of a name. -/
theorem row_iff_item? {i : Item} : (∃ r ∈ db.device.filter (fun r => s.covers r.toRow && r.sourceId ≠ .null),
    r.readItem s.family = .ok i) ↔ db.item? s i.id = some i := by
  constructor
  · rintro ⟨r, own, read⟩
    obtain ⟨mem, covered⟩ := List.mem_filter.mp own
    obtain ⟨x, rfl, family⟩ := kept.row mem (Bool.and_eq_true_iff.mp covered).1
    rw [x.readItem_row s family] at read
    cases read
    have named : s.names x.id (x.row s).toRow = true := by simp [x.names_own_row]
    obtain ⟨r', found⟩ := Option.isSome_iff_exists.mp
      (List.find?_isSome (p := fun r : DeviceRow => s.names x.id r.toRow).mpr ⟨x.row s, mem, named⟩)
    have same := kept.indexed.eq_of_names (List.mem_of_find?_eq_some found) mem
      (List.find?_some (p := fun r : DeviceRow => s.names x.id r.toRow) found) named
    rw [same] at found
    exact item?_of_record found family
  · intro held
    cases found : db.device.find? fun r => s.names i.id r.toRow with
    | none =>
      rw [item?_eq_none found] at held
      cases held
    | some r =>
      obtain ⟨x, rfl, family, named⟩ := kept.record found
      rw [item?_of_record found family] at held
      cases held
      refine ⟨_, List.mem_filter.mpr ⟨List.mem_of_find?_eq_some found, ?_⟩, x.readItem_row s family⟩
      simp [Scope.covers, Record.row, Row.ofItem]

/-- A store lists what it reads under the names that are not blank. -/
theorem listDevice : ∃ l, db.listDevice s = .ok l ∧ ∀ k, l.get? k = (db.item? s k).filter Item.isKeyed := by
  have reads : ∀ r ∈ db.device.filter (fun r => s.covers r.toRow && r.sourceId ≠ .null),
      ∃ i, r.readItem s.family = .ok i := by
    intro r own
    obtain ⟨mem, covered⟩ := List.mem_filter.mp own
    obtain ⟨x, rfl, family⟩ := kept.row mem (Bool.and_eq_true_iff.mp covered).1
    exact ⟨_, x.readItem_row s family⟩
  obtain ⟨items, listed, shows⟩ :=
    readAll_total (fun r : DeviceRow => r.sourceId) (fun r => r.readItem s.family) reads
  exact ⟨_, listed, Snapshot.get?_ofList_of_mem_iff (fun i => (shows i).trans kept.row_iff_item?)
    fun _ _ => kept.id_of_item?⟩

end Kept

end Database

end Table

end MailboxSync
