import Mathlib.Data.List.Perm.Basic
import MailboxSync.Proofs.RetoldOutcome
import MailboxSync.Proofs.Transaction
import MailboxSync.Store.Tables

namespace MailboxSync

/-- To put something new on a shelf is to add it. -/
theorem Shelf.perm_put {α : Type} {key : α → String} {s : Shelf key} {x : α} (new : s.get? (key x) = none) :
    (s.put x).toList.Perm (x :: s.toList) := by
  have away : ∀ y ∈ s.toList, key y ≠ key x := by
    intro y mem same
    have found : s.get? (key x) = some y := get?_eq_some_iff.mpr ⟨mem, same⟩
    rw [new] at found
    cases found
  refine (List.perm_ext_iff_of_nodup (s.put x).nodup ?_).mpr fun y => ?_
  · exact List.nodup_cons.mpr ⟨fun mem => away x mem rfl, s.nodup⟩
  · rw [mem_put, List.mem_cons]
    exact or_congr_right ⟨And.left, fun mem => ⟨mem, away y mem⟩⟩

theorem Family.name_inj {f g : Family} : f.name = g.name ↔ f = g := by
  cases f <;> cases g <;> decide

theorem Snapshot.mem_ofList_iff {items : List Item} (distinct : items.Pairwise fun i j => i.id ≠ j.id) {i : Item} :
    i ∈ (ofList items).toList ↔ i.isKeyed = true ∧ i ∈ items := by
  have same : i ∈ (ofList items).toList ↔ (ofList items).get? i.id = some i := by simp [get?_eq_some_iff]
  rw [same, get?_ofList]
  clear same
  induction distinct with
  | nil => simp
  | @cons j rest apart _ ih =>
    have absent : j.id = i.id → i ∉ rest := fun own mem => apart i mem own
    rw [List.find?_cons]
    by_cases own : j.id = i.id
    · cases keyed : j.isKeyed <;> grind [Item.isKeyed]
    · simp only [own, decide_false, Bool.and_false, List.mem_cons, ih]
      grind

namespace Table

/-! What is read back from a cell, or a row, is what was written there. -/

namespace Cell

variable {α : Type} (index : Nat) (column : String)

theorem readFlag_ofBool (b : Bool) : (ofBool b).readFlag index column = .ok b := by
  cases b <;> rfl

theorem readOptionalText_ofOption (f : α → String) (o : Option α) :
    (ofOption (fun x => .text (f x)) o).readOptionalText index column = .ok (o.map f) := by
  cases o <;> rfl

theorem readOptionalInteger_ofOption (f : α → Int) (o : Option α) :
    (ofOption (fun x => .integer (f x)) o).readOptionalInteger index column = .ok (o.map f) := by
  cases o <;> rfl

end Cell

/-! Stores of different mailboxes or families have different rows. -/

theorem Scope.covers_ofItem (s s' : Scope) (i : Item) : s.covers (Row.ofItem s' i) = decide (s' = s) := by
  obtain ⟨mailbox, family⟩ := s
  obtain ⟨mailbox', family'⟩ := s'
  simp [covers, Row.ofItem, Family.name_inj]

theorem Row.sameKey_ofItem (r : Row) (s : Scope) (i : Item) : r.sameKey (ofItem s i) = s.names i.id r := by
  show (decide (r.mailbox = .text s.mailbox) && decide (r.kind = .text s.family.name) &&
    decide (r.sourceId = .text i.id) && decide (r.sourceId ≠ .null)) = _
  have named : (r.sourceId = .text i.id ∧ r.sourceId ≠ .null) ↔ r.sourceId = .text i.id :=
    and_iff_left_of_imp fun text => text ▸ Cell.noConfusion
  rw [Bool.eq_iff_iff]
  simp only [Scope.names, Scope.covers, Bool.and_eq_true, decide_eq_true_eq, and_assoc, named]

namespace Row

variable {s : Scope} {i : Item}

theorem covers_ofItem (s : Scope) (i : Item) : s.covers (ofItem s i) = true := by
  rw [s.covers_ofItem s]
  exact decide_eq_true rfl

theorem readKind_ofItem (family : i.family = s.family) : (ofItem s i).readKind s.family = .ok i.kind := by
  rw [← family]
  obtain ⟨id, kind, read, content, uri, len⟩ := i
  cases kind with
  | voicemail => rfl
  | greeting t active =>
    have type : (Cell.text t.name).readOptionalText 3 "greeting_type" = .ok (some t.name) := rfl
    have played := Cell.readFlag_ofBool 4 "is_active" active
    simp [readKind, Item.family, ItemKind.family, ofItem, type, played, t.ofName?_name, bind, Except.bind, pure,
      Except.pure]

theorem readItem_ofItem (family : i.family = s.family) :
    (ofItem s i).readItem s.family = .ok { i with uri := none, contentLen := none } := by
  unfold readItem
  rw [readKind_ofItem family]
  show ((Cell.ofBool i.isRead).readFlag _ _ >>= fun read => (Cell.ofBool i.hasContent).readFlag _ _ >>= _) = _
  rw [Cell.readFlag_ofBool]
  show ((Cell.ofBool i.hasContent).readFlag _ _ >>= _) = _
  rw [Cell.readFlag_ofBool]
  rfl

end Row

/-! A row of the device's table has nothing in it that does not follow from a few facts. -/

/-- What there is to know of an item on a device. -/
structure Record where
  number : Int
  id : String
  kind : ItemKind
  isRead : Bool
  content : Option Payload

/-- The records of a device, one per name. -/
abbrev Register := Shelf Record.id

namespace Record

/-- The item of a record, for a way to form locators. -/
def item (locate : String → String) (x : Record) : Item where
  id := x.id
  kind := x.kind
  isRead := x.isRead
  hasContent := x.content.isSome
  uri := x.content.map fun _ => locate x.id
  contentLen := x.content.map Payload.length

def row (s : Scope) (x : Record) : DeviceRow :=
  { Row.ofItem s (x.item s.locator) with
    id := x.number
    uri := .ofOption (fun _ => .text (s.locator x.id)) x.content
    content := .ofOption (fun p => .blob p.bytes) x.content
    contentLen := .ofOption (fun p => .integer p.length.toNat) x.content
    mimeType := .ofOption (fun p => .text p.mime) x.content }

/-- The record of an item that comes in. -/
def ofItem (number : Int) (i : Item) : Record := ⟨number, i.id, i.kind, i.isRead, none⟩

def markRead (x : Record) : Record := { x with isRead := true }

def hold (p : Payload) (x : Record) : Record := { x with content := some p }

/-- The record of a greeting no longer played, if it is one of this type. -/
def demote (t : GreetingType) (x : Record) : Record :=
  match x.kind with
  | .greeting t' _ => if t' = t then { x with kind := .greeting t' false } else x
  | .voicemail => x

/-- What becomes of a record when an item comes in beside it. -/
def yieldTo (new : Item) (x : Record) : Record :=
  match new.kind with
  | .greeting t true => x.demote t
  | _ => x

theorem demote_cases (t : GreetingType) (x : Record) :
    x.demote t = x ∨ ∃ a, x.kind = .greeting t a ∧ x.demote t = { x with kind := .greeting t false } := by
  unfold demote
  split
  · next t' a kind =>
    split
    · next same => exact Or.inr ⟨a, same ▸ kind, same ▸ rfl⟩
    · exact Or.inl rfl
  · exact Or.inl rfl

variable (s : Scope) (x : Record)

theorem yieldTo_cases (new : Item) : x.yieldTo new = x ∨
    ∃ t a, x.kind = .greeting t a ∧ x.yieldTo new = { x with kind := .greeting t false } := by
  unfold yieldTo
  split
  · next t _ => exact (x.demote_cases t).imp_right fun ⟨a, kind, demoted⟩ => ⟨t, a, kind, demoted⟩
  · exact Or.inl rfl

@[simp] theorem yieldTo_id (new : Item) : (x.yieldTo new).id = x.id := by
  rcases x.yieldTo_cases new with same | ⟨t, a, _, same⟩ <;> rw [same]

@[simp] theorem yieldTo_content (new : Item) : (x.yieldTo new).content = x.content := by
  rcases x.yieldTo_cases new with same | ⟨t, a, _, same⟩ <;> rw [same]

theorem yieldTo_family (new : Item) : (x.yieldTo new).kind.family = x.kind.family := by
  rcases x.yieldTo_cases new with same | ⟨t, a, kind, same⟩
  · rw [same]
  · rw [same, kind]
    rfl

theorem item_yieldTo (new : Item) (locate : String → String) :
    (x.yieldTo new).item locate = Item.yieldTo new (x.item locate) := by
  obtain ⟨id, kind, read, content, uri, len⟩ := new
  obtain ⟨number, id', kind', read', content'⟩ := x
  rcases kind with _ | ⟨t, _ | _⟩
  · rfl
  · rfl
  · cases kind' with
    | voicemail => rfl
    | greeting t' a => by_cases same : t' = t <;> simp [yieldTo, demote, Item.yieldTo, Item.demote, item, same]

theorem unlocated_item (locate locate' : String → String) :
    (x.item locate).unlocated = (x.item locate').unlocated := by
  simp only [item, Item.unlocated, Option.map_map]
  rfl

@[simp] theorem markRead_id : x.markRead.id = x.id := rfl

@[simp] theorem hold_id (p : Payload) : (x.hold p).id = x.id := rfl

theorem readItem_row (family : x.kind.family = s.family) :
    (x.row s).readItem s.family = .ok (x.item s.locator) := by
  have own : (x.item s.locator).family = s.family := family
  unfold DeviceRow.readItem
  rw [show (x.row s).toRow = Row.ofItem s (x.item s.locator) from rfl, Row.readItem_ofItem own]
  show ((x.row s).uri.readOptionalText _ _ >>= fun uri => (x.row s).contentLen.readOptionalInteger _ _ >>= _) = _
  rw [row, Cell.readOptionalText_ofOption]
  show ((x.row s).contentLen.readOptionalInteger _ _ >>= _) = _
  rw [row, Cell.readOptionalInteger_ofOption]
  obtain ⟨number, id, kind, read, content⟩ := x
  cases content with
  | none => rfl
  | some p => simp [item, bind, Except.bind, pure, Except.pure]

theorem readContent_row : (x.row s).readContent = .ok x.content := by
  obtain ⟨number, id, kind, read, content⟩ := x
  cases content <;> rfl

theorem names_row (s' : Scope) (k : String) : s.names k (x.row s').toRow = decide (s' = s ∧ x.id = k) := by
  have covered : s.covers (x.row s').toRow = decide (s' = s) := s.covers_ofItem s' _
  rw [Scope.names, covered]
  simp [row, Row.ofItem, item]

theorem names_own_row (k : String) : s.names k (x.row s).toRow = decide (x.id = k) := by
  simp [x.names_row]

theorem row_yieldTo {new : Item} {t : GreetingType} (kind : new.kind = .greeting t true)
    (greeting : s.family = .greeting) (family : x.kind.family = s.family) :
    (if Database.isActiveOf s t (x.row s) then (x.row s).deactivate else x.row s) = (x.yieldTo new).row s := by
  have named : ∀ {t t' : GreetingType}, t'.name = t.name → t' = t := by
    intro t t' same
    have found := t'.ofName?_name
    rw [same, t.ofName?_name] at found
    exact (Option.some.inj found).symm
  obtain ⟨number, id, kind', read, content⟩ := x
  cases kind' with
  | voicemail =>
    rw [greeting] at family
    cases family
  | greeting t' active =>
    have yields : yieldTo new ⟨number, id, .greeting t' active, read, content⟩ =
        if t' = t then ⟨number, id, .greeting t' false, read, content⟩
        else ⟨number, id, .greeting t' active, read, content⟩ := by
      rw [yieldTo, kind]
      rfl
    have played : Database.isActiveOf s t (row s ⟨number, id, .greeting t' active, read, content⟩) =
        (decide (t' = t) && active) := by
      rw [Bool.eq_iff_iff]
      cases active with
      | false => simp [Database.isActiveOf, row, Row.ofItem, item, Cell.ofBool]
      | true =>
        simp only [Database.isActiveOf, Scope.covers, greeting, row, Row.ofItem, item, Cell.ofBool]
        simpa using ⟨named, congrArg _⟩
    rw [yields, played]
    by_cases same : t' = t
    · cases active with
      | false => simp [same]
      | true =>
        simp only [same, decide_true, Bool.and_self, if_true]
        rfl
    · simp [same]

end Record

namespace Database

variable {s s' : Scope} {db db' : Database} {k : String}

/-- The database with a new item. -/
def take (db : Database) (s : Scope) (i : Item) : Database :=
  let demoted := db.demote s i.kind
  { demoted with
    device := demoted.device ++ [.ofItem (demoted.lastId + 1) s i]
    lastId := max demoted.lastId (demoted.lastId + 1) }

theorem has_updateDevice {p : DeviceRow → Bool} {f : DeviceRow → DeviceRow}
    (same : ∀ r, s.names k (f r).toRow = s.names k r.toRow) : (db.updateDevice p f).has s k = db.has s k := by
  unfold has updateDevice
  rw [List.any_map]
  refine congrArg db.device.any (funext fun r => ?_)
  rw [Function.comp_apply]
  split
  · exact same r
  · rfl

theorem has_demote (s' : Scope) (kind : ItemKind) : (db.demote s' kind).has s k = db.has s k := by
  unfold demote
  split
  · exact has_updateDevice fun _ => rfl
  · rfl

theorem numbered_demote (kind : ItemKind) : (db.demote s kind).hasForeignIds = db.hasForeignIds := by
  unfold demote
  split <;> rfl

theorem lastId_demote (kind : ItemKind) : (db.demote s kind).lastId = db.lastId := by
  unfold demote
  split <;> rfl

theorem nextId_of_numbered (numbered : db.hasForeignIds = false) : db.nextId = .ok (db.lastId + 1) := by
  simp [nextId, numbered]

theorem perform_eq {a : Action} (next : a.kind = .insert → db.nextId = .ok (db.lastId + 1)) : db.perform s a =
    match a.kind with
    | .insert =>
      if db.has s a.id then .error (.localTransaction (a.render ++ ": " ++ (Fault.notUnique deviceTable).message))
      else .ok (db.take s a.item)
    | .delete => .ok (db.remove s a.id)
    | .markAsRead => .ok (db.markRead s a.id)
    | .fetchContent => .ok db := by
  unfold perform
  cases kind : a.kind with
  | insert =>
    have next : (db.demote s a.item.kind).nextId = .ok ((db.demote s a.item.kind).lastId + 1) := by
      rw [nextId, numbered_demote, lastId_demote]
      exact next kind
    have taken : ((db.demote s a.item.kind).device.any fun x => x.toRow.sameKey
        (DeviceRow.ofItem ((db.demote s a.item.kind).lastId + 1) s a.item).toRow) = db.has s a.id := by
      rw [← has_demote s a.item.kind]
      exact congrArg _ (funext fun x => x.toRow.sameKey_ofItem s a.item.bare)
    simp only [addDevice, next, insertDevice, bind, Except.bind, taken]
    split <;> rfl
  | delete | markAsRead | fetchContent => rfl

/-- A row does not come in without an id. -/
theorem nextId_of_perform {a : Action} (done : db.perform s a = .ok db') (insert : a.kind = .insert) :
    db.nextId = .ok (db.lastId + 1) := by
  unfold nextId
  split
  · next full =>
    have none : (db.demote s a.item.kind).nextId = .error .full := by
      rw [nextId, numbered_demote, lastId_demote, if_pos full]
    unfold perform at done
    rw [insert, addDevice, none] at done
    cases done
  · rfl

theorem mapM_ok {ρ α ε : Type} {read : ρ → Except ε α} {rows : List ρ} {xs : List α}
    (reads : List.Forall₂ (fun r x => read r = .ok x) rows xs) : rows.mapM read = .ok xs := by
  induction reads with
  | nil => rfl
  | cons first _ ih =>
    rw [List.mapM_cons, first, ih]
    rfl

/-- Rows that can be read are listed, in whatever order they are. -/
theorem readAll_ok {ρ : Type} (name : ρ → Cell) {read : ρ → Except Fault Item} {rows some : List ρ}
    {items : List Item} (perm : rows.Perm some) (reads : List.Forall₂ (fun r i => read r = .ok i) some items)
    (distinct : items.Pairwise fun i j => i.id ≠ j.id) :
    ∃ l, readAll name read rows = .ok l ∧ ∀ i, i ∈ l.toList ↔ i.isKeyed = true ∧ i ∈ items := by
  have sorted := List.mergeSort_perm rows fun a b => (name a).precedes (name b)
  obtain ⟨inOrder, each, same⟩ := List.perm_comp_forall₂ (sorted.trans perm) reads
  refine ⟨.ofList inOrder, ?_, fun i => ?_⟩
  · unfold readAll
    rw [mapM_ok each]
  · rw [Snapshot.mem_ofList_iff, same.mem_iff]
    exact (same.pairwise_iff fun {_ _} apart => apart.symm).mpr distinct

theorem forM_eq_ok {ε α : Type} {check : α → Except ε Unit} {l : List α} :
    l.forM check = .ok () ↔ ∀ x ∈ l, check x = .ok () := by
  induction l with
  | nil => exact ⟨nofun, fun _ => rfl⟩
  | cons x rest ih =>
    change (check x >>= fun _ => rest.forM check) = _ ↔ _
    rw [List.forall_mem_cons, ← ih]
    cases check x with
    | error e => exact ⟨nofun, fun both => nomatch both.1⟩
    | ok _ => exact ⟨fun others => ⟨rfl, others⟩, And.right⟩

/-- What is looked over one by one is refused for the first that does not pass. -/
theorem forM_error {ε α : Type} {check : α → Except ε Unit} {l : List α} {e : ε} (refused : l.forM check = .error e) :
    ∃ before x after, l = before ++ x :: after ∧ (∀ y ∈ before, check y = .ok ()) ∧ check x = .error e := by
  induction l with
  | nil => cases refused
  | cons x rest ih =>
    change (check x >>= fun _ => rest.forM check) = _ at refused
    cases first : check x with
    | error e' =>
      rw [first] at refused
      cases refused
      exact ⟨[], x, rest, rfl, fun _ mem => absurd mem List.not_mem_nil, first⟩
    | ok _ =>
      rw [first] at refused
      obtain ⟨before, y, after, rfl, passed, failed⟩ := ih refused
      exact ⟨x :: before, y, after, rfl, List.forall_mem_cons.mpr ⟨first, passed⟩, failed⟩

theorem admits_eq_ok {a : Action} : admits s a = .ok () ↔ a.Fits s.family := by
  unfold admits
  constructor
  · intro admitted
    split at admitted
    · cases admitted
    · next valid =>
      split at admitted
      · cases admitted
      · next family => exact ⟨by simpa using valid, by simpa using family⟩
  · rintro ⟨valid, family⟩
    simp [valid, family]

theorem apply_eq {as : List Action} (fits : ∀ a ∈ as, a.Fits s.family) :
    db.apply s as = as.foldlM (fun db a => db.perform s a) db := by
  unfold apply
  rw [forM_eq_ok.mpr fun a mem => admits_eq_ok.mpr (fits a mem)]
  rfl

/-- What a transaction does to a table does not depend on locators. -/
theorem apply_unlocated (as : List Action) : db.apply s (as.map Action.unlocated) = db.apply s as := by
  have admitted : ∀ as : List Action, (as.map Action.unlocated).forM (admits s) = as.forM (admits s) := by
    intro as
    induction as with
    | nil => rfl
    | cons a rest ih =>
      show (admits s a >>= fun _ => (rest.map Action.unlocated).forM (admits s)) = _
      rw [ih]
      rfl
  unfold apply
  rw [admitted, List.foldlM_map]
  rfl

end Database

end Table

end MailboxSync
