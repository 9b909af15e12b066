import MailboxSync.Proofs.Records
import MailboxSync.Proofs.Stores
import MailboxSync.Proofs.Transaction

namespace MailboxSync.Table

/-- A device in memory and a table hold the same, record by record. -/
structure Filed (s : Scope) (d : Device) (db : Database) (E : Register) : Prop where
  items : ∀ k, d.items.get? k = (E.get? k).map (Record.item (Device.locator s.family))
  content : ∀ k, d.content k = (E.get? k).bind Record.content
  rows : db.device.Perm (E.toList.map (Record.row s))
  family : ∀ x ∈ E.toList, x.kind.family = s.family
  numbered : db.hasForeignIds = false

namespace Filed

variable {s : Scope} {d : Device} {db : Database} {E : Register} {k : String}

theorem rows_adjust {f : Record → Record} {named : ∀ x, (f x).id = x.id} {h : DeviceRow → DeviceRow}
    (rows : db.device.Perm (E.toList.map (Record.row s)))
    (agree : ∀ x, x.id = k → h (x.row s) = (f x).row s) :
    (db.updateDevice (fun r => s.names k r.toRow) h).device.Perm
      ((E.adjust k f named).toList.map (Record.row s)) := by
  refine (rows.map _).trans (.of_eq ?_)
  show _ = (E.toList.map _).map _
  rw [List.map_map, List.map_map]
  refine List.map_congr_left fun x _ => ?_
  simp only [Function.comp_apply, Record.names_own_row, decide_eq_true_eq]
  split
  · next own => exact agree x own
  · rfl

theorem any_rows {l : List DeviceRow} {p : DeviceRow → Bool} (rows : l.Perm (E.toList.map (Record.row s)))
    (test : ∀ x : Record, p (x.row s) = decide (x.id = k)) : l.any p = E.contains k := by
  have same : (E.toList.map (Record.row s)).any p = E.contains k := by
    simp only [List.any_map, Function.comp_def, test, Shelf.contains]
  rw [← same, Bool.eq_iff_iff, List.any_eq_true, List.any_eq_true]
  simp only [rows.mem_iff]

variable (filed : Filed s d db E)

include filed

theorem contains : d.items.contains k = E.contains k := by
  rw [Shelf.contains_eq_isSome, Shelf.contains_eq_isSome, filed.items, Option.isSome_map]

theorem has : db.has s k = E.contains k := any_rows filed.rows fun x => x.names_own_row s k

/-- The user listens to a message. -/
theorem markRead (k : String) :
    Filed s (d.markRead k) (db.markRead s k) (E.adjust k Record.markRead Record.markRead_id) where
  items := by
    intro j
    rw [d.get?_markRead, Shelf.get?_adjust, filed.items]
    split
    · rw [Option.map_map, Option.map_map]
      rfl
    · rfl
  content := by
    intro j
    rw [Shelf.get?_adjust]
    show d.content j = _
    rw [filed.content]
    split
    · cases E.get? j <;> rfl
    · rfl
  rows := rows_adjust filed.rows fun _ _ => rfl
  family := by
    intro y mem
    obtain ⟨x, held, rfl⟩ := List.mem_map.mp mem
    have own := filed.family x held
    split <;> exact own
  numbered := filed.numbered

/-- The user takes a message off the device. -/
theorem remove (k : String) : Filed s (d.remove k) (db.remove s k) (E.erase k) where
  items := by
    intro j
    rw [d.get?_remove, Shelf.get?_erase, filed.items]
    split <;> rfl
  content := by
    intro j
    have before := filed.content j
    rw [Device.content] at before ⊢
    show ((d.contents.erase k).get? j).map Prod.snd = _
    rw [Shelf.get?_erase, Shelf.get?_erase]
    split
    · rfl
    · exact before
  rows := by
    refine (filed.rows.filter _).trans (.of_eq ?_)
    show _ = (E.toList.filter _).map _
    rw [List.filter_map]
    refine congrArg (List.map _) (List.filter_congr fun x _ => ?_)
    simp [Record.names_own_row]
  family := fun x mem => filed.family x (List.mem_filter.mp mem).1
  numbered := filed.numbered

theorem happen (e : DeviceEvent) : ∃ E', Filed s (d.happen e) (db.happen s e) E' := by
  cases e with
  | read id => exact ⟨_, filed.markRead id⟩
  | remove id => exact ⟨_, filed.remove id⟩

theorem storeContent {i : Item} (family : i.family = s.family) (p : Payload) (held : E.contains i.id = true) :
    Filed s (d.storeContent i p).2 (db.updateDevice (fun r => s.names i.id r.toRow) fun r => r.hold (s.locator i.id) p)
      (E.adjust i.id (Record.hold p) (Record.hold_id · p)) where
  items := by
    intro j
    rw [d.get?_storeContent, Shelf.get?_adjust, filed.items]
    split
    · next own =>
      rw [Option.map_map, Option.map_map]
      refine Option.map_congr fun x found => ?_
      have named : x.id = j := Shelf.get?_key found
      simp [Item.holding, Record.item, Record.hold, family, named, own]
    · rfl
  content := by
    intro j
    have present : (d.items.get? i.id).isSome = true := by
      rw [← Shelf.contains_eq_isSome, filed.contains, held]
    have before := filed.content j
    rw [Device.content] at before ⊢
    rw [d.get?_storeContent_contents, Shelf.get?_adjust]
    split
    · next own =>
      rw [Shelf.contains_eq_isSome, Option.isSome_iff_exists] at held
      obtain ⟨x, found⟩ := held
      rw [if_pos own.1, own.1, found]
      rfl
    · next other =>
      rw [if_neg fun own => other ⟨own, present⟩]
      exact before
  rows := by
    refine rows_adjust filed.rows fun x own => ?_
    rw [← own]
    rfl
  family := by
    intro y mem
    obtain ⟨x, here, rfl⟩ := List.mem_map.mp mem
    have own := filed.family x here
    split <;> exact own
  numbered := filed.numbered

/-- Of the rest of a device it matters only what contents are found in it. -/
theorem of_content {d' : Device} (items : d'.items = d.items) (content : ∀ k, d'.content k = d.content k) :
    Filed s d' db E :=
  { filed with
    items := fun k => items ▸ filed.items k
    content := fun k => (content k).trans (filed.content k) }

/-- There is no content without its item. -/
theorem content_bind (k : String) : ((d.items.get? k).bind fun _ => d.content k) = d.content k := by
  rw [filed.items, filed.content]
  cases E.get? k <;> rfl

/-- What a transaction that is at these items leaves of the contents. -/
theorem content_kept (items : Folder) (k : String) :
    ({ d with items, contents := d.keptContents items } : Device).content k =
      (items.get? k).bind fun _ => d.content k := by
  have before := filed.items k
  have content := filed.content k
  rw [Device.content] at content ⊢
  dsimp only
  rw [d.get?_keptContents, before, Option.isSome_map]
  cases found : E.get? k with
  | none =>
    rw [found] at content
    rw [Device.content, content]
    cases items.get? k <;> simpa using content
  | some x => cases items.get? k <;> simp [Device.content]

/-- A greeting that comes in ends the turn of others. -/
theorem rows_demote {new : Item} (family : new.family = s.family) : (db.demote s new.kind).device.Perm
    ((E.map (Record.yieldTo new) (Record.yieldTo_id · new)).toList.map (Record.row s)) := by
  have yields : (db.demote s new.kind).device.Perm (E.toList.map fun x => (x.yieldTo new).row s) := by
    unfold Database.demote
    split
    · next t kind =>
      have greeting : s.family = .greeting := by rw [← family, Item.family, kind]; rfl
      refine (filed.rows.map _).trans (.of_eq ?_)
      rw [List.map_map]
      exact List.map_congr_left fun x mem => x.row_yieldTo s kind greeting (filed.family x mem)
    · next other =>
      refine filed.rows.trans (.of_eq (List.map_congr_left fun x _ => congrArg _ ?_))
      unfold Record.yieldTo
      split
      · next t kind => exact absurd kind (other t)
      · rfl
  refine yields.trans (.of_eq ?_)
  show _ = (E.toList.map _).map _
  rw [List.map_map]
  rfl

theorem insert {i : Item} (family : i.family = s.family) (away : E.get? i.id = none) :
    Filed s { d with items := d.items.add i, contents := d.keptContents (d.items.add i) } (db.take s i)
      ((E.map (Record.yieldTo i) (Record.yieldTo_id · i)).put (.ofItem ((db.demote s i.kind).lastId + 1) i)) where
  items := by
    intro k
    dsimp only
    rw [Folder.get?_add, Shelf.get?_put, Shelf.get?_map, filed.items]
    show (if i.id = k then _ else _) = Option.map _ (if i.id = k then _ else _)
    split
    · rfl
    · cases E.get? k with
      | none => rfl
      | some x => exact congrArg some (x.item_yieldTo i _).symm
  content := by
    intro k
    rw [filed.content_kept, Folder.get?_add, Shelf.get?_put, Shelf.get?_map, filed.content, filed.items]
    show Option.bind (if i.id = k then _ else _) _ = Option.bind (if i.id = k then _ else _) _
    split
    · next own =>
      rw [← own, away]
      rfl
    · cases E.get? k with
      | none => rfl
      | some x => exact (x.yieldTo_content i).symm
  rows := by
    have new : (E.map (Record.yieldTo i) (Record.yieldTo_id · i)).get? i.id = none := by
      rw [Shelf.get?_map, away]
      rfl
    refine (List.perm_append_singleton _ _).trans (.trans (.cons _ (filed.rows_demote family)) ?_)
    exact (Shelf.perm_put (x := Record.ofItem _ i) new).symm.map (Record.row s)
  family := by
    intro y mem
    rcases Shelf.mem_put.mp mem with rfl | ⟨held, _⟩
    · exact family
    · obtain ⟨x, here, rfl⟩ := List.mem_map.mp held
      rw [x.yieldTo_family]
      exact filed.family x here
  numbered := (Database.numbered_demote i.kind).trans filed.numbered

/-- An action of a transaction goes through with both, or with neither. -/
theorem perform {a : Action} (fits : a.Fits s.family) :
    Concur (fun items db' => ∃ E', Filed s { d with items, contents := d.keptContents items } db' E')
      (d.items.perform a) (db.perform s a) := by
  unfold Folder.perform
  rw [Database.perform_eq fun _ => Database.nextId_of_numbered filed.numbered]
  cases kind : a.kind with
  | insert =>
    simp only [filed.contains, filed.has]
    split
    · exact .error rfl
    · next free =>
      have away : E.get? a.id = none := by
        rw [Shelf.contains_eq_isSome] at free
        simpa using free
      exact .ok ⟨_, filed.insert fits.2 away⟩
  | delete =>
    refine .ok ⟨_, (filed.remove a.id).of_content rfl fun k => ?_⟩
    rw [filed.content_kept, (filed.remove a.id).content, Shelf.get?_erase, Shelf.get?_erase]
    split
    · rfl
    · rw [filed.content_bind, filed.content]
  | markAsRead =>
    refine .ok ⟨_, (filed.markRead a.id).of_content rfl fun k => ?_⟩
    show _ = d.content k
    rw [filed.content_kept, Shelf.get?_adjust]
    split
    · rw [Option.bind_map]
      exact filed.content_bind k
    · exact filed.content_bind k
  | fetchContent =>
    have valid := fits.1
    simp [Action.isValidFor, kind, ActionKind.isValidFor] at valid

/-- What an action of a transaction has taken away does not come back in its course. -/
theorem content_of_later {a : Action} {rest : List Action} {items after : Folder}
    (first : d.items.perform a = .ok items) (others : items.performAll rest = .ok after)
    (sparing : (Request.applyDevice (a :: rest)).Sparing) (k : String) :
    ((after.get? k).bind fun _ => (items.get? k).bind fun _ => d.content k) =
      (after.get? k).bind fun _ => d.content k := by
  cases left : items.get? k with
  | some j => rfl
  | none =>
    cases before : d.items.get? k with
    | none =>
      have empty := filed.content_bind k
      rw [before] at empty
      rw [← empty]
      cases after.get? k <;> rfl
    | some i =>
      have gone : Action.alterAll [a] k (some i) = none := by
        rw [← before]
        exact (Folder.get?_perform first k).symm.trans left
      obtain ⟨_, mem, delete, own⟩ := Action.deleted_of_alterAll gone
      obtain rfl := List.mem_singleton.mp mem
      have away : after.get? k = none := by
        rw [Folder.get?_performAll others, left]
        exact Action.alterAll_none fun b mem insert same =>
          sparing b (List.mem_cons_of_mem _ mem) _ List.mem_cons_self insert delete (same.trans own.symm)
      rw [away]
      rfl

/-- A transaction goes through with both, or with neither. -/
theorem performAll {as : List Action} (fits : ∀ a ∈ as, a.Fits s.family)
    (sparing : (Request.applyDevice as).Sparing) :
    Concur (fun items db' => ∃ E', Filed s { d with items, contents := d.keptContents items } db' E')
      (d.items.performAll as) (as.foldlM (fun db a => db.perform s a) db) := by
  induction as generalizing d db E with
  | nil =>
    refine .ok ⟨E, filed.of_content rfl fun k => ?_⟩
    rw [filed.content_kept, filed.content_bind]
  | cons a rest ih =>
    refine .bind (filed.perform (fits a List.mem_cons_self)) ?_
    rintro items db' first ⟨E', filed'⟩
    refine .mono (ih filed' (fun b mem => fits b (List.mem_cons_of_mem _ mem)) fun b memB c memC =>
      sparing b (List.mem_cons_of_mem _ memB) c (List.mem_cons_of_mem _ memC)) ?_
    rintro after db'' others ⟨E'', filed''⟩
    refine ⟨E'', filed''.of_content rfl fun k => ?_⟩
    rw [filed.content_kept]
    refine .trans ?_ (filed'.content_kept after k).symm
    rw [filed.content_kept]
    exact (filed.content_of_later first others sparing k).symm

/-- The device's table can be listed, and shows what the device in memory shows. -/
theorem listDevice : ∃ l, db.listDevice s = .ok l ∧ l.unlocated = d.snapshot.unlocated := by
  have own : (db.device.filter fun r => s.covers r.toRow && r.sourceId ≠ .null) = db.device := by
    refine List.filter_eq_self.mpr fun r mem => ?_
    obtain ⟨x, _, rfl⟩ := List.mem_map.mp (filed.rows.mem_iff.mp mem)
    simp [Scope.covers, Record.row, Row.ofItem]
  have reads : List.Forall₂ (fun (r : DeviceRow) i => r.readItem s.family = .ok i) (E.toList.map (Record.row s))
      (E.toList.map (Record.item s.locator)) := by
    rw [List.forall₂_map_left_iff, List.forall₂_map_right_iff, List.forall₂_same]
    exact fun x mem => x.readItem_row s (filed.family x mem)
  have distinct : (E.toList.map (Record.item s.locator)).Pairwise fun i j => i.id ≠ j.id :=
    List.pairwise_map.mpr E.keys_distinct
  obtain ⟨l, listed, shows⟩ := Database.readAll_ok (fun r => r.sourceId) filed.rows reads distinct
  have shown : ∀ k, l.get? k = ((E.get? k).map (Record.item s.locator)).filter Item.isKeyed := by
    intro k
    apply Option.ext
    intro i
    rw [Snapshot.get?_eq_some_iff, shows, Option.filter_eq_some_iff, Option.map_eq_some_iff]
    simp only [List.mem_map, Shelf.get?_eq_some_iff]
    constructor
    · rintro ⟨⟨keyed, x, mem, rfl⟩, named⟩
      exact ⟨⟨x, ⟨mem, named⟩, rfl⟩, keyed⟩
    · rintro ⟨⟨x, ⟨mem, named⟩, rfl⟩, keyed⟩
      exact ⟨⟨keyed, x, mem, rfl⟩, named⟩
  refine ⟨l, by rw [Database.listDevice, own, listed], Snapshot.ext_get? fun k => ?_⟩
  rw [Snapshot.get?_unlocated, Snapshot.get?_unlocated, shown, d.get?_snapshot, filed.items]
  cases E.get? k with
  | none => rfl
  | some x =>
    have keyed : (x.item s.locator).isKeyed = (x.item (Device.locator s.family)).isKeyed := rfl
    have same := x.unlocated_item s.locator (Device.locator s.family)
    simp only [Option.map_some, Option.filter_some, keyed]
    split
    · exact congrArg some same
    · rfl

/-- Content is found with both, or with neither. -/
theorem content_eq (k : String) : db.content s k = .ok (d.content k) := by
  have held : ∀ x : Record, (s.names k (x.row s).toRow && (x.row s).hasContent = .integer 1) =
      (decide (x.id = k) && x.content.isSome) := by
    intro x
    have flag : (x.row s).hasContent = .ofBool x.content.isSome := rfl
    rw [x.names_own_row, flag]
    cases x.content <;> rfl
  rw [filed.content, Database.content]
  split
  · next none =>
    rw [List.find?_eq_none] at none
    cases found : E.get? k with
    | none => rfl
    | some x =>
      obtain ⟨mem, named⟩ := Shelf.get?_eq_some_iff.mp found
      have lacks := none _ (filed.rows.mem_iff.mpr (List.mem_map_of_mem mem))
      rw [held, named] at lacks
      have empty : x.content = Option.none := by simpa using lacks
      rw [Option.bind_some, empty]
  · next r found =>
    obtain ⟨x, mem, rfl⟩ := List.mem_map.mp (filed.rows.mem_iff.mp (List.mem_of_find?_eq_some found))
    have holds := List.find?_some found
    rw [held, Bool.and_eq_true, decide_eq_true_eq] at holds
    have own : E.get? k = some x := Shelf.get?_eq_some_iff.mpr ⟨mem, holds.1⟩
    rw [own, x.readContent_row]
    rfl

end Filed

end MailboxSync.Table
