import MailboxSync.Proofs.DeviceUses

/-! What an item says of its content, and what is handed out as its content. -/

namespace MailboxSync

/-- An item, if there is one, says of its content that it is this one, if there is one. -/
structure Tells (x : Option Item) (c : Option Payload) : Prop where
  flag : x.any Item.hasContent = c.isSome
  length : x.bind Item.contentLen = c.map Payload.length

namespace Tells

variable {x : Option Item} {c : Option Payload} {k : String}

theorem absent (tells : Tells none c) : c = none := by
  rw [← Option.isNone_iff_eq_none, ← Option.isSome_eq_false_iff, ← tells.flag]
  rfl

theorem map (tells : Tells x c) {f : Item → Item} (flag : ∀ i, (f i).hasContent = i.hasContent)
    (length : ∀ i, (f i).contentLen = i.contentLen) : Tells (x.map f) c := by
  refine ⟨?_, ?_⟩
  · rw [← tells.flag, Option.any_map]
    exact congrArg (Option.any · x) (funext flag)
  · rw [← tells.length, Option.bind_map]
    exact congrArg (Option.bind x) (funext length)

theorem alter (tells : Tells x c) {a : Action} (free : ¬(a.kind = .insert ∧ a.id = k ∧ x.isSome = true)) :
    Tells (a.alter k x) (if a.deletes k then none else c) := by
  by_cases own : a.id = k
  · cases kind : a.kind with
    | insert =>
      cases x with
      | some i => exact absurd ⟨kind, own, rfl⟩ free
      | none =>
        rw [tells.absent, ite_self]
        simp only [Action.alter, kind, own, if_true]
        exact ⟨rfl, rfl⟩
    | delete =>
      simp only [Action.alter, Action.deletes, kind, own, decide_true, Bool.and_self, if_true]
      exact ⟨rfl, rfl⟩
    | markAsRead =>
      simp only [Action.alter, Action.deletes, kind, own, if_true]
      exact tells.map (fun _ => rfl) fun _ => rfl
    | fetchContent =>
      simp only [Action.alter, Action.deletes, kind]
      exact tells
  · have stays : a.deletes k = false := by simp [Action.deletes, own]
    rw [stays]
    cases kind : a.kind with
    | insert =>
      simp only [Action.alter, kind, own, if_false]
      exact tells.map (Item.eq_yieldTo Item.passive_hasContent _) (Item.eq_yieldTo Item.passive_contentLen _)
    | delete | markAsRead | fetchContent =>
      simp only [Action.alter, kind, own, if_false]
      exact tells

/-- A transaction leaves an item as it is for that purpose, unless it deletes it. -/
theorem alterAll {as : List Action} {held : String → Bool} (tells : Tells x c) (same : held k = x.isSome)
    (free : ¬Action.Collide as held) :
    Tells (Action.alterAll as k x) (if as.any (Action.deletes k) then none else c) := by
  induction as generalizing x c held with
  | nil => exact tells
  | cons a rest ih =>
    rw [Action.collide_cons_iff, not_or] at free
    have first := tells.alter (a := a) (k := k) fun taken => free.1 ⟨taken.1, by rw [taken.2.1, same]; exact taken.2.2⟩
    have later := ih first (by rw [Action.isSome_alter, same]) free.2
    have told : (if (a :: rest).any (Action.deletes k) then none else c) =
        if rest.any (Action.deletes k) then none else if a.deletes k then none else c := by
      rw [List.any_cons]
      cases a.deletes k <;> simp
    rw [told]
    exact later

end Tells

namespace Usage

variable {u : Usage} {k : String} {past : List Usage}

/-- What one use says of the content under a name, if it is decided which transactions take content away. -/
def tells (drops : List Action → Bool) (k : String) : Usage → Option (Option Payload)
  | transact as => if drops as then some none else none
  | keep i p => if i.id = k then some (some p) else none
  | user (.remove id) => if id = k then some none else none
  | user (.read _) | fault _ => none

/-- What the uses so far say of the content under a name: the latest that says anything counts. -/
def told (drops : List Action → Bool) (k : String) (past : List Usage) : Option Payload :=
  (past.findSome? (tells drops k)).join

theorem told_cons (drops : List Action → Bool) :
    told drops k (u :: past) = (u.tells drops k).getD (told drops k past) := by
  unfold told
  rw [List.findSome?_cons]
  cases u.tells drops k <;> rfl

/-- The content that was kept last for the item that is there now, and not for an earlier one. -/
def kept (k : String) (past : List Usage) : Option Payload := told (·.any (Action.deletes k)) k past

/-- The content that was kept last under a name that has not been left vacant since. -/
def held (k : String) (past : List Usage) : Option Payload := told (!Action.leavesAll · k true) k past

end Usage

theorem Tells.alter_usage {x : Option Item} {c : Option Payload} {k : String} {there : String → Bool}
    {locate : Item → String} (tells : Tells x c) {u : Usage} (same : there k = x.isSome) (passes : u.Passes there) :
    Tells (u.alter locate k x) ((u.tells (·.any (Action.deletes k)) k).getD c) := by
  cases u with
  | transact as =>
    have after := tells.alterAll same passes
    rw [Usage.tells]
    split at after
    · next deleted => rwa [if_pos deleted]
    · next stays => rwa [if_neg stays]
  | keep i p =>
    rw [Usage.alter, Usage.tells]
    by_cases own : i.id = k
    · rw [Usage.Passes, own, same] at passes
      obtain ⟨j, rfl⟩ := Option.isSome_iff_exists.mp passes
      rw [if_pos own, if_pos own]
      exact ⟨rfl, rfl⟩
    · rwa [if_neg own, if_neg own]
  | user e =>
    cases e with
    | read id =>
      rw [Usage.alter, Usage.tells]
      split
      · exact tells.map (fun _ => rfl) fun _ => rfl
      · exact tells
    | remove id =>
      rw [Usage.alter, Usage.tells]
      split
      · exact ⟨rfl, rfl⟩
      · exact tells
  | fault reason => exact tells

/-- A name under which content is held is not vacant. -/
theorem Usage.isSome_alter_of_tells {x : Option Item} {c : Option Payload} {k : String} {there : String → Bool}
    {locate : Item → String} {u : Usage} (filed : c.isSome = true → x.isSome = true) (same : there k = x.isSome)
    (passes : u.Passes there) (held : ((u.tells (!Action.leavesAll · k true) k).getD c).isSome = true) :
    (u.alter locate k x).isSome = true := by
  cases u with
  | transact as =>
    rw [tells] at held
    rw [alter, Action.isSome_alterAll_eq]
    cases left : Action.leavesAll as k true with
    | false =>
      rw [left] at held
      cases held
    | true =>
      rw [left] at held
      rw [filed held, left]
  | keep i p =>
    rw [tells] at held
    rw [alter]
    by_cases own : i.id = k
    · rw [Passes, own, same] at passes
      rwa [if_pos own, Option.isSome_map]
    · rw [if_neg own] at held ⊢
      exact filed held
  | user e =>
    cases e with
    | read id =>
      rw [alter]
      split
      · rw [Option.isSome_map]
        exact filed held
      · exact filed held
    | remove id =>
      rw [tells] at held
      rw [alter]
      by_cases own : id = k
      · rw [if_pos own] at held
        cases held
      · rw [if_neg own] at held ⊢
        exact filed held
  | fault reason => exact filed held

/-! In memory -/

namespace Device

variable {d d' : Device} {u : Usage} {k : String} {past : List Usage}

/-- Where a device stands after these uses. -/
structure Recalls (d : Device) (past : List Usage) : Prop where
  tells : ∀ k, Tells (d.items.get? k) (Usage.kept k past)
  content : ∀ k, d.content k = Usage.held k past
  filed : ∀ k, (d.content k).isSome = true → (d.items.get? k).isSome = true

/-- A transaction takes the content away of what is not there in the end. -/
theorem content_keptContents (filed : ∀ k, (d.content k).isSome = true → (d.items.get? k).isSome = true)
    {as : List Action} {items : Folder} (performed : d.items.performAll as = .ok items) (k : String) :
    ((d.keptContents items).get? k).map Prod.snd = if Action.leavesAll as k true then d.content k else none := by
  have left : (items.get? k).isSome = Action.leavesAll as k (d.items.get? k).isSome := by
    rw [Folder.get?_performAll performed, Action.isSome_alterAll_eq]
  rw [get?_keptContents, ← Option.not_isSome, left]
  cases there : (d.items.get? k).isSome with
  | true =>
    rw [Bool.true_and]
    cases Action.leavesAll as k true <;> rfl
  | false =>
    have nothing : d.content k = none := by
      rw [← Option.isNone_iff_eq_none, ← Option.isSome_eq_false_iff, ← Bool.not_eq_true]
      intro held
      rw [filed k held] at there
      cases there
    rw [Bool.false_and, if_neg Bool.false_ne_true, nothing, ite_self]
    exact nothing

theorem content_undergo (filed : ∀ k, (d.content k).isSome = true → (d.items.get? k).isSome = true)
    (done : d.undergo u = (.ok (), d')) (k : String) :
    d'.content k = (u.tells (!Action.leavesAll · k true) k).getD (d.content k) := by
  cases u with
  | transact as =>
    obtain ⟨items, performed, after⟩ := d.apply_ok (congrArg Prod.fst done)
    obtain rfl : (d.apply as).2 = d' := congrArg Prod.snd done
    rw [after, Usage.tells]
    refine (content_keptContents filed performed k).trans ?_
    cases Action.leavesAll as k true <;> rfl
  | keep i p =>
    have present := storeContent_ok done
    obtain rfl : (d.storeContent i p).2 = d' := congrArg Prod.snd done
    rw [content, d.get?_storeContent_contents, Usage.tells]
    simp only [present, and_true, eq_comm (a := k)]
    split <;> rfl
  | user e =>
    cases done
    cases e with
    | read id => rfl
    | remove id =>
      show ((d.contents.erase id).get? k).map Prod.snd = _
      rw [Shelf.get?_erase, Usage.tells]
      simp only [eq_comm (a := k)]
      split <;> rfl
  | fault reason =>
    cases done
    rfl

theorem Recalls.undergo (recalls : d.Recalls past) (done : d.undergo u = (.ok (), d')) : d'.Recalls (u :: past) := by
  have passes := passes_of_undergo done
  have content := content_undergo recalls.filed done
  refine ⟨fun k => ?_, fun k => ?_, fun k held => ?_⟩
  · rw [get?_undergo done, Usage.kept, Usage.told_cons]
    exact (recalls.tells k).alter_usage rfl passes
  · rw [content, recalls.content]
    exact (Usage.told_cons _).symm
  · rw [content] at held
    rw [get?_undergo done]
    exact Usage.isSome_alter_of_tells (recalls.filed k) rfl passes held

/-- What is handed out in memory is what was kept under a name, for this item or for an earlier one. What an item says
of its content is right for the content that was kept for this item. -/
theorem recalls_diary (us : List Usage) : (diary us).now.Recalls (diary us).past := by
  refine Diary.keeps (P := Recalls) (x := ⟨{}, []⟩) ?_ ?_ ⟨fun _ => ⟨rfl, rfl⟩, fun _ => rfl, nofun⟩ us
  · exact fun d past u d' recalls done => recalls.undergo done
  · intro d past u e d' recalls failed
    obtain ⟨items, contents⟩ := undergo_error failed
    have content : ∀ k, d'.content k = d.content k := fun k => by rw [content, contents]; rfl
    exact ⟨fun k => items ▸ recalls.tells k, fun k => (content k).trans (recalls.content k),
      fun k held => items ▸ recalls.filed k (content k ▸ held)⟩

end Device

/-! In tables -/

namespace Table

/-- What was done under a scope. -/
def Scope.own (s : Scope) (past : List (Scope × Usage)) : List Usage :=
  past.filterMap fun x => if x.1 = s then some x.2 else none

theorem Scope.own_cons_self (s : Scope) (u : Usage) (past : List (Scope × Usage)) :
    s.own ((s, u) :: past) = u :: s.own past := by
  rw [own, List.filterMap_cons, if_pos rfl]
  rfl

theorem Scope.own_cons_of_ne {s s' : Scope} (other : s' ≠ s) (u : Usage) (past : List (Scope × Usage)) :
    s.own ((s', u) :: past) = s.own past := by
  rw [own, List.filterMap_cons, if_neg other]
  rfl

namespace Database

variable {db db' : Database} {s s' : Scope} {k : String} {a : Action} {as : List Action} {u : Usage}

theorem content_updateDevice {p : DeviceRow → Bool} {f : DeviceRow → DeviceRow}
    (stays : ∀ r, s.names k (f r).toRow = s.names k r.toRow)
    (keeps : ∀ r, p r = true → s.names k r.toRow = true →
      (f r).hasContent = r.hasContent ∧ (f r).readContent = r.readContent) :
    (db.updateDevice p f).content s k = db.content s k := by
  have found : (db.updateDevice p f).device.find? (fun r => s.names k r.toRow && r.hasContent = .integer 1) =
      (db.device.find? fun r => s.names k r.toRow && r.hasContent = .integer 1).map
        fun r => if p r then f r else r := by
    rw [updateDevice, List.find?_map]
    congr 2
    funext r
    rw [Function.comp_apply]
    split
    · next picked =>
      rw [stays]
      cases named : s.names k r.toRow with
      | false => rfl
      | true => rw [(keeps r picked named).1]
    · rfl
  rw [content, content, found]
  cases out : db.device.find? fun r => s.names k r.toRow && r.hasContent = .integer 1 with
  | none => rfl
  | some r =>
    have both := List.find?_some (p := fun r : DeviceRow => s.names k r.toRow && r.hasContent = .integer 1) out
    have same : (if p r then f r else r).readContent = r.readContent := by
      split
      · next picked => exact (keeps r picked (Bool.and_eq_true_iff.mp both).1).2
      · rfl
    exact congrArg (Except.mapError Fault.failure) same

theorem content_eq_none (absent : db.has s k = false) : db.content s k = .ok none := by
  have missing : db.device.find? (fun r => s.names k r.toRow && r.hasContent = .integer 1) = none := by
    rw [List.find?_eq_none]
    intro r mem both
    rw [has, List.any_eq_false] at absent
    exact absent r mem (Bool.and_eq_true_iff.mp both).1
  rw [content, missing]

theorem content_remove (id : String) :
    (db.remove s id).content s k = if id = k then .ok none else db.content s k := by
  by_cases own : id = k
  · rw [if_pos own]
    exact content_eq_none (by rw [has_remove, own]; simp)
  · rw [if_neg own, content, content, remove, deleteDevice, List.find?_filter]
    congr 2
    funext r
    cases named : s.names k r.toRow with
    | false => simp
    | true =>
      rw [Scope.names_inj named]
      simp [own]

theorem content_take (i : Item) : (db.take s i).content s k = db.content s k := by
  have demoted : (db.demote s i.kind).content s k = db.content s k := by
    unfold demote
    split
    · exact content_updateDevice (f := DeviceRow.deactivate) (fun _ => rfl) fun _ _ _ => ⟨rfl, rfl⟩
    · rfl
  have bare (n : Int) : (DeviceRow.ofItem n s i).hasContent ≠ .integer 1 := by
    show Cell.integer 0 ≠ .integer 1
    decide
  rw [← demoted, content, content, take, List.find?_append, List.find?_singleton]
  simp only [bare, decide_false, Bool.and_false, Bool.false_eq_true, if_false, Option.or_none]

/-- An action takes the content of what it deletes away, and no other. -/
theorem content_perform (done : db.perform s a = .ok db') :
    db'.content s k = if a.deletes k then .ok none else db.content s k := by
  rw [perform_eq (nextId_of_perform done)] at done
  cases kind : a.kind with
  | insert =>
    simp only [kind] at done
    split at done
    · cases done
    · cases done
      rw [content_take]
      simp [Action.deletes, kind]
  | delete =>
    simp only [kind] at done
    cases done
    rw [content_remove]
    simp [Action.deletes, kind]
  | markAsRead =>
    simp only [kind] at done
    cases done
    rw [markRead, content_updateDevice (f := DeviceRow.markRead) (fun _ => rfl) fun _ _ _ => ⟨rfl, rfl⟩]
    simp [Action.deletes, kind]
  | fetchContent =>
    simp only [kind] at done
    cases done
    simp [Action.deletes, kind]

theorem content_performAll (done : as.foldlM (fun (db : Database) a => db.perform s a) db = .ok db') :
    db'.content s k = if as.any (Action.deletes k) then .ok none else db.content s k := by
  induction as generalizing db with
  | nil =>
    cases done
    rfl
  | cons a rest ih =>
    obtain ⟨between, first, others⟩ := foldlM_cons_ok done
    rw [ih others, content_perform first, List.any_cons]
    cases a.deletes k <;> simp

theorem content_storeContent {i : Item} {p : Payload} (done : db.storeContent s i p = .ok db') :
    db'.content s k = if i.id = k then .ok (some p) else db.content s k := by
  unfold storeContent at done
  split at done
  · next there =>
    cases done
    by_cases own : i.id = k
    · obtain ⟨r, found⟩ := Option.isSome_iff_exists.mp (List.isSome_find?.trans there)
      have named := List.find?_some (p := fun r : DeviceRow => s.names i.id r.toRow) found
      have flagged : (fun r : DeviceRow => s.names k r.toRow && r.hasContent = .integer 1) ∘
          (fun r => if s.names i.id r.toRow then r.hold (s.locator i.id) p else r) = fun r => s.names i.id r.toRow := by
        funext r
        rw [← own, Function.comp_apply]
        split
        · next named => exact (Bool.and_true _)
        · next other => rw [Bool.eq_false_iff.mpr other, Bool.false_and]
      rw [if_pos own, content, updateDevice, List.find?_map, flagged, found]
      simp only [Option.map_some, named, if_true]
      rfl
    · rw [if_neg own]
      refine content_updateDevice (f := fun r => r.hold (s.locator i.id) p) (fun _ => rfl) fun r named named' => ?_
      rw [Scope.names_inj named, decide_eq_true_eq] at named'
      exact absurd named'.symm own
  · cases done

theorem content_undergo {c : Option Payload} (before : db.content s k = .ok c)
    (done : db.undergo (s, u) = (.ok (), db')) :
    db'.content s k = .ok ((u.tells (·.any (Action.deletes k)) k).getD c) := by
  cases u with
  | transact as =>
    rw [content_performAll (apply_ok (change_ok done)).2, Usage.tells]
    split
    · rfl
    · exact before
  | keep i p =>
    rw [content_storeContent (change_ok done), Usage.tells]
    split
    · rfl
    · exact before
  | user e =>
    cases done
    cases e with
    | read id =>
      exact (content_updateDevice (f := DeviceRow.markRead) (fun _ => rfl) fun _ _ _ => ⟨rfl, rfl⟩).trans before
    | remove id =>
      refine (content_remove id).trans ?_
      rw [Usage.tells]
      split
      · rfl
      · exact before
  | fault reason => cases done

theorem content_undergo_other (other : s' ≠ s) (done : db.undergo (s', u) = (.ok (), db')) :
    db'.content s k = db.content s k := by
  rw [← content_only, only_undergo other done, content_only]

/-- What is handed out of a table is what was kept for the item that is there now. -/
theorem content_diary (us : List (Scope × Usage)) (s : Scope) (k : String) :
    (diary us).now.content s k = .ok (Usage.kept k (s.own (diary us).past)) := by
  refine (diary_keeps (P := fun db past => db.content s k = .ok (Usage.kept k (s.own past))) rfl ?_ us).2
  intro db past s' u db' _ before done
  by_cases own : s' = s
  · subst own
    rw [content_undergo before done, Scope.own_cons_self]
    exact congrArg Except.ok (Usage.told_cons _).symm
  · rw [content_undergo_other own done, before, Scope.own_cons_of_ne own]

/-- The row of a name is the only one, so its content is handed out. -/
theorem Kept.content_of_row (kept : db.Kept s) {x : Record}
    (found : (db.device.find? fun r => s.names k r.toRow) = some (x.row s)) : db.content s k = .ok x.content := by
  have named := List.find?_some (p := fun r : DeviceRow => s.names k r.toRow) found
  have alone : ∀ r ∈ db.device, s.names k r.toRow = true → r = x.row s := fun r mem named' =>
    kept.indexed.eq_of_names mem (List.mem_of_find?_eq_some found) named' named
  rw [content]
  cases flagged : db.device.find? fun r => s.names k r.toRow && r.hasContent = .integer 1 with
  | some r =>
    have both := List.find?_some (p := fun r : DeviceRow => s.names k r.toRow && r.hasContent = .integer 1) flagged
    obtain rfl := alone r (List.mem_of_find?_eq_some flagged) (Bool.and_eq_true_iff.mp both).1
    exact congrArg (Except.mapError Fault.failure) (x.readContent_row s)
  | none =>
    have unflagged := List.find?_eq_none.mp flagged _ (List.mem_of_find?_eq_some found)
    rw [named, Bool.true_and, decide_eq_true_eq] at unflagged
    cases held : x.content with
    | none => rfl
    | some p =>
      refine absurd ?_ unflagged
      show Cell.ofBool x.content.isSome = _
      rw [held]
      rfl

/-- What an item says of its content is right for what is handed out. -/
theorem Kept.tells (kept : db.Kept s) {c : Option Payload} (out : db.content s k = .ok c) :
    Tells (db.item? s k) c := by
  cases found : db.device.find? fun r => s.names k r.toRow with
  | none =>
    rw [content_eq_none (by rw [← kept.isSome_item?, item?_eq_none found]; rfl)] at out
    cases out
    rw [item?_eq_none found]
    exact ⟨rfl, rfl⟩
  | some r =>
    obtain ⟨x, rfl, family, -⟩ := kept.record found
    rw [kept.content_of_row found] at out
    cases out
    rw [item?_of_record found family]
    exact ⟨rfl, rfl⟩

end Database

end Table

/-- A store hands out content if its item says that it has content, and then it is of the length that the item says and
the one that was kept last for the item. -/
structure Truthful (x : Option Item) (out last : Option Payload) : Prop where
  flagged : out.isSome = true ↔ ∃ i, x = some i ∧ i.hasContent = true
  measured : ∀ p, out = some p → ∃ i, x = some i ∧ i.contentLen = some p.length
  latest : ∀ p, out = some p → last = some p

theorem Tells.truthful_iff {x : Option Item} {out last : Option Payload} (tells : Tells x last) :
    Truthful x out last ↔ out = last := by
  have flag : last.isSome = true ↔ ∃ i, x = some i ∧ i.hasContent = true := by
    rw [← tells.flag, Option.any_eq_true]
  constructor
  · intro truthful
    cases out with
    | some p => exact (truthful.latest p rfl).symm
    | none =>
      cases last with
      | none => rfl
      | some p => cases truthful.flagged.mpr (flag.mp rfl)
  · rintro rfl
    refine ⟨flag, fun p held => Option.bind_eq_some_iff.mp ?_, fun _ => id⟩
    rw [tells.length, held, Option.map_some]

/-- In a table items are truthful, after whatever uses by whatever stores. In memory what an item says is right for the
content that was kept for it, but the content of an earlier item of the name is handed out as well, where a transaction
deleted that item and brought in another. So items are truthful there as long as the two are the same. -/
theorem contents_told (k : String) :
    (∀ us : List Usage, let x := Device.diary us
      x.now.content k = Usage.held k x.past ∧ Tells (x.now.items.get? k) (Usage.kept k x.past) ∧
        (Truthful (x.now.items.get? k) (x.now.content k) (Usage.kept k x.past) ↔
          Usage.held k x.past = Usage.kept k x.past)) ∧
    ∀ (us : List (Table.Scope × Usage)) (s : Table.Scope), let x := Table.Database.diary us
      ∃ c, x.now.content s k = .ok c ∧ Truthful (x.now.item? s k) c (Usage.kept k (s.own x.past)) := by
  constructor
  · intro us x
    have recalls := Device.recalls_diary us
    refine ⟨recalls.content k, recalls.tells k, ?_⟩
    rw [(recalls.tells k).truthful_iff, recalls.content k]
  · intro us s x
    have out := Table.Database.content_diary us s k
    have written := (Table.Database.diary_keeps (P := fun _ _ => True) trivial (fun _ _ _ _ _ _ _ _ => trivial) us).1
    exact ⟨_, out, ((written.kept s).tells out).truthful_iff.mpr rfl⟩

/-- Content is kept for an item, and then one transaction deletes the item and brings another in. -/
def replacement : List Usage :=
  let insert : Action := ⟨.insert, .device, .voicemail "a"⟩
  [.transact [insert], .keep (.voicemail "a") (.silence 4 "audio/amr"),
    .transact [⟨.delete, .device, .voicemail "a"⟩, insert]]

/-- In memory the new item has the old content, and says that it has none. -/
theorem replacement_untruthful :
    let x := Device.diary replacement
    let y := Table.Database.diary (replacement.map (⟨"main", .voicemail⟩, ·))
    (x.now.content "a" = some (.silence 4 "audio/amr") ∧ x.now.items.get? "a" = some (.voicemail "a") ∧
      ¬Truthful (x.now.items.get? "a") (x.now.content "a") (Usage.kept "a" x.past)) ∧
    ∃ c, y.now.content ⟨"main", .voicemail⟩ "a" = .ok c ∧ c = none := by
  obtain ⟨inMemory, inTables⟩ := contents_told "a"
  intro x y
  obtain ⟨content, -, truthful⟩ := inMemory replacement
  obtain ⟨c, out, told⟩ := inTables (replacement.map (⟨"main", .voicemail⟩, ·)) ⟨"main", .voicemail⟩
  have held : Usage.held "a" x.past = some (.silence 4 "audio/amr") := by decide +kernel
  have kept : Usage.kept "a" x.past = none := by decide +kernel
  have gone : Usage.kept "a" (Table.Scope.own ⟨"main", .voicemail⟩ y.past) = none := by decide +kernel
  refine ⟨⟨content.trans held, by decide +kernel, ?_⟩, c, out, ?_⟩
  · rw [truthful, held, kept]
    nofun
  · rw [gone] at told
    cases c with
    | none => rfl
    | some p => cases told.latest p rfl

end MailboxSync
