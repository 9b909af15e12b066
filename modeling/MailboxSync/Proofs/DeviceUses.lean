import MailboxSync.Proofs.Atomicity

/-! What can be done to the store of a device, over and over, and what a store makes of it item by item. -/

namespace MailboxSync

/-- One use of the store of a device. -/
inductive Usage where
  | transact (actions : List Action)
  | keep (item : Item) (payload : Payload)
  | user (e : DeviceEvent)
  /-- Something is out of order, so that a transaction fails whatever it asks for. -/
  | fault (reason : String)

/-- A store, and the uses that went through, the latest first. -/
structure Diary (σ δ : Type) where
  now : σ
  past : List δ := []

namespace Diary

variable {σ δ : Type} {use : σ → δ → Except Failure Unit × σ}

/-- What a use leaves, also if it fails. -/
def enter (use : σ → δ → Except Failure Unit × σ) (x : Diary σ δ) (u : δ) : Diary σ δ :=
  match use x.now u with
  | (.ok _, now) => ⟨now, u :: x.past⟩
  | (.error _, now) => ⟨now, x.past⟩

def enterAll (use : σ → δ → Except Failure Unit × σ) (x : Diary σ δ) (us : List δ) : Diary σ δ :=
  us.foldl (enter use) x

/-- What every use keeps holds of all that is entered. -/
theorem keeps {P : σ → List δ → Prop}
    (passes : ∀ s past u s', P s past → use s u = (.ok (), s') → P s' (u :: past))
    (fails : ∀ s past u e s', P s past → use s u = (.error e, s') → P s' past)
    {x : Diary σ δ} (holds : P x.now x.past) (us : List δ) :
    P (x.enterAll use us).now (x.enterAll use us).past := by
  induction us generalizing x with
  | nil => exact holds
  | cons u rest ih =>
    refine ih ?_
    unfold enter
    split
    · next used => exact passes _ _ _ _ holds used
    · next used => exact fails _ _ _ _ _ holds used

end Diary

theorem Action.isSome_alterAll_eq (as : List Action) (k : String) (x : Option Item) :
    (alterAll as k x).isSome = leavesAll as k x.isSome := by
  induction as generalizing x with
  | nil => rfl
  | cons a rest ih =>
    rw [alterAll_cons, ih, isSome_alter]
    rfl

/-- The action deletes what is under a name. -/
def Action.deletes (k : String) (a : Action) : Bool := a.kind = .delete && a.id = k

/-! What a use makes of the item under a name -/

namespace Usage

variable {u : Usage} {locate : Item → String} {k : String}

/-- What a use makes of the item under a name, for a way to form locators. -/
def alter (locate : Item → String) (k : String) (x : Option Item) : Usage → Option Item
  | transact as => Action.alterAll as k x
  | keep i p => if i.id = k then x.map fun j => { i.holding p j with uri := some (locate i) } else x
  | user (.read id) => if id = k then x.map Item.markRead else x
  | user (.remove id) => if id = k then none else x
  | fault _ => x

/-- A transaction brings in nothing that is there when the turn of that action comes, and content is kept for what
is there. -/
def Passes (held : String → Bool) : Usage → Prop
  | transact as => ¬Action.Collide as held
  | keep i _ => held i.id = true
  | user _ | fault _ => True

end Usage

/-- What a use comes to in memory. -/
def Device.undergo (d : Device) : Usage → Except Failure Unit × Device
  | .transact as => d.apply as
  | .keep i p => d.storeContent i p
  | .user e => (.ok (), d.happen e)
  | .fault reason => (.ok (), { d with applyFault := some reason })

/-- Actions that are carried out do not collide. -/
theorem Folder.not_collide {f g : Folder} {as : List Action} (done : f.performAll as = .ok g) :
    ¬Action.Collide as fun k => f.contains k := by
  induction as generalizing f with
  | nil => exact Action.collide_nil _
  | cons a rest ih =>
    obtain ⟨between, first, others⟩ := foldlM_cons_ok done
    have leaves : (fun k => a.leaves k (f.contains k)) = fun k => between.contains k := by
      funext k
      rw [Shelf.contains_eq_isSome, Shelf.contains_eq_isSome, get?_perform first, Action.isSome_alter]
    rw [Action.collide_cons_iff, leaves]
    rintro (⟨insert, there⟩ | later)
    · rw [Shelf.contains_eq_isSome, absent_of_insert first insert] at there
      cases there
    · exact ih others later

namespace Device

variable {d d' : Device} {u : Usage}

theorem contains_eq (d : Device) : (fun k => d.items.contains k) = fun k => (d.items.get? k).isSome :=
  funext d.items.contains_eq_isSome

theorem storeContent_ok {i : Item} {p : Payload} (done : d.storeContent i p = (.ok (), d')) :
    (d.items.get? i.id).isSome = true := by
  unfold storeContent at done
  split at done
  · next held => rwa [Shelf.contains_eq_isSome] at held
  · cases done

/-- A use that fails leaves items and contents as they were. -/
theorem undergo_error {e : Failure} (failed : d.undergo u = (.error e, d')) :
    d'.items = d.items ∧ d'.contents = d.contents := by
  cases u with
  | transact as =>
    have refused : (d.apply as).1 = .error e := congrArg Prod.fst failed
    obtain rfl : (d.apply as).2 = d' := congrArg Prod.snd failed
    exact d.apply_error refused
  | keep i p =>
    change d.storeContent i p = _ at failed
    unfold storeContent at failed
    split at failed
    · cases failed
    · cases failed
      exact ⟨rfl, rfl⟩
  | user | fault => cases failed

theorem passes_of_undergo (done : d.undergo u = (.ok (), d')) : u.Passes fun k => (d.items.get? k).isSome := by
  cases u with
  | transact as =>
    obtain ⟨items, performed, -⟩ := d.apply_ok (congrArg Prod.fst done)
    rw [← d.contains_eq]
    exact Folder.not_collide performed
  | keep i p => exact storeContent_ok done
  | user | fault => trivial

theorem get?_undergo (done : d.undergo u = (.ok (), d')) (k : String) :
    d'.items.get? k = u.alter (fun i => locator i.family i.id) k (d.items.get? k) := by
  cases u with
  | transact as =>
    obtain ⟨items, performed, after⟩ := d.apply_ok (congrArg Prod.fst done)
    obtain rfl : (d.apply as).2 = d' := congrArg Prod.snd done
    rw [after]
    exact Folder.get?_performAll performed k
  | keep i p =>
    obtain rfl : (d.storeContent i p).2 = d' := congrArg Prod.snd done
    rw [d.get?_storeContent, Usage.alter]
    simp only [eq_comm (a := k)]
    rfl
  | user e =>
    cases done
    cases e with
    | read id =>
      rw [happen, d.get?_markRead, Usage.alter]
      simp only [eq_comm]
    | remove id =>
      rw [happen, d.get?_remove, Usage.alter]
      simp only [eq_comm]
  | fault reason =>
    cases done
    rfl

/-- A device that was empty at first, after uses of it. -/
def diary (us : List Usage) : Diary Device Usage := Diary.enterAll undergo ⟨{}, []⟩ us

end Device

namespace Table.Database

variable {db db' : Database} {s s' : Scope} {u : Usage} {k : String}

/-- What a use comes to in a table, under a scope. -/
def undergo (db : Database) (su : Scope × Usage) : Except Failure Unit × Database :=
  let t : Tables := { scope := su.1, database := db }
  match su.2 with
  | .transact as => (t.answer (.applyDevice as)).map id Tables.database
  | .keep i p => (t.answer (.storeContent i p)).map id Tables.database
  | .user e => (.ok (), (t.happen (.device e)).database)
  | .fault reason => (.error (.database reason), db)

theorem change_ok {t : Tables} {x : Except Failure Database}
    (done : (t.change x).map id Tables.database = (.ok (), db')) : x = .ok db' := by
  cases x with
  | error e => cases done
  | ok db =>
    cases done
    rfl

theorem undergo_error {e : Failure} (failed : db.undergo (s, u) = (.error e, db')) : db' = db := by
  have same {x : Except Failure Database}
      (failed : ((Tables.mk s db {}).change x).map id Tables.database = (.error e, db')) : db' = db := by
    cases x with
    | error e =>
      cases failed
      rfl
    | ok db => cases failed
  cases u with
  | transact as => exact same failed
  | keep i p => exact same failed
  | user e => cases failed
  | fault reason =>
    cases failed
    rfl

/-- A use is among all that stores do to a database. -/
theorem writes_undergo (db : Database) (s : Scope) (u : Usage) : s.Writes db (db.undergo (s, u)).2 := by
  cases u with
  | transact as => exact Or.inr ⟨.applyDevice as, {}, rfl⟩
  | keep i p => exact Or.inr ⟨.storeContent i p, {}, rfl⟩
  | user e => exact Or.inl ⟨e, rfl⟩
  | fault reason => exact Or.inr ⟨.listDevice, {}, rfl⟩

theorem only_undergo (other : s' ≠ s) (done : db.undergo (s', u) = (.ok (), db')) : db'.only s = db.only s := by
  cases u with
  | transact as => exact apply_other other (change_ok done)
  | keep i p => exact storeContent_other other (change_ok done)
  | user e =>
    cases done
    cases e with
    | read id => exact markRead_other other
    | remove id => exact remove_other other
  | fault reason => cases done

theorem item?_only : (db.only s).item? s k = db.item? s k := by
  unfold item?
  rw [find?_only (s.picks_names k), Option.bind_map]
  rfl

/-- What a store shows under a name is not changed through another one. -/
theorem item?_undergo_other (other : s' ≠ s) (done : db.undergo (s', u) = (.ok (), db')) :
    db'.item? s k = db.item? s k := by
  rw [← item?_only, only_undergo other done, item?_only]

namespace Kept

variable (kept : db.Kept s)

include kept

theorem isSome_item? : (db.item? s k).isSome = db.has s k := by
  unfold has
  rw [← List.isSome_find?]
  cases found : db.device.find? fun r => s.names k r.toRow with
  | none => rw [item?_eq_none found]; rfl
  | some r =>
    obtain ⟨x, rfl, family, -⟩ := kept.record found
    rw [item?_of_record found family]
    rfl

theorem item?_storeContent {i : Item} {p : Payload} (done : db.storeContent s i p = .ok db') :
    db'.item? s k = if i.id = k then
      (db.item? s k).map fun j => { i.holding p j with uri := some (s.locator i.id) } else db.item? s k := by
  unfold Database.storeContent at done
  split at done
  · cases done
    by_cases own : i.id = k
    · rw [if_pos own, own]
      have shown := kept.item?_updateDevice (k := k) (p := fun r => s.names k r.toRow)
        (f := fun r => r.hold (s.locator k) p) (g := Record.hold p)
        (h := fun j => { i.holding p j with uri := some (s.locator j.id) }) (fun _ => rfl)
        (fun x named family => by
          rw [x.names_own_row, named, if_pos (decide_eq_true rfl), ← named]
          exact ⟨rfl, family⟩) fun _ => rfl
      rw [shown]
      exact Option.map_congr fun j held => by rw [kept.id_of_item? held]
    · rw [if_neg own, ← Option.map_id' (x := db.item? s k)]
      refine kept.item?_updateDevice (f := fun r => r.hold (s.locator i.id) p) (g := fun x => x) (h := fun i => i)
        (fun _ => rfl) (fun x named family => ?_) fun _ => rfl
      rw [x.names_own_row, named, if_neg (by simpa using Ne.symm own)]
      exact ⟨rfl, family⟩
  · cases done

theorem item?_undergo (done : db.undergo (s, u) = (.ok (), db')) (k : String) :
    db'.item? s k = u.alter (fun i => s.locator i.id) k (db.item? s k) := by
  cases u with
  | transact as =>
    obtain ⟨fits, performed⟩ := apply_ok (change_ok done)
    exact (kept.item?_performAll fits performed).2 k
  | keep i p => exact kept.item?_storeContent (change_ok done)
  | user e =>
    cases done
    cases e with
    | read id => exact kept.item?_markRead id
    | remove id => exact item?_remove id
  | fault reason => cases done

end Kept

/-- Actions that are carried out do not collide. -/
theorem Written.not_collide {as : List Action} (written : db.Written) (done : db.apply s as = .ok db') :
    ¬Action.Collide as fun k => (db.item? s k).isSome := by
  obtain ⟨fits, -⟩ := apply_ok done
  simp only [(written.kept s).isSome_item?]
  rw [← apply_error_iff fits written.idsLeft.findsIds, done]
  rintro ⟨e, failed⟩
  cases failed

theorem Written.passes_of_undergo (written : db.Written) (done : db.undergo (s, u) = (.ok (), db')) :
    u.Passes fun k => (db.item? s k).isSome := by
  cases u with
  | transact as => exact written.not_collide (change_ok done)
  | keep i p =>
    have stored := change_ok done
    rw [Usage.Passes, (written.kept s).isSome_item?]
    unfold storeContent at stored
    split at stored
    · next held => exact held
    · cases stored
  | user | fault => trivial

/-- A database that was empty at first, after uses of it under all scopes. -/
def diary (us : List (Scope × Usage)) : Diary Database (Scope × Usage) := Diary.enterAll undergo ⟨{}, []⟩ us

/-- What every use that goes through keeps holds of such a database. -/
theorem diary_keeps {P : Database → List (Scope × Usage) → Prop} (empty : P {} [])
    (passes : ∀ db past s u db', db.Written → P db past → db.undergo (s, u) = (.ok (), db') → P db' ((s, u) :: past))
    (us : List (Scope × Usage)) : (diary us).now.Written ∧ P (diary us).now (diary us).past := by
  refine Diary.keeps (P := fun db past => db.Written ∧ P db past) (x := ⟨{}, []⟩) ?_ ?_ ⟨.refl, empty⟩ us
  · rintro db past ⟨s, u⟩ db' ⟨written, holds⟩ done
    have writes := db.writes_undergo s u
    rw [done] at writes
    exact ⟨written.tail ⟨s, writes⟩, passes db past s u db' written holds done⟩
  · rintro db past ⟨s, u⟩ e db' holds failed
    rw [undergo_error failed]
    exact holds

end Table.Database

end MailboxSync
