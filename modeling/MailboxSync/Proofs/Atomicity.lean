import MailboxSync.Proofs.Families
import MailboxSync.Proofs.Isolation
import MailboxSync.Proofs.Rows

namespace MailboxSync

namespace Action

/-- Whether there is something under a name after an action, if one knows whether there was before. -/
def leaves (a : Action) (k : String) (held : Bool) : Bool :=
  match a.kind with
  | .insert => held || a.id = k
  | .delete => held && a.id ≠ k
  | .markAsRead | .fetchContent => held

def leavesAll (as : List Action) (k : String) (held : Bool) : Bool := as.foldl (fun held a => a.leaves k held) held

/-- Some action brings in what is there when its turn comes. -/
def Collide (as : List Action) (held : String → Bool) : Prop :=
  ∃ before a after, as = before ++ a :: after ∧ a.kind = .insert ∧ leavesAll before a.id (held a.id) = true

theorem collide_nil (held : String → Bool) : ¬Collide [] held := by
  rintro ⟨before, a, after, split, -⟩
  simp at split

/-- The first action collides, or the others do with what it leaves. -/
theorem collide_cons_iff {a : Action} {as : List Action} {held : String → Bool} :
    Collide (a :: as) held ↔ a.kind = .insert ∧ held a.id = true ∨ Collide as fun k => a.leaves k (held k) := by
  constructor
  · rintro ⟨before, b, after, split, insert, there⟩
    cases before with
    | nil =>
      obtain ⟨rfl, -⟩ := List.cons.inj split
      exact Or.inl ⟨insert, there⟩
    | cons c before =>
      obtain ⟨rfl, rfl⟩ := List.cons.inj split
      exact Or.inr ⟨before, b, after, rfl, insert, there⟩
  · rintro (⟨insert, there⟩ | ⟨before, b, after, rfl, insert, there⟩)
    · exact ⟨[], a, as, rfl, insert, there⟩
    · exact ⟨a :: before, b, after, rfl, insert, there⟩

theorem isSome_alter (a : Action) (k : String) (x : Option Item) : (a.alter k x).isSome = a.leaves k x.isSome := by
  cases kind : a.kind <;> by_cases own : a.id = k <;> simp [alter, leaves, kind, own]

theorem id_of_alterAll {as : List Action} {k : String} {x : Option Item} (named : ∀ i ∈ x, i.id = k) :
    ∀ j ∈ alterAll as k x, j.id = k := by
  intro j left
  rcases alike_of_alterAll left with ⟨i, before, alike⟩ | ⟨a, -, -, own, alike⟩
  · exact alike.1.trans (named i before)
  · exact alike.1.trans own

/-- Under a blank name nothing is listed, under any other what is there. -/
theorem filter_isKeyed {k : String} {x : Option Item} (named : ∀ i ∈ x, i.id = k) :
    x.filter Item.isKeyed = if Text.isBlank k then none else x := by
  cases x with
  | none => simp
  | some i =>
    rw [Option.filter_some, Item.isKeyed, named i rfl]
    cases Text.isBlank k <;> rfl

/-- What is not listed makes no difference to what is listed in the end. -/
theorem filter_alterAll {as : List Action} {k : String} {x : Option Item} (named : ∀ i ∈ x, i.id = k) :
    (alterAll as k x).filter Item.isKeyed = (alterAll as k (x.filter Item.isKeyed)).filter Item.isKeyed := by
  have shown : ∀ i ∈ x.filter Item.isKeyed, i.id = k := fun i mem => named i (Option.filter_eq_some_iff.mp mem).1
  rw [filter_isKeyed (id_of_alterAll named), filter_isKeyed (id_of_alterAll shown)]
  split
  · rfl
  · next visible => rw [filter_isKeyed named, if_neg visible]

/-- Carrying actions out in a state that says what is there, where an action fails that collides and no other. -/
structure Faithful {σ : Type} (step : σ → Action → Except Failure σ) (held : σ → String → Bool)
    (Ready : List Action → σ → Prop) : Prop where
  refused : ∀ {a as s}, Ready (a :: as) s → a.kind = .insert → held s a.id = true → ∃ e, step s a = .error e
  accepted : ∀ {a as s}, Ready (a :: as) s → (a.kind = .insert → held s a.id = false) →
    ∃ s', step s a = .ok s' ∧ Ready as s' ∧ ∀ k, held s' k = a.leaves k (held s k)

/-- A sequence of such actions fails if some action collides, and only then. -/
theorem Faithful.error_iff {σ : Type} {step : σ → Action → Except Failure σ} {held : σ → String → Bool}
    {Ready : List Action → σ → Prop} (faithful : Faithful step held Ready) {as : List Action} {s : σ}
    (ready : Ready as s) : (∃ e, as.foldlM step s = .error e) ↔ Collide as (held s) := by
  induction as generalizing s with
  | nil =>
    refine iff_of_false ?_ (collide_nil _)
    rintro ⟨e, failed⟩
    cases failed
  | cons a rest ih =>
    rw [collide_cons_iff, List.foldlM_cons]
    by_cases collides : a.kind = .insert ∧ held s a.id = true
    · obtain ⟨e, failed⟩ := faithful.refused ready collides.1 collides.2
      rw [failed]
      exact iff_of_true ⟨e, rfl⟩ (Or.inl collides)
    · obtain ⟨s', done, ready', leaves⟩ := faithful.accepted ready fun insert =>
        Bool.eq_false_iff.mpr fun there => collides ⟨insert, there⟩
      rw [done, or_iff_right collides, ← funext leaves]
      exact ih ready'

end Action

/-! On a device in memory -/

theorem Folder.faithful : Action.Faithful Folder.perform (fun f k => f.contains k)
    fun as _ => ∀ a ∈ as, a.isValidFor .device = true where
  refused {a _ f} _ insert there := by
    rw [perform, insert]
    exact ⟨_, if_pos there⟩
  accepted {a as f} valid new := by
    obtain ⟨g, done⟩ := perform_ok (valid a List.mem_cons_self) new
    refine ⟨g, done, fun b mem => valid b (List.mem_cons_of_mem _ mem), fun k => ?_⟩
    rw [Shelf.contains_eq_isSome, get?_perform done, Action.isSome_alter, ← Shelf.contains_eq_isSome]

/-- What a store says of an action that has no place in its transactions. -/
def Action.objection (f : Family) (a : Action) : String :=
  if a.isValidFor .device then a.render ++ " does not belong to the " ++ f.name ++ " store"
  else a.render ++ " in local transaction"

namespace Device

variable {d : Device} {as : List Action}

theorem apply_error_iff (quiet : d.applyFault = none) (valid : ∀ a ∈ as, a.isValidFor .device = true) :
    (∃ e, (d.apply as).1 = .error e) ↔ Action.Collide as fun k => d.items.contains k := by
  rw [← Folder.faithful.error_iff valid, d.apply_of_quiet quiet, ← Folder.performAll]
  cases d.items.performAll as <;> simp

theorem apply_of_error (quiet : d.applyFault = none) {e : Failure} (failed : (d.apply as).1 = .error e) :
    (d.apply as).2 = d := by
  rw [d.apply_of_quiet quiet] at failed ⊢
  cases outcome : d.items.performAll as with
  | error e => rfl
  | ok items =>
    rw [outcome] at failed
    cases failed

/-- What a device lists after a transaction is what it listed before, with the actions carried out. -/
theorem list_apply (quiet : d.listFault = none) (done : (d.apply as).1 = .ok ()) :
    ∃ l l', d.list.1 = .ok l ∧ (d.apply as).2.list.1 = .ok l' ∧
      ∀ k, l'.get? k = (Action.alterAll as k (l.get? k)).filter Item.isKeyed := by
  obtain ⟨items, performed, after⟩ := d.apply_ok done
  have lists : ∀ d' : Device, d'.listFault = none → d'.list.1 = .ok d'.snapshot := by
    intro d' quiet
    rw [list, quiet]
  refine ⟨_, _, lists d quiet, lists _ (by rw [after]; exact quiet), fun k => ?_⟩
  have named : ∀ i ∈ d.items.get? k, i.id = k := fun i held => Shelf.get?_key held
  rw [get?_snapshot, get?_snapshot, after, ← Action.filter_alterAll named, Folder.get?_performAll performed]

end Device

namespace Table.Database

variable {db db' : Database} {s : Scope} {k : String} {a : Action} {as : List Action}

/-! On a table -/

/-- There is an id for each new row that a transaction comes to. -/
def FindsIds (db : Database) (s : Scope) (as : List Action) : Prop :=
  ∀ before a after between, as = before ++ a :: after → a.kind = .insert →
    before.foldlM (fun (db : Database) a => db.perform s a) db = .ok between → between.nextId ≠ .error .full

theorem IdsLeft.findsIds (left : db.IdsLeft (newRows as)) : db.FindsIds s as := by
  rintro before a after between rfl insert done
  rw [newRows_append] at left
  have still := left.performAll done
  rw [newRows_cons] at still
  rw [(still.mono (Nat.le_add_right ..)).nextId insert]
  nofun

theorem FindsIds.nextId (finds : db.FindsIds s (a :: as)) (insert : a.kind = .insert) :
    db.nextId = .ok (db.lastId + 1) := by
  have found := finds [] a as db rfl insert rfl
  unfold Database.nextId at found ⊢
  split at found
  · exact absurd rfl found
  · next free => rw [if_neg free]

theorem FindsIds.perform (finds : db.FindsIds s (a :: as)) (done : db.perform s a = .ok db') :
    db'.FindsIds s as := by
  rintro before b after between rfl insert others
  refine finds (a :: before) b after between rfl insert ?_
  rw [List.foldlM_cons, done]
  exact others

theorem has_of_perform (done : db.perform s a = .ok db') : db'.has s k = a.leaves k (db.has s k) := by
  rw [perform_eq (nextId_of_perform done)] at done
  cases kind : a.kind with
  | insert =>
    simp only [kind] at done
    split at done
    · cases done
    · cases done
      rw [has_take, Action.leaves, kind]
      simp only [true_and]
      rfl
  | delete =>
    simp only [kind] at done
    cases done
    rw [has_remove, Action.leaves, kind]
  | markAsRead =>
    simp only [kind] at done
    cases done
    rw [Action.leaves, kind]
    exact has_updateDevice fun _ => rfl
  | fetchContent =>
    simp only [kind] at done
    cases done
    rw [Action.leaves, kind]

theorem faithful (s : Scope) : Action.Faithful (fun (db : Database) a => db.perform s a) (fun db k => db.has s k)
    fun as db => db.FindsIds s as where
  refused {a _ db} finds insert there := by
    rw [perform_eq fun insert => finds.nextId insert, insert]
    exact ⟨_, if_pos there⟩
  accepted {a as db} finds new := by
    have done : ∃ db', db.perform s a = .ok db' := by
      rw [perform_eq fun insert => finds.nextId insert]
      split
      · next insert => exact ⟨_, if_neg (Bool.eq_false_iff.mp (new insert))⟩
      · exact ⟨_, rfl⟩
      · exact ⟨_, rfl⟩
      · exact ⟨_, rfl⟩
    obtain ⟨db', done⟩ := done
    exact ⟨db', done, finds.perform done, fun k => has_of_perform done⟩

theorem apply_error_iff (fits : ∀ a ∈ as, a.Fits s.family) (finds : db.FindsIds s as) :
    (∃ e, db.apply s as = .error e) ↔ Action.Collide as fun k => db.has s k := by
  rw [apply_eq fits]
  exact (faithful s).error_iff finds

/-- A transaction that goes through does what its actions do as transactions of their own. -/
theorem apply_in_turn (done : db.apply s as = .ok db') :
    as.foldlM (fun (db : Database) a => db.apply s [a]) db = .ok db' := by
  obtain ⟨fits, performed⟩ := apply_ok done
  clear done
  induction as generalizing db with
  | nil => exact performed
  | cons a rest ih =>
    have alone : db.apply s [a] = db.perform s a := by
      rw [apply_eq fun b mem => List.mem_singleton.mp mem ▸ fits a List.mem_cons_self]
      exact bind_pure _
    obtain ⟨between, first, others⟩ := foldlM_cons_ok performed
    rw [List.foldlM_cons, alone, first]
    exact ih (fun b mem => fits b (List.mem_cons_of_mem _ mem)) others

/-- What a store lists after a transaction is what it listed before, with the actions carried out. -/
theorem Kept.listDevice_apply (kept : db.Kept s) (done : db.apply s as = .ok db') :
    ∃ l l', db.listDevice s = .ok l ∧ db'.listDevice s = .ok l' ∧
      ∀ k, l'.get? k = (Action.alterAll as k (l.get? k)).filter Item.isKeyed := by
  obtain ⟨fits, performed⟩ := apply_ok done
  obtain ⟨kept', items⟩ := kept.item?_performAll fits performed
  obtain ⟨l, listed, shows⟩ := kept.listDevice
  obtain ⟨l', listed', shows'⟩ := kept'.listDevice
  refine ⟨l, l', listed, listed', fun k => ?_⟩
  rw [shows, shows', items, ← Action.filter_alterAll fun i held => kept.id_of_item? held]

theorem admits_of_misfit (misfit : ¬a.Fits s.family) :
    admits s a = .error (.invalidAction (a.objection s.family)) := by
  unfold admits Action.objection
  cases valid : a.isValidFor .device with
  | false => rfl
  | true =>
    have family : a.item.family ≠ s.family := fun own => misfit ⟨valid, own⟩
    simp [family]

/-- The first action that has no place in a transaction stops all of it. -/
theorem apply_of_misfit (db : Database) (misfit : ∃ a ∈ as, ¬a.Fits s.family) :
    ∃ before a after, as = before ++ a :: after ∧ (∀ b ∈ before, b.Fits s.family) ∧ ¬a.Fits s.family ∧
      db.apply s as = .error (.invalidAction (a.objection s.family)) := by
  unfold apply
  cases admitted : as.forM (admits s) with
  | ok _ =>
    obtain ⟨a, mem, odd⟩ := misfit
    exact absurd (admits_eq_ok.mp (forM_eq_ok.mp admitted a mem)) odd
  | error e =>
    obtain ⟨before, a, after, split, passed, refused⟩ := forM_error admitted
    have odd : ¬a.Fits s.family := by
      intro fits
      rw [admits_eq_ok.mpr fits] at refused
      cases refused
    rw [admits_of_misfit odd] at refused
    cases refused
    exact ⟨before, a, after, split, fun b mem => admits_eq_ok.mp (passed b mem), odd, rfl⟩

end Table.Database

/-- A transaction is carried out as a whole or not at all. It fails if it is to bring in what is there when the turn
of that action comes, with regard to those before it, and only then. After a failure everything is as it was. After
a success the listing is that of before with the actions carried out, one after the other; of a table this is said of
rows that are such as stores write them, for any other rows each action does what it would do alone. And what has no
place in a table's transaction stops it, wherever it stands. -/
theorem transaction_all_or_nothing :
    (∀ (d : Device) (as : List Action), d.listFault = none → d.applyFault = none →
      (∀ a ∈ as, a.isValidFor .device = true) →
      ((∃ e, (d.apply as).1 = .error e) ↔ Action.Collide as fun k => d.items.contains k) ∧
      ((∃ e, (d.apply as).1 = .error e) → (d.apply as).2 = d) ∧
      ((d.apply as).1 = .ok () → ∃ l l', d.list.1 = .ok l ∧ (d.apply as).2.list.1 = .ok l' ∧
        ∀ k, l'.get? k = (Action.alterAll as k (l.get? k)).filter Item.isKeyed)) ∧
    (∀ (t : Tables) (as : List Action), (∀ a ∈ as, a.Fits t.scope.family) → t.database.FindsIds t.scope as →
      let (x, t') := t.answer (.applyDevice as)
      ((∃ e, x = .error e) ↔ Action.Collide as fun k => t.database.has t.scope k) ∧
      ((∃ e, x = .error e) → t' = t) ∧
      (x = .ok () →
        as.foldlM (fun db a => db.apply t.scope [a]) t.database = .ok t'.database ∧
        (t.database.Kept t.scope → ∃ l l', (t.answer .listDevice).1 = .ok l ∧ (t'.answer .listDevice).1 = .ok l' ∧
          ∀ k, l'.get? k = (Action.alterAll as k (l.get? k)).filter Item.isKeyed))) ∧
    ∀ (t : Tables) (as : List Action), (∃ a ∈ as, ¬a.Fits t.scope.family) →
      ∃ before a after, as = before ++ a :: after ∧ (∀ b ∈ before, b.Fits t.scope.family) ∧
        ¬a.Fits t.scope.family ∧
        t.answer (.applyDevice as) = (.error (.invalidAction (a.objection t.scope.family)), t) := by
  refine ⟨?_, ?_, ?_⟩
  · intro d as quietList quiet valid
    exact ⟨Device.apply_error_iff quiet valid, fun ⟨e, failed⟩ => Device.apply_of_error quiet failed,
      Device.list_apply quietList⟩
  · intro t as fits finds
    have answer : t.answer (.applyDevice as) = t.change (t.database.apply t.scope as) := rfl
    rw [answer, ← Table.Database.apply_error_iff fits finds]
    cases outcome : t.database.apply t.scope as with
    | error e => exact ⟨⟨fun _ => ⟨e, rfl⟩, fun _ => ⟨e, rfl⟩⟩, fun _ => rfl, nofun⟩
    | ok db =>
      refine ⟨⟨nofun, nofun⟩, nofun, fun _ => ⟨Table.Database.apply_in_turn outcome, fun kept => ?_⟩⟩
      exact kept.listDevice_apply outcome
  · intro t as misfit
    obtain ⟨before, a, after, split, others, odd, refused⟩ := t.database.apply_of_misfit misfit
    refine ⟨before, a, after, split, others, odd, ?_⟩
    show t.change (t.database.apply t.scope as) = _
    rw [refused]
    rfl

/-- A greeting that comes in ends the turn of the one there, and then another is to come in under a taken name. -/
def takenName : List Action :=
  [⟨.insert, .device, { Table.Database.newGreeting with id := "b" }⟩,
    ⟨.insert, .device, Table.Database.newGreeting⟩]

/-- What is there makes room first. -/
def freedName : List Action :=
  [⟨.delete, .device, Table.Database.newGreeting⟩, ⟨.insert, .device, Table.Database.newGreeting⟩]

theorem sharedRows_all_or_nothing :
    let t : Tables := { scope := ⟨"main", .greeting⟩, database := Table.Database.sharedRows }
    let d : Device := ({} : Device).seed [Table.Database.newGreeting]
    (Action.Collide takenName (fun k => d.items.contains k) ∧ (d.apply takenName).2 = d) ∧
      (Action.Collide takenName (fun k => t.database.has t.scope k) ∧ (t.answer (.applyDevice takenName)).2 = t) ∧
      ((t.answer (.applyDevice freedName)).1 = .ok () ∧ t.database.Kept t.scope ∧
        ∃ l, ((t.answer (.applyDevice freedName)).2.answer .listDevice).1 = .ok l ∧
          l.get? "a" = some Table.Database.newGreeting) ∧
      ∃ e, t.answer (.applyDevice (takenName ++ [⟨.fetchContent, .carrier, Table.Database.newGreeting⟩])) =
        (.error (.invalidAction e), t) := by
  intro t d
  obtain ⟨inMemory, onTable, misfit⟩ := transaction_all_or_nothing
  have fits : ∀ a ∈ takenName ++ freedName, a.Fits t.scope.family := by
    simp only [takenName, freedName, List.cons_append, List.nil_append, List.forall_mem_cons, Action.Fits]
    decide +kernel
  have fitsTaken : ∀ a ∈ takenName, a.Fits t.scope.family := fun a mem => fits a (List.mem_append_left _ mem)
  have collides : ∀ held : String → Bool, held "a" = true → Action.Collide takenName held := fun held there =>
    ⟨[_], _, [], rfl, rfl, by simp [Action.leavesAll, Action.leaves, Action.id, Table.Database.newGreeting, there]⟩
  have nearby := collides (fun k => d.items.contains k) (by decide +kernel)
  have stored := collides (fun k => t.database.has t.scope k) (by decide +kernel)
  obtain ⟨failsNearby, keepsNearby, -⟩ := inMemory d takenName rfl rfl fun a mem => (fitsTaken a mem).1
  obtain ⟨fails, keeps, -⟩ := onTable t takenName fitsTaken
    (Table.Database.IdsLeft.findsIds (by decide +kernel))
  obtain ⟨-, -, goesThrough⟩ := onTable t freedName (fun a mem => fits a (List.mem_append_right _ mem))
    (Table.Database.IdsLeft.findsIds (by decide +kernel))
  have done : (t.answer (.applyDevice freedName)).1 = .ok () := by decide +kernel
  have kept : t.database.Kept t.scope := by
    refine ⟨fun r mem _ => ?_, List.pairwise_singleton ..⟩
    rw [List.mem_singleton.mp mem]
    exact Table.DeviceRow.orderly_ofItem _ rfl
  obtain ⟨-, listing⟩ := goesThrough done
  obtain ⟨l, l', -, listed, shows⟩ := listing kept
  have odd : ¬(Action.mk .fetchContent .carrier Table.Database.newGreeting).Fits t.scope.family := by
    simp [Action.Fits, Action.isValidFor]
  obtain ⟨before, a, after, -, -, -, refused⟩ := misfit t
    (takenName ++ [⟨.fetchContent, .carrier, Table.Database.newGreeting⟩])
    ⟨_, List.mem_append_right _ (List.mem_singleton.mpr rfl), odd⟩
  refine ⟨⟨nearby, keepsNearby (failsNearby.mpr nearby)⟩, ⟨stored, keeps (fails.mpr stored)⟩,
    ⟨done, kept, l', listed, ?_⟩, _, refused⟩
  have arrives : Action.alterAll freedName "a" (l.get? "a") = some Table.Database.newGreeting := by
    simp [Action.alterAll, freedName, Action.alter, Action.id, Table.Database.newGreeting, Item.bare]
  rw [shows, arrives]
  decide +kernel

end MailboxSync
