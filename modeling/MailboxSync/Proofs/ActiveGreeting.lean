import Mathlib.Data.List.Induction
import MailboxSync.Proofs.DeviceUses
import MailboxSync.Proofs.PlayedGreetings

/-! Which greeting is played: at most one for each type, and which one it is after a transaction. -/

namespace MailboxSync

namespace Item

variable {t : GreetingType} {new i j : Item}

/-- The greeting is the one played for its type, and this is the type. -/
def plays (t : GreetingType) (i : Item) : Bool := i.kind = .greeting t true

theorem yieldTo_of_plays (played : j.plays t = true) (apart : new.plays t = false) : yieldTo new j = j := by
  simp only [plays, decide_eq_true_eq, decide_eq_false_iff_not] at played apart
  unfold yieldTo
  split
  · next t' kind =>
    have other : t ≠ t' := fun same => apart (same ▸ kind)
    simp [demote, played, other]
  · rfl

/-- No item comes to be played because another comes in, and one that was played goes on unless the new one is of its
type and to be played. -/
theorem plays_yieldTo (new j : Item) : (yieldTo new j).plays t = (j.plays t && !new.plays t) := by
  cases kind : j.kind with
  | voicemail =>
    have still : (yieldTo new j).kind = .voicemail := by
      unfold yieldTo demote
      split <;> simp [kind]
    simp [plays, still, kind]
  | greeting t' active =>
    rw [Bool.eq_iff_iff]
    simp only [plays, new.kind_yieldTo kind, kind, Bool.and_eq_true, decide_eq_true_eq, Bool.not_eq_true',
      decide_eq_false_iff_not, ItemKind.greeting.injEq]
    constructor
    · rintro ⟨rfl, both⟩
      exact ⟨⟨rfl, both.1⟩, both.2⟩
    · rintro ⟨⟨rfl, rfl⟩, apart⟩
      exact ⟨rfl, rfl, apart⟩

theorem yieldTo_eq_iff (played : i.plays t = true) : yieldTo new j = i ↔ j = i ∧ new.plays t = false := by
  constructor
  · rintro rfl
    rw [plays_yieldTo, Bool.and_eq_true, Bool.not_eq_true'] at played
    exact ⟨(yieldTo_of_plays played.1 played.2).symm, played.2⟩
  · rintro ⟨rfl, apart⟩
    exact yieldTo_of_plays played apart

end Item

/-- What is shown under the names has this item, or none, as the greeting played for a type. -/
def Plays (view : String → Option Item) (t : GreetingType) (x : Option Item) : Prop :=
  ∀ i, x = some i ↔ view i.id = some i ∧ i.plays t = true

namespace Action

/-- The action marks what is under a name. -/
def marks (k : String) (a : Action) : Bool := a.kind = .markAsRead && a.id = k

/-- The last action collides with what the others leave, or some of the others do. -/
theorem collide_concat {a : Action} {as : List Action} {held : String → Bool} :
    Collide (as ++ [a]) held ↔ Collide as held ∨ a.kind = .insert ∧ leavesAll as a.id (held a.id) = true := by
  induction as generalizing held with
  | nil => simp [collide_cons_iff, collide_nil, leavesAll]
  | cons b rest ih => rw [List.cons_append, collide_cons_iff, collide_cons_iff, ih, or_assoc]; rfl

/-- What becomes of an item that is not replaced as the one played: some action may delete it, or mark it. -/
def spared (as : List Action) (i : Item) : Option Item :=
  if as.any (deletes i.id) then none else if as.any (marks i.id) then some i.markRead else some i

/-- The greeting played for a type after a transaction: the last one that comes in to be played, or the one that was
played before if none does, and in either case only if no later action deletes it. -/
def successor (t : GreetingType) (as : List Action) (before : Option Item) : Option Item :=
  let entered := (as.reverse.find? (promotes t)).elim before fun a => some a.item.bare
  entered.bind (spared (as.reverse.takeWhile fun a => !a.promotes t))

theorem successor_nil (t : GreetingType) (x : Option Item) : successor t [] x = x := by
  cases x <;> rfl

variable {t : GreetingType} {a : Action} {as : List Action} {x : Option Item}

theorem successor_concat_of_promotes (promotes : a.promotes t = true) :
    successor t (as ++ [a]) x = some a.item.bare := by
  rw [successor, List.reverse_append, List.reverse_singleton, List.singleton_append, List.find?_cons, promotes,
    List.takeWhile_cons, promotes]
  rfl

theorem spared_cons (a : Action) (as : List Action) (i : Item) :
    spared (a :: as) i = (spared as i).bind (spared [a]) := by
  have alone : ∀ j : Item, j.id = i.id →
      spared [a] j = if a.deletes i.id then none else if a.marks i.id then some j.markRead else some j := by
    intro j same
    simp only [spared, List.any_cons, List.any_nil, Bool.or_false, same]
  by_cases gone : as.any (deletes i.id) = true
  · simp only [spared, List.any_cons, gone, Bool.or_true, if_true, Option.bind_none]
  rw [Bool.not_eq_true] at gone
  by_cases marked : as.any (marks i.id) = true
  · rw [show spared as i = some i.markRead by simp [spared, gone, marked], Option.bind_some, alone i.markRead rfl]
    simp only [spared, List.any_cons, gone, marked, Bool.or_false, Bool.or_true, if_true]
    split
    · rfl
    · split <;> rfl
  · rw [Bool.not_eq_true] at marked
    rw [show spared as i = some i by simp [spared, gone, marked], Option.bind_some, alone _ rfl]
    simp only [spared, List.any_cons, gone, marked, Bool.or_false]

theorem successor_concat (keeps : a.promotes t = false) :
    successor t (as ++ [a]) x = (successor t as x).bind (spared [a]) := by
  rw [successor, List.reverse_append, List.reverse_singleton, List.singleton_append, List.find?_cons, keeps,
    List.takeWhile_cons, keeps]
  simp only [Bool.not_false, if_true, successor, Option.bind_assoc]
  exact congrArg _ (funext fun i => spared_cons a _ i)

end Action

namespace Plays

theorem vacant (t : GreetingType) : Plays (fun _ => none) t none := fun i => by simp

variable {view : String → Option Item} {t : GreetingType} {x : Option Item}

/-- A change of one item that leaves its name and its kind alone. -/
theorem adjust (plays : Plays view t x) (named : ∀ k i, view k = some i → i.id = k) (k : String) {f : Item → Item}
    (same : ∀ i, (f i).id = i.id ∧ (f i).kind = i.kind) :
    Plays (fun j => if k = j then (view j).map f else view j) t (x.map fun i => if k = i.id then f i else i) := by
  have played (i : Item) : (f i).plays t = i.plays t := by rw [Item.plays, (same i).2, Item.plays]
  intro i
  rw [Option.map_eq_some_iff]
  constructor
  · rintro ⟨j, rfl, rfl⟩
    obtain ⟨shown, plays⟩ := (plays j).mp rfl
    by_cases own : k = j.id
    · simp [own, (same j).1, shown, played, plays]
    · simp [own, shown, plays]
  · rintro ⟨shown, plays'⟩
    dsimp only at shown
    by_cases own : k = i.id
    · rw [if_pos own] at shown
      obtain ⟨j, before, rfl⟩ := Option.map_eq_some_iff.mp shown
      have id := named _ _ before
      rw [(same j).1] at own before
      exact ⟨j, (plays j).mpr ⟨before, (played j).symm.trans plays'⟩, if_pos own⟩
    · rw [if_neg own] at shown
      exact ⟨i, (plays i).mpr ⟨shown, plays'⟩, if_neg own⟩

theorem erase (plays : Plays view t x) (k : String) :
    Plays (fun j => if k = j then none else view j) t (x.filter fun i => k ≠ i.id) := by
  intro i
  rw [Option.filter_eq_some_iff, plays i]
  by_cases own : k = i.id <;> simp [own]

/-- What comes in ends the turn of the greeting of its type, and starts its own. -/
theorem insert (plays : Plays view t x) {new : Item} (vacant : view new.id = none) :
    Plays (fun k => if new.id = k then some new.bare else (view k).map (Item.yieldTo new)) t
      (if new.plays t then some new.bare else x) := by
  have bare : new.bare.plays t = new.plays t := rfl
  intro i
  have shown : ((if new.id = i.id then some new.bare else (view i.id).map (Item.yieldTo new)) = some i ∧
      i.plays t = true) ↔ new.bare = i ∧ new.plays t = true ∨ x = some i ∧ new.plays t = false := by
    rw [plays i]
    by_cases own : new.id = i.id
    · rw [if_pos own, ← own, vacant, Option.some.injEq]
      constructor
      · rintro ⟨rfl, played⟩
        exact Or.inl ⟨rfl, played⟩
      · rintro (⟨rfl, played⟩ | ⟨⟨nothing, -⟩, -⟩)
        · exact ⟨rfl, played⟩
        · cases nothing
    · rw [if_neg own, Option.map_eq_some_iff]
      constructor
      · rintro ⟨⟨j, there, yields⟩, played⟩
        obtain ⟨rfl, apart⟩ := (Item.yieldTo_eq_iff played).mp yields
        exact Or.inr ⟨⟨there, played⟩, apart⟩
      · rintro (⟨rfl, -⟩ | ⟨⟨there, played⟩, apart⟩)
        · exact absurd rfl own
        · exact ⟨⟨i, there, (Item.yieldTo_eq_iff played).mpr ⟨rfl, apart⟩⟩, played⟩
  rw [shown]
  cases new.plays t <;> simp

variable (named : ∀ k i, view k = some i → i.id = k)

include named

/-- The greeting played after an action. -/
theorem alter (plays : Plays view t x) {a : Action} (free : ¬(a.kind = .insert ∧ (view a.id).isSome = true)) :
    Plays (fun k => a.alter k (view k)) t
      (if a.promotes t then some a.item.bare else x.bind (Action.spared [a])) := by
  cases kind : a.kind with
  | insert =>
    have vacant : view a.item.id = none := by
      rw [← Option.isNone_iff_eq_none, ← Option.isSome_eq_false_iff, ← Bool.not_eq_true]
      exact fun there => free ⟨kind, there⟩
    have spared : x.bind (Action.spared [a]) = x := by
      cases x <;> simp [Action.spared, Action.deletes, Action.marks, kind]
    have promotes : a.promotes t = a.item.plays t := by simp [Action.promotes, Item.plays, kind]
    have after := plays.insert vacant
    rw [spared, promotes]
    simp only [Action.alter, kind]
    exact after
  | delete =>
    have spared : x.bind (Action.spared [a]) = x.filter fun i => a.id ≠ i.id := by
      cases x with
      | none => rfl
      | some i =>
        by_cases own : a.id = i.id <;>
          simp [Action.spared, Action.deletes, Action.marks, kind, own, Option.filter_some]
    have keeps : a.promotes t = false := by simp [Action.promotes, kind]
    have after := plays.erase a.id
    rw [spared, keeps]
    simp only [Action.alter, kind]
    exact after
  | markAsRead =>
    have spared : x.bind (Action.spared [a]) = x.map fun i => if a.id = i.id then i.markRead else i := by
      cases x with
      | none => rfl
      | some i =>
        by_cases own : a.id = i.id <;> simp [Action.spared, Action.deletes, Action.marks, kind, own]
    have keeps : a.promotes t = false := by simp [Action.promotes, kind]
    have after := plays.adjust named a.id (f := Item.markRead) fun _ => ⟨rfl, rfl⟩
    rw [spared, keeps]
    simp only [Action.alter, kind]
    exact after
  | fetchContent =>
    have spared : x.bind (Action.spared [a]) = x := by
      cases x <;> simp [Action.spared, Action.deletes, Action.marks, kind]
    have keeps : a.promotes t = false := by simp [Action.promotes, kind]
    rw [spared, keeps]
    simp only [Action.alter, kind]
    exact plays

/-- The greeting played after a transaction. -/
theorem alterAll (plays : Plays view t x) {as : List Action}
    (free : ¬Action.Collide as fun k => (view k).isSome) :
    Plays (fun k => Action.alterAll as k (view k)) t (Action.successor t as x) := by
  induction as using List.reverseRecOn with
  | nil =>
    rw [Action.successor_nil]
    exact plays
  | append_singleton as a ih =>
    rw [Action.collide_concat, not_or, ← Action.isSome_alterAll_eq] at free
    have after := (ih free.1).alter (fun k i shown => Action.id_of_alterAll (fun j => named k j) i shown) free.2
    have done : (fun k => Action.alterAll (as ++ [a]) k (view k)) =
        fun k => a.alter k (Action.alterAll as k (view k)) := by
      funext k
      rw [Action.alterAll, List.foldl_append]
      rfl
    rw [done]
    cases promotes : a.promotes t with
    | true =>
      rw [Action.successor_concat_of_promotes promotes]
      rwa [promotes] at after
    | false =>
      rw [Action.successor_concat promotes]
      rwa [promotes] at after

/-- Whatever is done to a store, at most one greeting is played. -/
theorem exists_alter (plays : Plays view t x) {u : Usage} {locate : Item → String}
    (passes : u.Passes fun k => (view k).isSome) :
    ∃ y, Plays (fun k => u.alter locate k (view k)) t y := by
  cases u with
  | transact as => exact ⟨_, plays.alterAll named passes⟩
  | keep i p =>
    exact ⟨_, plays.adjust named i.id (f := fun j => { i.holding p j with uri := some (locate i) }) fun _ => ⟨rfl, rfl⟩⟩
  | user e =>
    cases e with
    | read id => exact ⟨_, plays.adjust named id (f := Item.markRead) fun _ => ⟨rfl, rfl⟩⟩
    | remove id => exact ⟨_, plays.erase id⟩
  | fault reason => exact ⟨x, plays⟩

end Plays

/-- Of items that a view shows one for each name, those played for a type are the one that is played, or none. -/
theorem Plays.filter_eq {view : String → Option Item} {t : GreetingType} {x : Option Item} (plays : Plays view t x)
    {items : List Item} (distinct : items.Nodup) (shown : ∀ i, i ∈ items ↔ view i.id = some i) :
    items.filter (Item.plays t) = x.toList := by
  have mem_iff (i : Item) : i ∈ items.filter (Item.plays t) ↔ x = some i := by
    rw [List.mem_filter, shown, plays i]
  cases x with
  | none =>
    rw [Option.toList_none, List.eq_nil_iff_forall_not_mem]
    intro i mem
    cases (mem_iff i).mp mem
  | some i =>
    have perm : (items.filter (Item.plays t)).Perm [i] := by
      refine (List.perm_ext_iff_of_nodup (distinct.filter _) (List.pairwise_singleton _ i)).mpr fun j => ?_
      rw [mem_iff, List.mem_singleton, Option.some.injEq, eq_comm]
    exact List.perm_singleton.mp perm

/-! In memory -/

namespace Device

variable {d d' : Device} {t : GreetingType} {x : Option Item}

theorem items_filter_plays (plays : Plays d.items.get? t x) : d.items.toList.filter (Item.plays t) = x.toList :=
  plays.filter_eq d.items.nodup fun i => by rw [Shelf.get?_eq_some_iff, and_iff_left rfl]

theorem exists_plays (us : List Usage) (t : GreetingType) : ∃ x, Plays (diary us).now.items.get? t x := by
  refine Diary.keeps (P := fun (d : Device) _ => ∃ x, Plays d.items.get? t x) (x := ⟨{}, []⟩) ?_ ?_ ⟨none, .vacant t⟩ us
  · rintro d past u d' ⟨x, plays⟩ done
    obtain ⟨y, after⟩ := plays.exists_alter (fun k i => Shelf.get?_key) (passes_of_undergo done)
    exact ⟨y, (funext (get?_undergo done)).symm ▸ after⟩
  · rintro d past u e d' holds failed
    rw [(undergo_error failed).1]
    exact holds

/-- The greeting played after a transaction that goes through. -/
theorem plays_apply {as : List Action} (plays : Plays d.items.get? t x) (done : d.apply as = (.ok (), d')) :
    Plays d'.items.get? t (Action.successor t as x) := by
  have done : d.undergo (.transact as) = (.ok (), d') := done
  rw [show d'.items.get? = fun k => Action.alterAll as k (d.items.get? k) from funext (get?_undergo done)]
  exact plays.alterAll (fun k i => Shelf.get?_key) (passes_of_undergo done)

end Device

/-! In tables -/

namespace Table.Database

variable {db db' : Database} {s : Scope} {t : GreetingType} {x : Option Item}

/-- The items in the rows of a scope. -/
def items (db : Database) (s : Scope) : List Item :=
  (db.device.filter fun r => s.covers r.toRow && r.sourceId ≠ .null).filterMap fun r => (r.readItem s.family).toOption

theorem toOption_eq_some_iff {x : Except Fault Item} {i : Item} : x.toOption = some i ↔ x = .ok i := by
  cases x <;> simp [Except.toOption]

theorem Kept.mem_items (kept : db.Kept s) {i : Item} : i ∈ db.items s ↔ db.item? s i.id = some i := by
  rw [← kept.row_iff_item?, items, List.mem_filterMap]
  simp only [toOption_eq_some_iff]

/-- No item is there twice, as no two rows have the same name. -/
theorem Kept.nodup_items (kept : db.Kept s) : (db.items s).Nodup := by
  refine List.pairwise_filterMap.mpr ((kept.indexed.filter _).imp_of_mem ?_)
  rintro r r' own own' apart i read i' read' rfl
  rw [toOption_eq_some_iff] at read read'
  have named : ∀ {r : DeviceRow}, r ∈ db.device.filter (fun r => s.covers r.toRow && r.sourceId ≠ .null) →
      r.readItem s.family = .ok i → s.names i.id r.toRow = true := by
    intro r own read
    obtain ⟨mem, covered⟩ := List.mem_filter.mp own
    obtain ⟨x, rfl, family⟩ := kept.row mem (Bool.and_eq_true_iff.mp covered).1
    rw [x.readItem_row s family] at read
    cases read
    rw [x.names_own_row]
    exact decide_eq_true rfl
  rw [Row.sameKey_of_names (named own read) (named own' read')] at apart
  cases apart

theorem items_filter_plays (kept : db.Kept s) (plays : Plays (db.item? s) t x) :
    (db.items s).filter (Item.plays t) = x.toList :=
  plays.filter_eq kept.nodup_items fun _ => kept.mem_items

theorem exists_plays (us : List (Scope × Usage)) (s : Scope) (t : GreetingType) :
    (diary us).now.Written ∧ ∃ x, Plays ((diary us).now.item? s) t x := by
  refine diary_keeps (P := fun db _ => ∃ x, Plays (db.item? s) t x) ⟨none, .vacant t⟩ ?_ us
  rintro db past s' u db' written ⟨x, plays⟩ done
  have kept := written.kept s
  by_cases own : s' = s
  · subst own
    obtain ⟨y, after⟩ := plays.exists_alter (fun k i => kept.id_of_item?) (written.passes_of_undergo done)
    exact ⟨y, (funext (kept.item?_undergo done)).symm ▸ after⟩
  · rw [show db'.item? s = db.item? s from funext fun k => item?_undergo_other own done]
    exact ⟨x, plays⟩

/-- The greeting played after a transaction that goes through. -/
theorem plays_apply {as : List Action} (written : db.Written) (plays : Plays (db.item? s) t x)
    (done : db.apply s as = .ok db') : db'.Kept s ∧ Plays (db'.item? s) t (Action.successor t as x) := by
  obtain ⟨fits, performed⟩ := apply_ok done
  have kept := written.kept s
  obtain ⟨kept', items⟩ := kept.item?_performAll fits performed
  refine ⟨kept', ?_⟩
  rw [funext items]
  exact plays.alterAll (fun k i => kept.id_of_item?) (written.not_collide done)

end Table.Database

/-- Whatever has been done to a store, each type has at most one greeting that is played. After a transaction that goes
through it is the last one that came in to be played, or else the one that was played before, unless an action after
that deletes it. -/
theorem one_greeting_played (t : GreetingType) :
    (∀ us : List Usage, let d := (Device.diary us).now
      ∃ x : Option Item, d.items.toList.filter (Item.plays t) = x.toList ∧
        ∀ as d', d.apply as = (.ok (), d') →
          d'.items.toList.filter (Item.plays t) = (Action.successor t as x).toList) ∧
    ∀ (us : List (Table.Scope × Usage)) (s : Table.Scope), let db := (Table.Database.diary us).now
      ∃ x : Option Item, (db.items s).filter (Item.plays t) = x.toList ∧
        ∀ as db', db.apply s as = .ok db' →
          (db'.items s).filter (Item.plays t) = (Action.successor t as x).toList := by
  constructor
  · intro us d
    obtain ⟨x, plays⟩ := Device.exists_plays us t
    exact ⟨x, Device.items_filter_plays plays, fun as d' done =>
      Device.items_filter_plays (Device.plays_apply plays done)⟩
  · intro us s db
    obtain ⟨written, x, plays⟩ := Table.Database.exists_plays us s t
    refine ⟨x, Table.Database.items_filter_plays (written.kept s) plays, fun as db' done => ?_⟩
    obtain ⟨kept, after⟩ := Table.Database.plays_apply written plays done
    exact Table.Database.items_filter_plays kept after

/-- The greeting played so far is deleted. Of two that come in to be played the second one is played,
and listened to. -/
def handover : List Action :=
  let insert (id : String) : Action := ⟨.insert, .device, Policy.greeting id true⟩
  [insert "b", ⟨.delete, .device, Policy.greeting "a" true⟩, insert "c",
    ⟨.markAsRead, .device, Policy.greeting "c" true⟩]

theorem handover_played :
    let first : Usage := .transact [⟨.insert, .device, Policy.greeting "a" true⟩]
    let s : Table.Scope := ⟨"main", .greeting⟩
    let d := (Device.diary [first]).now
    let db := (Table.Database.diary [(s, first)]).now
    (d.items.keys = ["a"] ∧ ∃ d', d.apply handover = (.ok (), d') ∧ d'.items.keys = ["b", "c"] ∧
      d'.items.toList.filter (Item.plays .normal) = [(Policy.greeting "c" true).markRead]) ∧
    ∃ db', db.apply s handover = .ok db' ∧ (db'.items s).length = 2 ∧
      (db'.items s).filter (Item.plays .normal) = [(Policy.greeting "c" true).markRead] := by
  intro first s d db
  obtain ⟨inMemory, inTables⟩ := one_greeting_played .normal
  have entered (x : Option Item) :
      (Action.successor .normal handover x).toList = [(Policy.greeting "c" true).markRead] := rfl
  constructor
  · obtain ⟨x, -, after⟩ := inMemory [first]
    have done : d.apply handover = (.ok (), (d.apply handover).2) := Prod.ext (by decide +kernel) rfl
    exact ⟨by decide +kernel, _, done, by decide +kernel, (after handover _ done).trans (entered x)⟩
  · obtain ⟨x, -, after⟩ := inTables [(s, first)] s
    have applied : (db.apply s handover).isOk = true := by decide +kernel
    cases done : db.apply s handover with
    | error e =>
      rw [done] at applied
      cases applied
    | ok db' =>
      refine ⟨db', rfl, ?_, (after handover db' done).trans (entered x)⟩
      have two : (db.apply s handover).toOption.map (fun db => (db.items s).length) = some 2 := by decide +kernel
      rw [done] at two
      exact Option.some.inj two

end MailboxSync
