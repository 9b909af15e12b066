import MailboxSync.Proofs.Listing
import MailboxSync.Store.Device

namespace MailboxSync

/-- Steps that go through begin with one that goes through. -/
theorem foldlM_cons_ok {α σ ε : Type} {step : σ → α → Except ε σ} {a : α} {as : List α} {s t : σ}
    (done : (a :: as).foldlM step s = .ok t) : ∃ between, step s a = .ok between ∧ as.foldlM step between = .ok t := by
  rw [List.foldlM_cons] at done
  cases first : step s a with
  | error e =>
    rw [first] at done
    cases done
  | ok between =>
    rw [first] at done
    exact ⟨between, rfl, done⟩

namespace Item

/-- What becomes of an item when another comes in beside it. -/
def yieldTo (new : Item) (i : Item) : Item :=
  match new.kind with
  | .greeting t true => i.demote t
  | _ => i

/-- The item but for whether it is the greeting played. -/
def passive (i : Item) : Item :=
  match i.kind with
  | .greeting t _ => { i with kind := .greeting t false }
  | .voicemail => i

theorem yieldTo_of_voicemail {new : Item} (voicemail : new.family = .voicemail) (i : Item) :
    yieldTo new i = i := by
  unfold yieldTo
  split
  · next kind => simp [family, kind, ItemKind.family] at voicemail
  · rfl

theorem passive_demote (t : GreetingType) (i : Item) : (i.demote t).passive = i.passive := by
  obtain ⟨id, kind, read, content, uri, len⟩ := i
  cases kind with
  | voicemail => rfl
  | greeting t' active => by_cases same : t' = t <;> simp [demote, passive, same]

theorem passive_yieldTo (new i : Item) : (yieldTo new i).passive = i.passive := by
  unfold yieldTo
  split
  · exact passive_demote _ i
  · rfl

theorem passive_markRead (i : Item) : i.markRead.passive = i.passive.markRead := by
  obtain ⟨id, kind, read, content, uri, len⟩ := i
  cases kind <;> rfl

@[simp] theorem passive_family (i : Item) : i.passive.family = i.family := by
  obtain ⟨id, kind, read, content, uri, len⟩ := i
  cases kind <;> rfl

@[simp] theorem passive_id (i : Item) : i.passive.id = i.id := by
  obtain ⟨id, kind, read, content, uri, len⟩ := i
  cases kind <;> rfl

@[simp] theorem passive_isRead (i : Item) : i.passive.isRead = i.isRead := by
  obtain ⟨id, kind, read, content, uri, len⟩ := i
  cases kind <;> rfl

@[simp] theorem passive_hasContent (i : Item) : i.passive.hasContent = i.hasContent := by
  obtain ⟨id, kind, read, content, uri, len⟩ := i
  cases kind <;> rfl

@[simp] theorem passive_contentLen (i : Item) : i.passive.contentLen = i.contentLen := by
  obtain ⟨id, kind, read, content, uri, len⟩ := i
  cases kind <;> rfl

/-- What does not tell whether an item is the greeting played stays as it is when another item comes in. -/
theorem eq_yieldTo {α : Type} {f : Item → α} (blind : ∀ i, f i.passive = f i) (new i : Item) :
    f (yieldTo new i) = f i := by
  rw [← blind, passive_yieldTo, blind]

end Item

/-- What an action of a transaction makes of the item under a name. -/
def Action.alter (a : Action) (k : String) (x : Option Item) : Option Item :=
  match a.kind with
  | .insert => if a.id = k then some a.item.bare else x.map (Item.yieldTo a.item)
  | .delete => if a.id = k then none else x
  | .markAsRead => if a.id = k then x.map Item.markRead else x
  | .fetchContent => x

/-- What the actions of a transaction, one after the other, make of the item under a name. -/
def Action.alterAll (as : List Action) (k : String) (x : Option Item) : Option Item :=
  as.foldl (fun x a => a.alter k x) x

namespace Action

theorem alterAll_cons (a : Action) (as : List Action) (k : String) (x : Option Item) :
    alterAll (a :: as) k x = alterAll as k (a.alter k x) := rfl

/-- Actions that bring no greeting in leave the items of other names alone. -/
theorem alterAll_filter {as : List Action} (k : String)
    (voicemail : ∀ a ∈ as, a.kind = .insert → a.item.family = .voicemail) (x : Option Item) :
    alterAll as k x = alterAll (as.filter fun a => a.id = k) k x := by
  induction as generalizing x with
  | nil => rfl
  | cons a rest ih =>
    have others := ih fun b mem => voicemail b (List.mem_cons_of_mem _ mem)
    by_cases own : a.id = k
    · rw [List.filter_cons_of_pos (by simpa using own), alterAll_cons, alterAll_cons, others]
    · have still : a.alter k x = x := by
        cases kind : a.kind with
        | insert =>
          have plain := Item.yieldTo_of_voicemail (voicemail a List.mem_cons_self kind)
          cases x <;> simp [alter, kind, own, plain]
        | delete | markAsRead | fetchContent => simp [alter, kind, own]
      rw [List.filter_cons_of_neg (by simpa using own), alterAll_cons, others, still]

/-- A transaction that brings nothing in under a name has nothing there in the end, if there was nothing
in the beginning. -/
theorem alterAll_none {as : List Action} {k : String}
    (absent : ∀ a ∈ as, a.kind = .insert → a.id ≠ k) : alterAll as k none = none := by
  induction as with
  | nil => rfl
  | cons a rest ih =>
    have still : a.alter k none = none := by
      cases kind : a.kind with
      | insert => simp [alter, kind, absent a List.mem_cons_self kind]
      | delete | markAsRead | fetchContent => simp [alter, kind]
    rw [alterAll_cons, still]
    exact ih fun b mem => absent b (List.mem_cons_of_mem _ mem)

/-- An item that a transaction makes disappear was deleted by it. -/
theorem deleted_of_alterAll {as : List Action} {k : String} {i : Item}
    (gone : alterAll as k (some i) = none) : ∃ a ∈ as, a.kind = .delete ∧ a.id = k := by
  induction as generalizing i with
  | nil => cases gone
  | cons a rest ih =>
    rw [alterAll_cons] at gone
    by_cases own : a.kind = .delete ∧ a.id = k
    · exact ⟨a, List.mem_cons_self, own⟩
    · obtain ⟨j, stays⟩ : ∃ j, a.alter k (some i) = some j := by
        unfold alter
        cases kind : a.kind with
        | insert => exact ⟨_, (apply_ite some _ _ _).symm⟩
        | delete => exact ⟨i, if_neg fun same => own ⟨kind, same⟩⟩
        | markAsRead => exact ⟨_, (apply_ite some _ _ _).symm⟩
        | fetchContent => exact ⟨i, rfl⟩
      rw [stays] at gone
      obtain ⟨b, mem, deletes⟩ := ih gone
      exact ⟨b, List.mem_cons_of_mem _ mem, deletes⟩

theorem map_passive_alter (a : Action) (k : String) {x y : Option Item}
    (same : x.map Item.passive = y.map Item.passive) :
    (a.alter k x).map Item.passive = (a.alter k y).map Item.passive := by
  have still : Item.passive ∘ Item.yieldTo a.item = Item.passive :=
    funext (Item.passive_yieldTo a.item)
  have read : Item.passive ∘ Item.markRead = Item.markRead ∘ Item.passive :=
    funext Item.passive_markRead
  have marked : (x.map Item.markRead).map Item.passive = (y.map Item.markRead).map Item.passive := by
    rw [Option.map_map, Option.map_map, read, ← Option.map_map, ← Option.map_map, same]
  cases kind : a.kind <;> by_cases own : a.id = k <;>
    simp [alter, kind, own, still, same, marked]

/-- But for whether a greeting is played, a transaction's effect on an item is that of the actions
on this item. -/
theorem map_passive_alterAll {as : List Action} (k : String) {x y : Option Item}
    (same : x.map Item.passive = y.map Item.passive) :
    (alterAll as k x).map Item.passive =
      (alterAll (as.filter fun a => a.id = k) k y).map Item.passive := by
  induction as generalizing x y with
  | nil => exact same
  | cons a rest ih =>
    by_cases own : a.id = k
    · rw [List.filter_cons_of_pos (by simpa using own)]
      exact ih (map_passive_alter a k same)
    · rw [List.filter_cons_of_neg (by simpa using own)]
      refine ih ?_
      have still : Item.passive ∘ Item.yieldTo a.item = Item.passive :=
        funext (Item.passive_yieldTo a.item)
      rw [← same]
      cases kind : a.kind <;> simp [alter, kind, own, still]

/-- Two different actions on a store that are of one kind are about different items. -/
theorem id_ne_of_kind {t : Target} {a b : Action} (validA : a.isValidFor t = true) (validB : b.isValidFor t = true)
    (kind : a.kind = b.kind) (apart : a.sameAs b = false) : a.id ≠ b.id := by
  intro same
  simp only [isValidFor, Bool.and_eq_true, decide_eq_true_eq] at validA validB
  have targets : a.target = b.target := validA.1.trans validB.1.symm
  simp [sameAs, kind, targets, same] at apart

end Action

namespace Folder

theorem get?_add (f : Folder) (i : Item) (k : String) :
    (f.add i).get? k = if i.id = k then some i.bare else (f.get? k).map (Item.yieldTo i) := by
  unfold add Item.yieldTo
  rw [Shelf.get?_put, Item.bare_id]
  cases kind : i.kind with
  | voicemail => simp
  | greeting t active => cases active <;> simp [Shelf.get?_map]

theorem get?_perform {f g : Folder} {a : Action} (done : f.perform a = .ok g) (k : String) :
    g.get? k = a.alter k (f.get? k) := by
  unfold perform at done
  split at done
  · next kind =>
    split at done
    · cases done
    · cases done
      rw [get?_add, Action.alter, kind]
      rfl
  · next kind =>
    cases done
    simp [Action.alter, kind, Shelf.get?_erase, eq_comm]
  · next kind =>
    cases done
    simp [Action.alter, kind, Shelf.get?_adjust, eq_comm]
  · cases done

/-- What a transaction leaves under a name. -/
theorem get?_performAll {f g : Folder} {as : List Action} (done : f.performAll as = .ok g)
    (k : String) : g.get? k = Action.alterAll as k (f.get? k) := by
  induction as generalizing f with
  | nil => cases done; rfl
  | cons a rest ih =>
    obtain ⟨f', first, others⟩ := foldlM_cons_ok done
    rw [ih others, get?_perform first, Action.alterAll_cons]

/-- Only what is not there can be brought in. -/
theorem absent_of_insert {f g : Folder} {a : Action} (done : f.perform a = .ok g)
    (kind : a.kind = .insert) : f.get? a.id = none := by
  unfold perform at done
  rw [kind] at done
  by_cases held : f.contains a.id = true
  · simp [held] at done
  · rw [Shelf.contains_eq_isSome] at held
    simpa using held

theorem perform_ok {f : Folder} {a : Action} (valid : a.isValidFor .device = true)
    (fresh : a.kind = .insert → f.contains a.id = false) : ∃ g, f.perform a = .ok g := by
  unfold perform
  split
  · next kind => exact ⟨_, by rw [fresh kind]; rfl⟩
  · exact ⟨_, rfl⟩
  · exact ⟨_, rfl⟩
  · next kind => simp [Action.isValidFor, kind, ActionKind.isValidFor] at valid

/-- A transaction goes through if nothing that it brings in is there already. -/
theorem performAll_ok {f : Folder} {as : List Action}
    (valid : ∀ a ∈ as, a.isValidFor .device = true)
    (distinct : as.Pairwise fun a b => a.sameAs b = false)
    (fresh : ∀ a ∈ as, a.kind = .insert → f.contains a.id = false) :
    ∃ g, f.performAll as = .ok g := by
  induction as generalizing f with
  | nil => exact ⟨f, rfl⟩
  | cons a rest ih =>
    rw [List.pairwise_cons] at distinct
    obtain ⟨f', first⟩ := perform_ok (valid a List.mem_cons_self) (fresh a List.mem_cons_self)
    have still : ∀ b ∈ rest, b.kind = .insert → f'.contains b.id = false := by
      intro b mem kind
      have before := fresh b (List.mem_cons_of_mem _ mem) kind
      rw [Shelf.contains_eq_isSome, Option.isSome_eq_false_iff] at before ⊢
      have other : a.kind = .insert → a.id ≠ b.id := fun kindA =>
        Action.id_ne_of_kind (valid a List.mem_cons_self) (valid b (List.mem_cons_of_mem _ mem))
          (kindA.trans kind.symm) (distinct.1 b mem)
      rw [get?_perform first, Option.isNone_iff_eq_none.mp before]
      cases kindA : a.kind with
      | insert => simp [Action.alter, kindA, other kindA]
      | delete | markAsRead | fetchContent => simp [Action.alter, kindA]
    obtain ⟨g, others⟩ := ih (fun b mem => valid b (List.mem_cons_of_mem _ mem)) distinct.2 still
    refine ⟨g, ?_⟩
    show (f.perform a >>= fun f' => f'.performAll rest) = _
    rw [first]
    exact others

end Folder

end MailboxSync
