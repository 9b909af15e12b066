import MailboxSync.Proofs.ByteOrder
import MailboxSync.Proofs.Exactness
import MailboxSync.Proofs.Records

/-! A snapshot as a map from names to items that is listed in the order of the names. -/

namespace MailboxSync

def Item.setRead (read : Bool) (i : Item) : Item := { i with isRead := read }

namespace Snapshot

/-- Puts down for the item of this name whether it is read, if there is one. -/
def setRead (s : Snapshot) (id : String) (read : Bool) : Snapshot :=
  ⟨s.shelf.adjust id (Item.setRead read) fun _ => rfl, by
    intro j mem
    obtain ⟨i, held, rfl⟩ := List.mem_map.mp mem
    have keyed := s.keyed i held
    split <;> exact keyed⟩

/-- One change of a snapshot. -/
inductive Edit where
  | insert (i : Item)
  | remove (id : String)
  | retain (f : Family)
  | setRead (id : String) (read : Bool)

def edit (s : Snapshot) : Edit → Snapshot
  | .insert i => s.insert i
  | .remove id => s.remove id
  | .retain f => s.retain f
  | .setRead id read => s.setRead id read

end Snapshot

open Snapshot (Edit)

/-- At most one item under each name. -/
abbrev Catalogue := String → Option Item

namespace Catalogue

/-- The first item of each name that has more in it than white space. -/
def ofList (items : List Item) : Catalogue := fun k => items.find? fun i => Text.trim i.id ≠ [] ∧ i.id = k

/-- A change of a map, name by name. An item comes in where its name is not blank and not taken. -/
def edit (m : Catalogue) : Edit → Catalogue
  | .insert i => fun k => if k = i.id ∧ Text.trim k ≠ [] ∧ m k = none then some i else m k
  | .remove id => fun k => if k = id then none else m k
  | .retain f => fun k => (m k).filter fun i => i.family = f
  | .setRead id read => fun k => if k = id then (m k).map (Item.setRead read) else m k

/-- Every item is under its own name, and no name is blank. -/
def Own (m : Catalogue) : Prop := ∀ k i, m k = some i → i.id = k ∧ Text.trim k ≠ []

theorem own_ofList (items : List Item) : (ofList items).Own := by
  intro k i found
  obtain ⟨solid, rfl⟩ : Text.trim i.id ≠ [] ∧ i.id = k := by simpa using List.find?_some found
  exact ⟨rfl, solid⟩

theorem Own.edit {m : Catalogue} (own : m.Own) (e : Edit) : (m.edit e).Own := by
  intro k i found
  cases e with
  | insert new =>
    dsimp only [Catalogue.edit] at found
    split at found
    · next free =>
      cases found
      exact ⟨free.1.symm, free.2.1⟩
    · exact own k i found
  | remove id =>
    dsimp only [Catalogue.edit] at found
    split at found
    · cases found
    · exact own k i found
  | retain f => exact own k i (Option.filter_eq_some_iff.mp found).1
  | setRead id read =>
    dsimp only [Catalogue.edit] at found
    split at found
    · obtain ⟨j, held, rfl⟩ := Option.map_eq_some_iff.mp found
      exact own k j held
    · exact own k i found

end Catalogue

theorem Item.isKeyed_iff (i : Item) : i.isKeyed = true ↔ Text.trim i.id ≠ [] := by
  rw [isKeyed, Bool.not_eq_true', ← Bool.not_eq_true, Text.isBlank_iff_trim]

namespace Snapshot

/-- The snapshot lists the items of a map, each under its own name, in the order of the bytes of the names. -/
structure Lists (s : Snapshot) (m : Catalogue) : Prop where
  get? : ∀ k, s.get? k = m k
  mem_iff : ∀ i, i ∈ s.toList ↔ m i.id = some i
  own : m.Own
  ascending : s.keys.Pairwise fun j k => Text.bytes j < Text.bytes k

variable {s : Snapshot} {m : Catalogue}

theorem accepts_iff (s : Snapshot) (i : Item) : s.accepts i = true ↔ Text.trim i.id ≠ [] ∧ s.get? i.id = none := by
  rw [accepts, Bool.and_eq_true, i.isKeyed_iff, Bool.not_eq_true', contains_eq_false_iff]

theorem lists_of_get? (held : ∀ k, s.get? k = m k) (own : m.Own) : s.Lists m where
  get? := held
  mem_iff i := by
    rw [← held, get?_eq_some_iff]
    exact (and_iff_left rfl).symm
  own := own
  ascending := s.keys_ascending.imp Text.bytes_lt_iff.mpr

theorem lists_ofList (items : List Item) : (ofList items).Lists (Catalogue.ofList items) := by
  refine lists_of_get? (fun k => ?_) (Catalogue.own_ofList items)
  rw [get?_ofList, Catalogue.ofList]
  congr 1
  funext i
  rw [Bool.eq_iff_iff, Bool.and_eq_true, i.isKeyed_iff]
  simp

/-- A snapshot is changed as the map is that it lists. -/
theorem Lists.edit (lists : s.Lists m) (e : Edit) : (s.edit e).Lists (m.edit e) := by
  refine lists_of_get? (fun k => ?_) (lists.own.edit e)
  cases e with
  | insert i =>
    have taken : (s.accepts i = true ∧ i.id = k) ↔ k = i.id ∧ Text.trim k ≠ [] ∧ m k = none := by
      rw [accepts_iff, lists.get?]
      constructor
      · rintro ⟨free, rfl⟩
        exact ⟨rfl, free⟩
      · rintro ⟨rfl, free⟩
        exact ⟨free, rfl⟩
    rw [Snapshot.edit, get?_insert, lists.get?]
    exact if_congr taken rfl rfl
  | remove id => rw [Snapshot.edit, get?_remove, lists.get?, Catalogue.edit]
  | retain f => rw [Snapshot.edit, get?_retain, lists.get?, Catalogue.edit]
  | setRead id read =>
    dsimp only [Catalogue.edit]
    rw [← lists.get?]
    exact s.shelf.get?_adjust id (Item.setRead read) (fun _ => rfl) k

theorem Lists.editAll (lists : s.Lists m) (es : List Edit) :
    (es.foldl Snapshot.edit s).Lists (es.foldl Catalogue.edit m) := by
  induction es generalizing s m with
  | nil => exact lists
  | cons e rest ih => exact ih (lists.edit e)

variable (s)

/-- An item that is accepted comes in beside the others. -/
theorem perm_insert {i : Item} (accepted : s.accepts i = true) : (s.insert i).toList.Perm (i :: s.toList) := by
  rw [insert, dif_pos accepted]
  exact Shelf.perm_put ((s.accepts_iff i).mp accepted).2

theorem insert_of_not_accepts {i : Item} (refused : ¬s.accepts i = true) : s.insert i = s := by
  rw [insert, dif_neg refused]

theorem ofList_toList : ofList s.toList = s := by
  refine ext_get? fun k => ?_
  rw [get?_ofList, toList, Shelf.find?_and_key]
  show (s.get? k).filter Item.isKeyed = s.get? k
  cases held : s.get? k with
  | none => rfl
  | some i => rw [Option.filter_some, if_pos (keyed_of_get? held)]

/-- Which items a snapshot is made of hangs on the order of those that share a name, and on no more. -/
theorem ofList_congr {items items' : List Item}
    (same : ∀ k, (items.filter fun i => i.id = k) = items'.filter fun i => i.id = k) :
    ofList items = ofList items' := by
  -- What is held under a name was found among the items of that name alone.
  refine ext_get? fun k => ?_
  have among (items : List Item) : (items.find? fun i => i.isKeyed && i.id = k) =
      (items.filter fun i => i.id = k).find? Item.isKeyed := by
    rw [List.find?_filter]
    simp [Bool.and_comm]
  rw [get?_ofList, get?_ofList, among, among, same]

theorem dropped_eq (f : Family) : s.dropped f = (s.toList.filter fun i => i.family ≠ f).length := by
  have both : s.toList.length =
      (s.toList.filter fun i => i.family = f).length + (s.toList.filter fun i => i.family ≠ f).length := by
    simpa using List.length_eq_length_filter_add (l := s.toList) fun i => i.family = f
  show s.toList.length - (s.toList.filter fun i => i.family = f).length = _
  rw [both, Nat.add_sub_cancel_left]

/-- A snapshot lists a map from names to items in the order of the bytes of the names, and whatever is done to it is
done to the map: it takes in the first item of a name that is not blank, and nothing else. Items of different names may
come in any order. It is made again of what it lists. And to keep the items of one family leaves out all others, is
told how many they were, and may as well be done after completed commands are noted. -/
theorem maps_names_in_order (items : List Item) (es : List Edit) (s : Snapshot) (f : Family) :
    (es.foldl Snapshot.edit (ofList items)).Lists (es.foldl Catalogue.edit (Catalogue.ofList items)) ∧
      (∀ i, (s.accepts i = true ↔ Text.trim i.id ≠ [] ∧ i.id ∉ s.keys) ∧
        if s.accepts i then (s.insert i).toList.Perm (i :: s.toList) else s.insert i = s) ∧
      (∀ items', (∀ k, (items'.filter fun i => i.id = k) = items.filter fun i => i.id = k) →
        ofList items' = ofList items) ∧
      ofList s.toList = s ∧
      (s.retain f).toList = s.toList.filter (fun i => i.family = f) ∧
      s.dropped f = (s.toList.filter fun i => i.family ≠ f).length ∧
      ∀ completed, (s.observeAll completed).retain f = (s.retain f).observeAll completed := by
  refine ⟨(lists_ofList items).editAll es, fun i => ⟨?_, ?_⟩, fun _ same => ofList_congr same, s.ofList_toList, rfl,
    s.dropped_eq f, s.retain_observeAll f⟩
  · rw [accepts_iff, mem_keys_iff, Bool.not_eq_true, contains_eq_false_iff]
  · split
    · next accepted => exact s.perm_insert accepted
    · next refused => exact s.insert_of_not_accepts refused

/-- A name that is blank, a name that two items have, and names whose order is not that of a dictionary. -/
def unsorted : List Item :=
  [.voicemail "é", .voicemail "\u00a0 ", { Item.voicemail "é" with isRead := true },
    ⟨"\uffff", .greeting .normal true, false, false, none, none⟩, .voicemail "z"]

theorem unsorted_in_order :
    let items : List Item := [.voicemail "z", ⟨"\uffff", .greeting .normal true, false, false, none, none⟩,
      .voicemail "é", { Item.voicemail "é" with isRead := true }, .voicemail "\u00a0 "]
    (∀ k, (items.filter fun i => i.id = k) = unsorted.filter fun i => i.id = k) ∧ ofList items = ofList unsorted ∧
      ([Edit.setRead "z" true, .remove "é", .insert (.voicemail "😀")].foldl Snapshot.edit (ofList unsorted)).keys =
        ["z", "\uffff", "😀"] ∧
      ([Edit.setRead "z" true, .remove "é", .insert (.voicemail "😀")].foldl Snapshot.edit (ofList unsorted)).Lists
        ([Edit.setRead "z" true, .remove "é", .insert (.voicemail "😀")].foldl Catalogue.edit
          (Catalogue.ofList unsorted)) := by
  intro items
  obtain ⟨lists, -, congr, -⟩ :=
    maps_names_in_order unsorted [.setRead "z" true, .remove "é", .insert (.voicemail "😀")] empty .voicemail
  have same : ∀ k, (items.filter fun i => i.id = k) = unsorted.filter fun i => i.id = k := by
    intro k
    simp only [items, unsorted, List.filter_cons, List.filter_nil, Item.voicemail, decide_eq_true_eq]
    grind
  exact ⟨same, congr items same, by decide +kernel, lists⟩

end Snapshot

end MailboxSync
