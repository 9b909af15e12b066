import MailboxSync.Item
import MailboxSync.Shelf

namespace MailboxSync

/-- What one store held at one moment: items with a name of their own, in ascending order of
names. Everything derived from a snapshot inherits that order. -/
structure Snapshot where
  shelf : Shelf Item.id
  keyed : ∀ i ∈ shelf.toList, i.isKeyed = true

namespace Snapshot

instance : DecidableEq Snapshot := fun a b =>
  decidable_of_iff (a.shelf = b.shelf) ⟨fun h => by cases a; cases b; cases h; rfl, fun h => h ▸ rfl⟩

def empty : Snapshot := ⟨.empty, fun _ h => nomatch h⟩

instance : Inhabited Snapshot := ⟨empty⟩

def toList (s : Snapshot) : List Item := s.shelf.toList

def keys (s : Snapshot) : List String := s.shelf.keys

def size (s : Snapshot) : Nat := s.shelf.size

def isEmpty (s : Snapshot) : Bool := s.shelf.isEmpty

def get? (s : Snapshot) (id : String) : Option Item := s.shelf.get? id

def contains (s : Snapshot) (id : String) : Bool := s.shelf.contains id

/-- A snapshot takes an item in when its name is not blank and not taken. -/
def accepts (s : Snapshot) (i : Item) : Bool := i.isKeyed && !s.contains i.id

/-- The first item of a name stays: one that comes later is left out. -/
def insert (s : Snapshot) (i : Item) : Snapshot :=
  if h : s.accepts i then
    ⟨s.shelf.put i, fun _ hj =>
      (Shelf.mem_place hj).elim (fun e => e ▸ (Bool.and_eq_true_iff.1 h).1) (s.keyed _)⟩
  else s

def ofList (items : List Item) : Snapshot := items.foldl insert empty

def filter (s : Snapshot) (p : Item → Bool) : Snapshot :=
  ⟨s.shelf.filter p, fun _ h => s.keyed _ (List.mem_filter.1 h).1⟩

def remove (s : Snapshot) (id : String) : Snapshot := s.filter fun i => i.id ≠ id

/-- Only the items of one family. -/
def retain (s : Snapshot) (f : Family) : Snapshot := s.filter fun i => i.family = f

/-- How many items `retain` leaves out. -/
def dropped (s : Snapshot) (f : Family) : Nat := s.size - (s.retain f).size

/-- Marks the item of this name as read, if there is one. -/
def markRead (s : Snapshot) (id : String) : Snapshot :=
  ⟨s.shelf.adjust id Item.markRead fun _ => rfl, by
    intro j hj
    obtain ⟨i, hi, rfl⟩ := List.mem_map.1 hj
    have := s.keyed i hi
    split <;> exact this⟩

theorem ext_get? {s t : Snapshot} (h : ∀ k, s.get? k = t.get? k) : s = t := by
  obtain ⟨a, _⟩ := s
  obtain ⟨b, _⟩ := t
  obtain rfl : a = b := Shelf.ext_get? h
  rfl

theorem contains_eq_isSome (s : Snapshot) (k : String) : s.contains k = (s.get? k).isSome :=
  s.shelf.contains_eq_isSome k

theorem get?_eq_some_iff {s : Snapshot} {k : String} {i : Item} :
    s.get? k = some i ↔ i ∈ s.toList ∧ i.id = k := Shelf.get?_eq_some_iff

@[simp] theorem get?_empty (k : String) : empty.get? k = none := rfl

theorem get?_insert (s : Snapshot) (i : Item) (k : String) :
    (s.insert i).get? k = if s.accepts i = true ∧ i.id = k then some i else s.get? k := by
  unfold insert
  split
  · next h =>
    simp only [h, true_and]
    exact s.shelf.get?_put i k
  · next h => simp [h]

theorem get?_filter (s : Snapshot) (p : Item → Bool) (k : String) :
    (s.filter p).get? k = (s.get? k).filter p := s.shelf.get?_filter p k

theorem get?_retain (s : Snapshot) (f : Family) (k : String) :
    (s.retain f).get? k = (s.get? k).filter fun i => i.family = f := s.get?_filter _ k

theorem get?_remove (s : Snapshot) (id k : String) :
    (s.remove id).get? k = if k = id then none else s.get? k := s.shelf.get?_erase id k

theorem get?_markRead (s : Snapshot) (id k : String) :
    (s.markRead id).get? k = if k = id then (s.get? k).map Item.markRead else s.get? k :=
  s.shelf.get?_adjust id Item.markRead (fun _ => rfl) k

end Snapshot

end MailboxSync
