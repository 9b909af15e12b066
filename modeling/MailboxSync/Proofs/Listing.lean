import MailboxSync.Store.Memory

namespace MailboxSync

namespace Shelf

variable {α : Type} {key : α → String}

/-- Of the entries of a shelf those of one key are what a look-up finds. -/
theorem filter_key (s : Shelf key) (k : String) :
    (s.toList.filter fun x => key x = k) = (s.get? k).toList := by
  obtain ⟨l, asc⟩ := s
  show l.filter _ = (l.find? _).toList
  induction asc with
  | nil => rfl
  | @cons x rest lt _ ih =>
    by_cases same : key x = k
    · have others : (rest.filter fun y => key y = k) = [] := by
        rw [List.filter_eq_nil_iff]
        intro y mem eq
        have ascending := lt y mem
        rw [same, of_decide_eq_true eq] at ascending
        exact String.lt_irrefl _ ascending
      simp [same, others]
    · simpa [same] using ih

/-- A look-up among the entries with a property. -/
theorem find?_and_key (s : Shelf key) (p : α → Bool) (k : String) :
    (s.toList.find? fun x => p x && key x = k) = (s.get? k).filter p := by
  rw [← get?_filter]
  show _ = (s.toList.filter p).find? _
  simp [List.find?_filter, Bool.decide_and]

theorem contains_foldl_put {l : List α} {s : Shelf key} {k : String} :
    (l.foldl put s).contains k = true ↔ (∃ x ∈ l, key x = k) ∨ s.contains k = true := by
  induction l generalizing s with
  | nil => simp
  | cons y rest ih =>
    rw [List.foldl_cons, ih, contains_eq_isSome, contains_eq_isSome, get?_put]
    by_cases same : key y = k <;> simp [same]

theorem contains_ofList {l : List α} {k : String} :
    (ofList l : Shelf key).contains k = true ↔ ∃ x ∈ l, key x = k := by
  have none : (empty : Shelf key).contains k = false := rfl
  simp [ofList, contains_foldl_put, none]

theorem contains_eq_true_iff {s : Shelf key} {k : String} :
    s.contains k = true ↔ ∃ x ∈ s.toList, key x = k := by
  simp [contains]

theorem mem_keys_iff {s : Shelf key} {k : String} : k ∈ s.keys ↔ s.contains k = true := by
  simp [keys, contains]

theorem keys_distinct (s : Shelf key) : s.toList.Pairwise fun x y => key x ≠ key y :=
  s.ascending.imp fun {x y} lt (same : key x = key y) => String.lt_irrefl _ (same ▸ lt)

theorem nodup_keys (s : Shelf key) : s.keys.Nodup := List.pairwise_map.mpr s.keys_distinct

end Shelf

namespace KeySet

theorem mem_iff_contains {s : KeySet} {k : String} : k ∈ s.toList ↔ s.contains k = true := by
  simp [Shelf.contains_eq_true_iff]

theorem mem_ofList {l : List String} {k : String} : k ∈ (ofList l).toList ↔ k ∈ l := by
  rw [mem_iff_contains, ofList, Shelf.contains_ofList]
  simp

/-- Keys that are in order already make up a set as they stand. -/
theorem toList_ofList {l : List String} (ascending : l.Pairwise (· < ·)) : (ofList l).toList = l := by
  have same : ofList l = (⟨l, ascending⟩ : KeySet) := Shelf.ext_mem fun _ => mem_ofList
  rw [same]

end KeySet

namespace Snapshot

theorem get?_foldl_insert (items : List Item) (s : Snapshot) (k : String) :
    (items.foldl insert s).get? k = (s.get? k).or (items.find? fun i => i.isKeyed && i.id = k) := by
  induction items generalizing s with
  | nil => simp
  | cons i rest ih =>
    rw [List.foldl_cons, ih, get?_insert, List.find?_cons]
    by_cases same : i.id = k
    · cases keyed : i.isKeyed <;> cases taken : s.get? k <;>
        simp [accepts, contains_eq_isSome, same, keyed, taken]
    · simp [same]

/-- A snapshot holds the first item of each name that is not blank. -/
theorem get?_ofList (items : List Item) (k : String) :
    (ofList items).get? k = items.find? fun i => i.isKeyed && i.id = k := by
  simp [ofList, get?_foldl_insert]

theorem keyed_of_get? {s : Snapshot} {k : String} {i : Item} (found : s.get? k = some i) :
    i.isKeyed = true :=
  s.keyed i (get?_eq_some_iff.mp found).1

theorem id_of_get? {s : Snapshot} {k : String} {i : Item} (found : s.get? k = some i) : i.id = k :=
  (get?_eq_some_iff.mp found).2

theorem contains_eq_true_iff {s : Snapshot} {k : String} :
    s.contains k = true ↔ ∃ i, s.get? k = some i := by
  rw [contains_eq_isSome, Option.isSome_iff_exists]

theorem contains_eq_false_iff {s : Snapshot} {k : String} :
    s.contains k = false ↔ s.get? k = none := by
  rw [contains_eq_isSome]
  simp

theorem mem_keys_iff {s : Snapshot} {k : String} : k ∈ s.keys ↔ s.contains k = true := Shelf.mem_keys_iff

theorem keys_ascending (s : Snapshot) : s.keys.Pairwise (· < ·) :=
  List.pairwise_map.mpr s.shelf.ascending

theorem filter_id (s : Snapshot) (k : String) :
    (s.toList.filter fun i => i.id = k) = (s.get? k).toList :=
  s.shelf.filter_key k

end Snapshot

/-! What the listing of a store shows under a name. -/

theorem Device.get?_snapshot (d : Device) (k : String) :
    d.snapshot.get? k = (d.items.get? k).filter Item.isKeyed := by
  rw [snapshot, Snapshot.get?_ofList, Shelf.find?_and_key]

theorem Carrier.get?_snapshot (c : Carrier) (k : String) :
    c.snapshot.get? k = ((c.recordings.get? k).map Recording.item).filter Item.isKeyed := by
  rw [snapshot, Snapshot.get?_ofList, List.find?_map, Option.filter_map]
  exact congrArg _ (c.recordings.find?_and_key (fun r => r.item.isKeyed) k)

end MailboxSync
