namespace MailboxSync

/-- Entries that carry their own key, one per key, in ascending order of keys. Strings compare by
code point, which is also the order of their UTF-8 bytes. -/
structure Shelf {α : Type} (key : α → String) where
  toList : List α
  ascending : toList.Pairwise fun a b => key a < key b

namespace Shelf

variable {α : Type} {key : α → String}

instance [DecidableEq α] : DecidableEq (Shelf key) := fun a b =>
  decidable_of_iff (a.toList = b.toList) ⟨fun h => by cases a; cases b; cases h; rfl, fun h => h ▸ rfl⟩

def empty : Shelf key := ⟨[], .nil⟩

instance : Inhabited (Shelf key) := ⟨empty⟩

/-- One pass to the entry's place. An entry of the same key makes room for it. -/
def place (key : α → String) (x : α) : List α → List α
  | [] => [x]
  | y :: rest =>
    if key x < key y then x :: y :: rest
    else if key x = key y then x :: rest
    else y :: place key x rest

theorem mem_place {x a : α} {l : List α} (h : a ∈ place key x l) : a = x ∨ a ∈ l := by
  induction l with
  | nil => simpa [place] using h
  | cons y rest ih =>
    simp only [place] at h
    split at h
    · simpa using h
    · split at h <;> grind

theorem ascending_place (x : α) {l : List α} (h : l.Pairwise fun a b => key a < key b) :
    (place key x l).Pairwise fun a b => key a < key b := by
  induction l with
  | nil => simp [place]
  | cons y rest ih =>
    rw [List.pairwise_cons] at h
    simp only [place]
    split
    · next lt =>
      refine List.pairwise_cons.2 ⟨?_, List.pairwise_cons.2 h⟩
      intro a ha
      rcases List.mem_cons.1 ha with rfl | ha
      · exact lt
      · exact String.lt_trans lt (h.1 a ha)
    · split
      · next eq => exact List.pairwise_cons.2 ⟨fun a ha => eq ▸ h.1 a ha, h.2⟩
      · next nlt ne =>
        refine List.pairwise_cons.2 ⟨?_, ih h.2⟩
        intro a ha
        rcases mem_place ha with rfl | ha
        · grind
        · exact h.1 a ha

/-- Puts an entry in its place, instead of the one with its key if there is one. -/
def put (s : Shelf key) (x : α) : Shelf key := ⟨place key x s.toList, ascending_place x s.ascending⟩

def ofList (l : List α) : Shelf key := l.foldl put empty

def get? (s : Shelf key) (k : String) : Option α := s.toList.find? fun x => key x = k

def contains (s : Shelf key) (k : String) : Bool := s.toList.any fun x => key x = k

def filter (s : Shelf key) (p : α → Bool) : Shelf key := ⟨s.toList.filter p, s.ascending.filter p⟩

def erase (s : Shelf key) (k : String) : Shelf key := s.filter fun x => key x ≠ k

/-- Changes entries without touching their keys. -/
def map (s : Shelf key) (f : α → α) (h : ∀ x, key (f x) = key x) : Shelf key :=
  ⟨s.toList.map f, List.pairwise_map.2 (s.ascending.imp fun {a b} lt => by rw [h a, h b]; exact lt)⟩

/-- Changes the entry of one key. -/
def adjust (s : Shelf key) (k : String) (f : α → α) (h : ∀ x, key (f x) = key x) : Shelf key :=
  s.map (fun x => if key x = k then f x else x) fun x => by split <;> simp [h]

def keys (s : Shelf key) : List String := s.toList.map key

def size (s : Shelf key) : Nat := s.toList.length

def isEmpty (s : Shelf key) : Bool := s.toList.isEmpty

/-! What a shelf holds is told by `get?`. -/

/-- No two entries have the same key. -/
theorem eq_of_key_eq (s : Shelf key) {x y : α} (hx : x ∈ s.toList) (hy : y ∈ s.toList)
    (h : key x = key y) : x = y := by
  obtain ⟨l, asc⟩ := s
  dsimp only at hx hy
  induction asc with
  | nil => cases hx
  | cons lt _ ih =>
    rcases List.mem_cons.1 hx with hx | hx <;> rcases List.mem_cons.1 hy with hy | hy
    · rw [hx, hy]
    · exact (String.lt_irrefl _ (h ▸ hx ▸ lt _ hy)).elim
    · exact (String.lt_irrefl _ (h ▸ hy ▸ lt _ hx)).elim
    · exact ih hx hy

theorem nodup (s : Shelf key) : s.toList.Nodup :=
  s.ascending.imp fun {a b} lt (same : a = b) => String.lt_irrefl _ (same ▸ lt)

theorem ext_mem {s t : Shelf key} (h : ∀ x, x ∈ s.toList ↔ x ∈ t.toList) : s = t := by
  obtain ⟨l, ascL⟩ := s
  obtain ⟨m, ascM⟩ := t
  have perm : l.Perm m :=
    (List.perm_ext_iff_of_nodup (nodup ⟨l, ascL⟩) (nodup ⟨m, ascM⟩)).2 h
  have same := perm.eq_of_pairwise
    (fun _ _ _ _ lt gt => (String.lt_irrefl _ (String.lt_trans lt gt)).elim) ascL ascM
  subst same
  rfl

theorem get?_eq_some_iff {s : Shelf key} {k : String} {x : α} :
    s.get? k = some x ↔ x ∈ s.toList ∧ key x = k := by
  constructor
  · intro h
    exact ⟨List.mem_of_find?_eq_some h, by simpa using List.find?_some h⟩
  · rintro ⟨mem, rfl⟩
    cases h : s.get? (key x) with
    | none => simpa using List.find?_eq_none.1 h x mem
    | some y =>
      have same : key y = key x := by simpa using List.find?_some h
      rw [s.eq_of_key_eq (List.mem_of_find?_eq_some h) mem same]

theorem get?_key {s : Shelf key} {k : String} {x : α} (h : s.get? k = some x) : key x = k :=
  (get?_eq_some_iff.1 h).2

/-- A shelf is what it holds under each key. -/
theorem ext_get? {s t : Shelf key} (h : ∀ k, s.get? k = t.get? k) : s = t :=
  ext_mem fun x => by
    have same : s.get? (key x) = some x ↔ t.get? (key x) = some x := by rw [h]
    simpa [get?_eq_some_iff] using same

theorem contains_eq_isSome (s : Shelf key) (k : String) : s.contains k = (s.get? k).isSome :=
  List.isSome_find?.symm

theorem get?_put (s : Shelf key) (x : α) (k : String) :
    (s.put x).get? k = if key x = k then some x else s.get? k := by
  obtain ⟨l, asc⟩ := s
  show (place key x l).find? _ = if key x = k then some x else l.find? _
  induction l with
  | nil => simp [place, List.find?_cons]; grind
  | cons y rest ih =>
    simp only [place]
    split
    · simp [List.find?_cons]; grind
    · split <;> simp [List.find?_cons]
      · grind
      · grind [List.pairwise_cons.1 asc]

theorem mem_put {s : Shelf key} {x y : α} :
    y ∈ (s.put x).toList ↔ y = x ∨ y ∈ s.toList ∧ key y ≠ key x := by
  have same : (s.put x).get? (key y) = some y ↔ y ∈ (s.put x).toList := by simp [get?_eq_some_iff]
  rw [← same, get?_put]
  split
  · next eq => simp [eq.symm, eq_comm]
  · next ne => simp [get?_eq_some_iff, Ne.symm ne]; grind

theorem get?_filter (s : Shelf key) (p : α → Bool) (k : String) :
    (s.filter p).get? k = (s.get? k).filter p := by
  apply Option.ext
  intro x
  simp only [Option.filter_eq_some_iff, get?_eq_some_iff, filter, List.mem_filter]
  grind

theorem get?_erase (s : Shelf key) (k j : String) :
    (s.erase k).get? j = if j = k then none else s.get? j := by
  rw [erase, get?_filter]
  cases h : s.get? j with
  | none => simp
  | some x =>
    have := get?_key h
    split <;> simp_all

theorem get?_map (s : Shelf key) (f : α → α) (h : ∀ x, key (f x) = key x) (k : String) :
    (s.map f h).get? k = (s.get? k).map f := by
  show (s.toList.map f).find? _ = _
  rw [List.find?_map]
  congr 2
  funext x
  simp [h]

theorem get?_adjust (s : Shelf key) (k : String) (f : α → α) (h : ∀ x, key (f x) = key x)
    (j : String) : (s.adjust k f h).get? j = if j = k then (s.get? j).map f else s.get? j := by
  rw [adjust, get?_map]
  cases e : s.get? j with
  | none => simp
  | some x =>
    have := get?_key e
    split <;> simp_all

end Shelf

/-- A set of keys in ascending order. -/
abbrev KeySet := Shelf (id : String → String)

def KeySet.ofList (keys : List String) : KeySet := Shelf.ofList keys

end MailboxSync
