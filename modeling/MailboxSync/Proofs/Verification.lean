import MailboxSync.Failure
import MailboxSync.Proofs.Partition

namespace MailboxSync

/-- The smallest key with a property. -/
def Least (p : String → Prop) (k : String) : Prop := p k ∧ ∀ j, p j → ¬j < k

section

variable {l : List String} (ascending : l.Pairwise (· < ·)) {p : String → Prop}

include ascending

/-- In an ascending list the first key for which something is found is the smallest one. -/
theorem findSome?_eq_some_iff_least {α : Type} {f : String → Option α} (finds : ∀ j, p j ↔ j ∈ l ∧ f j ≠ none)
    {v : α} : l.findSome? f = some v ↔ ∃ k, Least p k ∧ f k = some v := by
  rw [List.findSome?_eq_some_iff]
  constructor
  · rintro ⟨before, k, after, rfl, found, none⟩
    refine ⟨k, ⟨(finds k).mpr ⟨by simp, by simp [found]⟩, fun j sought smaller => ?_⟩, found⟩
    rw [List.pairwise_append, List.pairwise_cons] at ascending
    obtain ⟨mem, finding⟩ := (finds j).mp sought
    rcases List.mem_append.mp mem with early | late
    · exact finding (none j early)
    · rcases List.mem_cons.mp late with rfl | late
      · exact String.lt_irrefl _ smaller
      · exact String.lt_irrefl _ (String.lt_trans smaller (ascending.2.1.1 j late))
  · rintro ⟨k, ⟨sought, least⟩, found⟩
    obtain ⟨before, after, rfl⟩ := List.append_of_mem ((finds k).mp sought).1
    refine ⟨before, k, after, rfl, found, fun j early => ?_⟩
    have smaller : j < k := (List.pairwise_append.mp ascending).2.2 j early k List.mem_cons_self
    by_contra finding
    exact least j ((finds j).mpr ⟨List.mem_append_left _ early, finding⟩) smaller

theorem find?_eq_some_iff_least {q : String → Bool} (finds : ∀ j, p j ↔ j ∈ l ∧ q j = true) {k : String} :
    l.find? q = some k ↔ Least p k := by
  have guards : ∀ j, p j ↔ j ∈ l ∧ Option.guard q j ≠ none := by simpa [Option.guard_eq_none_iff] using finds
  rw [← List.findSome?_guard, findSome?_eq_some_iff_least ascending guards]
  constructor
  · rintro ⟨j, least, found⟩
    obtain ⟨rfl, -⟩ := Option.guard_eq_some_iff.mp found
    exact least
  · exact fun least => ⟨k, least, Option.guard_eq_some_iff.mpr ⟨rfl, ((finds k).mp least.1).2⟩⟩

end

/-- A list has the keys of a set, each once, if the set made of it is this one and no smaller than the list. -/
theorem KeySet.perm_iff {l : List String} {s : KeySet} :
    l.Perm s.toList ↔ (ofList l).toList = s.toList ∧ (ofList l).size = l.length := by
  constructor
  · intro perm
    have same : ofList l = s := Shelf.ext_mem fun k => mem_ofList.trans perm.mem_iff
    exact ⟨congrArg Shelf.toList same, same ▸ perm.length_eq.symm⟩
  · rintro ⟨same, size⟩
    have within : (ofList l).toList.Subperm l :=
      List.subperm_of_subset (ofList l).nodup fun k mem => mem_ofList.mp mem
    exact same ▸ (within.perm_of_length_le (Nat.le_of_eq size.symm)).symm

namespace Classification

/-- The categories of a key, category by category and one for each entry that has the key. -/
def places (c : Classification) (k : String) : List Category :=
  .replicate (c.deviceOnly.countP (·.id = k)) .deviceOnly ++
    .replicate (c.carrierOnly.countP (·.carrier.id = k)) .carrierOnly ++
    .replicate (c.both.countP (·.device.id = k)) .both ++
    .replicate (c.mirrorOnly.countP (·.id = k)) .mirrorOnly

theorem categoriesOf_eq_places (c : Classification) (k : String) : c.categoriesOf k = c.places k := by
  have each {α : Type} (l : List α) (key : α → String) (g : Category) :
      ((l.map fun x => (key x, g)).filter fun e => e.1 = k).map Prod.snd = .replicate (l.countP (key · = k)) g := by
    rw [List.filter_map, List.map_map, List.countP_eq_length_filter]
    exact List.map_const' ..
  simp only [categoriesOf, entries, List.filter_append, List.map_append, each, places]
  rfl

/-- A key of the snapshots that is not in one category, and in it once. -/
def Misplaced (c : Classification) (known : KeySet) (k : String) : Prop :=
  k ∈ known.toList ∧ (c.places k).length ≠ 1

/-- A key of a category that no snapshot has. -/
def Stray (c : Classification) (known : KeySet) (k : String) : Prop := k ∈ c.keys ∧ k ∉ known.toList

/-- The keys that device and mirror share are named as such, each once. -/
def Remembers (c : Classification) (device mirror : Snapshot) : Prop :=
  (c.remembered.map fun r => r.device.id).Perm (device.keys.filter (· ∈ mirror.keys))

/-- What is to be said of a classification. Of several faults one is named: a misplaced key before a stray one, and
the smallest of its sort. -/
inductive Judged (c : Classification) (device carrier mirror : Snapshot) : Except Failure Unit → Prop
  | sound : c.keys.Perm (Snapshot.keysOf device carrier mirror).toList → c.Remembers device mirror →
      Judged c device carrier mirror (.ok ())
  | unclassified {k} : Least (c.Misplaced (Snapshot.keysOf device carrier mirror)) k → c.places k = [] →
      Judged c device carrier mirror (.error (.invariant (k ++ " was not classified")))
  | repeated {k} : Least (c.Misplaced (Snapshot.keysOf device carrier mirror)) k → c.places k ≠ [] →
      Judged c device carrier mirror (.error (.invariant
        (k ++ " classified as " ++ " and ".intercalate ((c.places k).map Category.name))))
  | stray {k} : (∀ j, ¬c.Misplaced (Snapshot.keysOf device carrier mirror) j) →
      Least (c.Stray (Snapshot.keysOf device carrier mirror)) k →
      Judged c device carrier mirror (.error (.invariant (k ++ " is not present in any snapshot")))
  | mismatch : c.keys.Perm (Snapshot.keysOf device carrier mirror).toList → ¬c.Remembers device mirror →
      Judged c device carrier mirror
        (.error (.invariant "local-and-mirror does not match the local/mirror intersection"))

variable {c : Classification} {device carrier mirror : Snapshot} {k : String}

theorem violationAt_eq_none_iff : c.violationAt k = none ↔ (c.places k).length = 1 := by
  rw [violationAt, categoriesOf_eq_places]
  cases c.places k with
  | nil => simp
  | cons g rest =>
    cases rest with
    | nil => simp
    | cons h rest => simp

theorem remembersExactly_iff : c.remembersExactly device mirror = true ↔ c.Remembers device mirror := by
  have same : device.keys.filter mirror.contains = device.keys.filter (· ∈ mirror.keys) :=
    List.filter_congr fun k _ => by simp [Snapshot.mem_keys_iff]
  let shared : KeySet := ⟨device.keys.filter (· ∈ mirror.keys), device.keys_ascending.filter _⟩
  have exactly := KeySet.perm_iff (l := c.remembered.map fun r => r.device.id) (s := shared)
  rw [List.length_map] at exactly
  simp only [remembersExactly, Bool.and_eq_true, decide_eq_true_eq, same]
  exact exactly.symm

/-- The categories divide the keys if none is misplaced and none stray. -/
theorem perm_keys_iff_placed {known : KeySet} : c.keys.Perm known.toList ↔
    (∀ j, ¬c.Misplaced known j) ∧ ∀ j, ¬c.Stray known j := by
  have held (j : String) : j ∈ c.keys ↔ (c.places j).length ≠ 0 := by
    rw [← categoriesOf_eq_places, ← count_keys, ← List.count_pos_iff, Nat.pos_iff_ne_zero]
  rw [perm_keys_iff, ← forall_and]
  refine forall_congr' fun j => ?_
  simp only [Misplaced, Stray, held, categoriesOf_eq_places]
  split <;> simp [*]

section

variable (c device carrier mirror)

/-- Where the check first finds something wrong with a key of the snapshots. -/
theorem misplaced_iff (k : String) : c.Misplaced (Snapshot.keysOf device carrier mirror) k ↔
    k ∈ (Snapshot.keysOf device carrier mirror).toList ∧ c.violationAt k ≠ none := by
  rw [Misplaced, ne_eq, ne_eq, violationAt_eq_none_iff]

theorem stray_iff (k : String) : c.Stray (Snapshot.keysOf device carrier mirror) k ↔
    k ∈ (KeySet.ofList (c.entries.map Prod.fst)).toList ∧
      (!(Snapshot.keysOf device carrier mirror).contains k) = true := by
  rw [Stray, KeySet.mem_ofList, keys_eq_entries, KeySet.mem_iff_contains, Bool.not_eq_true, Bool.not_eq_true']

end

theorem verify_of_misplaced (least : Least (c.Misplaced (Snapshot.keysOf device carrier mirror)) k) {v : Violation}
    (found : c.violationAt k = some v) : c.verify device carrier mirror = .error v := by
  have first := (findSome?_eq_some_iff_least (Snapshot.keysOf device carrier mirror).ascending
    (c.misplaced_iff device carrier mirror)).mpr ⟨k, least, found⟩
  rw [Snapshot.keysOf] at first
  simp only [verify, first]

section

variable (placed : ∀ j, ¬c.Misplaced (Snapshot.keysOf device carrier mirror) j)

include placed

theorem findSome?_of_placed : (Snapshot.keysOf device carrier mirror).toList.findSome? c.violationAt = none := by
  rw [List.findSome?_eq_none_iff]
  intro k known
  by_contra found
  exact placed k ((c.misplaced_iff ..).mpr ⟨known, found⟩)

theorem verify_of_stray (least : Least (c.Stray (Snapshot.keysOf device carrier mirror)) k) :
    c.verify device carrier mirror = .error (.stray k) := by
  have none := findSome?_of_placed placed
  have first := (find?_eq_some_iff_least (KeySet.ofList _).ascending (c.stray_iff device carrier mirror)).mpr least
  rw [Snapshot.keysOf] at none first
  simp only [verify, none, first]

end

theorem verify_of_perm (perm : c.keys.Perm (Snapshot.keysOf device carrier mirror).toList) :
    c.verify device carrier mirror =
      if c.remembersExactly device mirror then .ok () else .error .rememberedMismatch := by
  obtain ⟨placed, known⟩ := perm_keys_iff_placed.mp perm
  have noneMisplaced := findSome?_of_placed placed
  have noneStray : (KeySet.ofList (c.entries.map Prod.fst)).toList.find?
      (fun k => !(Snapshot.keysOf device carrier mirror).contains k) = none := by
    rw [List.find?_eq_none]
    exact fun k mem away => known k ((c.stray_iff ..).mpr ⟨mem, away⟩)
  rw [Snapshot.keysOf] at noneMisplaced noneStray
  simp only [verify, noneMisplaced, noneStray]

theorem violationAt_of_nil (nil : c.places k = []) : c.violationAt k = some (.unclassified k) := by
  rw [violationAt, categoriesOf_eq_places, nil]

theorem violationAt_of_several (some : c.places k ≠ []) (several : (c.places k).length ≠ 1) :
    c.violationAt k = .some (.classifiedRepeatedly k (c.places k)) := by
  rw [violationAt, categoriesOf_eq_places]
  split
  · contradiction
  · next single => simp [single] at several
  · rfl

/-- What the check says is right. -/
theorem judged_verify (c : Classification) (device carrier mirror : Snapshot) :
    c.Judged device carrier mirror ((c.verify device carrier mirror).mapError fun v => .invariant v.message) := by
  cases first : (Snapshot.keysOf device carrier mirror).toList.findSome? c.violationAt with
  | some v =>
    obtain ⟨k, least, found⟩ := (findSome?_eq_some_iff_least (Snapshot.keysOf device carrier mirror).ascending
      (c.misplaced_iff device carrier mirror)).mp first
    rw [verify_of_misplaced least found]
    by_cases nil : c.places k = []
    · obtain rfl := Option.some.inj (found.symm.trans (violationAt_of_nil nil))
      exact .unclassified least nil
    · obtain rfl := Option.some.inj (found.symm.trans (violationAt_of_several nil least.1.2))
      exact .repeated least nil
  | none =>
    have placed : ∀ j, ¬c.Misplaced (Snapshot.keysOf device carrier mirror) j := by
      intro j misplaced
      obtain ⟨known, found⟩ := (c.misplaced_iff ..).mp misplaced
      exact found (List.findSome?_eq_none_iff.mp first j known)
    cases second : (KeySet.ofList (c.entries.map Prod.fst)).toList.find?
      fun k => !(Snapshot.keysOf device carrier mirror).contains k with
    | some k =>
      have least := (find?_eq_some_iff_least (KeySet.ofList _).ascending
        (c.stray_iff device carrier mirror)).mp second
      rw [verify_of_stray placed least]
      exact .stray placed least
    | none =>
      have known : ∀ j, ¬c.Stray (Snapshot.keysOf device carrier mirror) j := by
        intro j stray
        obtain ⟨mem, away⟩ := (c.stray_iff ..).mp stray
        exact List.find?_eq_none.mp second j mem away
      have perm := perm_keys_iff_placed.mpr ⟨placed, known⟩
      rw [verify_of_perm perm]
      split
      · next exactly => exact .sound perm (remembersExactly_iff.mp exactly)
      · next mismatch => exact .mismatch perm (mt remembersExactly_iff.mpr mismatch)

/-- It says all that is to be said. -/
theorem verify_of_judged {outcome : Except Failure Unit} (judged : c.Judged device carrier mirror outcome) :
    (c.verify device carrier mirror).mapError (fun v => .invariant v.message) = outcome := by
  cases judged with
  | sound perm remembers =>
    rw [verify_of_perm perm, if_pos (remembersExactly_iff.mpr remembers)]
    rfl
  | unclassified least nil =>
    rw [verify_of_misplaced least (violationAt_of_nil nil)]
    rfl
  | repeated least some =>
    rw [verify_of_misplaced least (violationAt_of_several some least.1.2)]
    rfl
  | stray placed least =>
    rw [verify_of_stray placed least]
    rfl
  | mismatch perm differs =>
    rw [verify_of_perm perm, if_neg (mt remembersExactly_iff.mp differs)]
    rfl

/-- A classification passes the check if its four groups have the keys of the snapshots, each once, and what it says
device and mirror share is what they share, each key once. Otherwise the check names the first fault. -/
theorem verify_decides (c : Classification) (device carrier mirror : Snapshot) :
    (c.verify device carrier mirror = .ok () ↔
      c.keys.Perm (Snapshot.keysOf device carrier mirror).toList ∧ c.Remembers device mirror) ∧
    ∀ outcome : Except Failure Unit,
      (c.verify device carrier mirror).mapError (fun v => .invariant v.message) = outcome ↔
        c.Judged device carrier mirror outcome := by
  refine ⟨⟨fun passed => ?_, fun ⟨perm, remembers⟩ => ?_⟩, fun outcome => ⟨?_, verify_of_judged⟩⟩
  · have judged := judged_verify c device carrier mirror
    rw [passed] at judged
    cases judged with
    | sound perm remembers => exact ⟨perm, remembers⟩
  · rw [verify_of_perm perm, if_pos (remembersExactly_iff.mpr remembers)]
  · rintro rfl
    exact judged_verify c device carrier mirror

end Classification

end MailboxSync
