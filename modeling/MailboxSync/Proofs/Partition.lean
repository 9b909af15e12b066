import Mathlib.Data.List.Perm.Basic
import MailboxSync.Proofs.Classification

namespace MailboxSync

/-- The entries bear exactly the keys that are wanted, each once and in ascending order. -/
structure Bears {α : Type} (key : α → String) (entries : List α) (wanted : String → Prop) : Prop where
  ascending : entries.Pairwise fun x y => key x < key y
  keys : ∀ k, (∃ x ∈ entries, key x = k) ↔ wanted k

namespace Bears

variable {α β : Type} {key : α → String} {l m : List α} {wanted : String → Prop}

theorem map {name : β → String} {f : α → β} (bears : Bears key l wanted) (own : ∀ x, name (f x) = key x) :
    Bears name (l.map f) wanted := by
  refine ⟨List.pairwise_map.mpr ?_, fun k => ?_⟩
  · simpa only [own] using bears.ascending
  · rw [← bears.keys]
    simp only [List.mem_map, exists_exists_and_eq_and, own]

theorem wanted_of_mem (bears : Bears key l wanted) {x : α} (mem : x ∈ l) : wanted (key x) :=
  (bears.keys _).mp ⟨x, mem, rfl⟩

/-- Entries are told by their keys if under each key only one thing is right. -/
theorem unique {right : α → Prop} (first : Bears key l wanted) (second : Bears key m wanted)
    (rightFirst : ∀ x ∈ l, right x) (rightSecond : ∀ x ∈ m, right x)
    (single : ∀ x y, right x → right y → key x = key y → x = y) : l = m := by
  have mem_iff {n : List α} (bears : Bears key n wanted) (each : ∀ x ∈ n, right x) (x : α) :
      x ∈ n ↔ wanted (key x) ∧ right x := by
    refine ⟨fun mem => ⟨bears.wanted_of_mem mem, each x mem⟩, fun ⟨asked, own⟩ => ?_⟩
    obtain ⟨y, mem, same⟩ := (bears.keys _).mpr asked
    exact single y x (each y mem) own same ▸ mem
  have same : (⟨l, first.ascending⟩ : Shelf key) = ⟨m, second.ascending⟩ := Shelf.ext_mem fun x => by
    rw [mem_iff first rightFirst, mem_iff second rightSecond]
  exact congrArg Shelf.toList same

end Bears

namespace Snapshot

theorem get?_id {s : Snapshot} {i : Item} : s.get? i.id = some i ↔ i ∈ s.toList := by
  simp [get?_eq_some_iff]

/-- Under a name there is one item. -/
theorem eq_of_id {s : Snapshot} {i j : Item} (one : s.get? i.id = some i) (other : s.get? j.id = some j)
    (same : i.id = j.id) : i = j := by
  rw [same, other] at one
  exact (Option.some.inj one).symm

/-- Some of a snapshot's items, chosen by their names. -/
theorem bears_filter (s : Snapshot) (p : String → Bool) :
    Bears Item.id (s.toList.filter fun i => p i.id) fun k => k ∈ s.keys ∧ p k = true := by
  refine ⟨s.shelf.ascending.filter _, fun k => ?_⟩
  constructor
  · rintro ⟨i, mem, rfl⟩
    exact ⟨List.mem_map_of_mem (List.mem_filter.mp mem).1, (List.mem_filter.mp mem).2⟩
  · rintro ⟨known, chosen⟩
    obtain ⟨i, mem, rfl⟩ := List.mem_map.mp known
    exact ⟨i, List.mem_filter.mpr ⟨mem, chosen⟩, rfl⟩

/-- The items that have one of the same name in another snapshot, together with it. -/
theorem bears_filterMap (s t : Snapshot) {α : Type} {key : α → String} {pair : Item → Item → α}
    (own : ∀ i j, key (pair i j) = i.id) :
    Bears key (s.toList.filterMap fun i => (t.get? i.id).map (pair i)) fun k => k ∈ s.keys ∧ k ∈ t.keys := by
  constructor
  · refine s.shelf.ascending.filterMap _ fun i j lt x made y other => ?_
    obtain ⟨_, _, rfl⟩ := Option.map_eq_some_iff.mp made
    obtain ⟨_, _, rfl⟩ := Option.map_eq_some_iff.mp other
    rwa [own, own]
  · intro k
    simp only [List.mem_filterMap, Option.map_eq_some_iff]
    constructor
    · rintro ⟨_, ⟨i, mem, j, found, rfl⟩, rfl⟩
      rw [own]
      exact ⟨List.mem_map_of_mem mem, mem_keys_iff.mpr (contains_eq_true_iff.mpr ⟨j, found⟩)⟩
    · rintro ⟨known, paired⟩
      obtain ⟨i, mem, rfl⟩ := List.mem_map.mp known
      obtain ⟨j, found⟩ := contains_eq_true_iff.mp (mem_keys_iff.mp paired)
      exact ⟨pair i j, ⟨i, mem, j, found, rfl⟩, own i j⟩

/-- The keys of three snapshots. -/
def keysOf (device carrier mirror : Snapshot) : KeySet := .ofList (device.keys ++ carrier.keys ++ mirror.keys)

theorem mem_keysOf {device carrier mirror : Snapshot} {k : String} :
    k ∈ (keysOf device carrier mirror).toList ↔ k ∈ device.keys ∨ k ∈ carrier.keys ∨ k ∈ mirror.keys := by
  rw [keysOf, KeySet.mem_ofList, List.mem_append, List.mem_append, or_assoc]

theorem isEmpty_iff {s : Snapshot} : s.isEmpty = true ↔ ∀ k, k ∉ s.keys := by
  rw [← List.eq_nil_iff_forall_not_mem]
  exact List.isEmpty_iff.trans List.map_eq_nil_iff.symm

end Snapshot

namespace Classification

/-- Each group has the keys that belong there, and under each key what the snapshots have under it. -/
structure Exact (c : Classification) (device carrier mirror : Snapshot) : Prop where
  deviceOnly : Bears Item.id c.deviceOnly fun k => k ∈ device.keys ∧ k ∉ carrier.keys
  carrierOnly : Bears CarrierOnly.id c.carrierOnly fun k => k ∈ carrier.keys ∧ k ∉ device.keys
  both : Bears (fun s => s.device.id) c.both fun k => k ∈ device.keys ∧ k ∈ carrier.keys
  mirrorOnly : Bears Item.id c.mirrorOnly fun k => k ∈ mirror.keys ∧ k ∉ device.keys ∧ k ∉ carrier.keys
  remembered : Bears (fun r => r.device.id) c.remembered fun k => k ∈ device.keys ∧ k ∈ mirror.keys
  ownDeviceOnly : ∀ i ∈ c.deviceOnly, device.get? i.id = some i
  ownCarrierOnly : ∀ e ∈ c.carrierOnly, carrier.get? e.id = some e.carrier ∧ mirror.get? e.id = e.mirror
  ownBoth : ∀ s ∈ c.both, device.get? s.device.id = some s.device ∧ carrier.get? s.device.id = some s.carrier
  ownMirrorOnly : ∀ i ∈ c.mirrorOnly, mirror.get? i.id = some i
  ownRemembered : ∀ r ∈ c.remembered,
    device.get? r.device.id = some r.device ∧ mirror.get? r.device.id = some r.mirror

/-- There is one exact classification at the most. -/
theorem Exact.unique {c c' : Classification} {device carrier mirror : Snapshot}
    (exact : c.Exact device carrier mirror) (exact' : c'.Exact device carrier mirror) : c = c' := by
  have deviceOnly := exact.deviceOnly.unique exact'.deviceOnly exact.ownDeviceOnly exact'.ownDeviceOnly
    fun _ _ => Snapshot.eq_of_id
  have mirrorOnly := exact.mirrorOnly.unique exact'.mirrorOnly exact.ownMirrorOnly exact'.ownMirrorOnly
    fun _ _ => Snapshot.eq_of_id
  have carrierOnly : c.carrierOnly = c'.carrierOnly := by
    refine exact.carrierOnly.unique exact'.carrierOnly exact.ownCarrierOnly exact'.ownCarrierOnly ?_
    rintro ⟨i, m⟩ ⟨j, n⟩ ⟨far, known⟩ ⟨far', known'⟩ same
    obtain rfl : i = j := Snapshot.eq_of_id far far' same
    obtain rfl : m = n := known.symm.trans known'
    rfl
  have both : c.both = c'.both := by
    refine exact.both.unique exact'.both exact.ownBoth exact'.ownBoth ?_
    rintro ⟨i, m⟩ ⟨j, n⟩ ⟨near, far⟩ ⟨near', far'⟩ same
    obtain rfl : i = j := Snapshot.eq_of_id near near' same
    obtain rfl : m = n := Option.some.inj (far.symm.trans far')
    rfl
  have remembered : c.remembered = c'.remembered := by
    refine exact.remembered.unique exact'.remembered exact.ownRemembered exact'.ownRemembered ?_
    rintro ⟨i, m⟩ ⟨j, n⟩ ⟨near, known⟩ ⟨near', known'⟩ same
    obtain rfl : i = j := Snapshot.eq_of_id near near' same
    obtain rfl : m = n := Option.some.inj (known.symm.trans known')
    rfl
  obtain ⟨_, _, _, _, _⟩ := c
  obtain ⟨_, _, _, _, _⟩ := c'
  subst deviceOnly carrierOnly both mirrorOnly remembered
  rfl

/-- The keys of the four groups that divide the stores' keys, with repetition. -/
def keys (c : Classification) : List String :=
  c.deviceOnly.map Item.id ++ c.carrierOnly.map CarrierOnly.id ++ c.both.map (fun s => s.device.id) ++
    c.mirrorOnly.map Item.id

theorem keys_eq_entries (c : Classification) : c.keys = c.entries.map Prod.fst := by
  simp only [keys, entries, List.map_append, List.map_map]
  rfl

theorem count_keys (c : Classification) (k : String) : c.keys.count k = (c.categoriesOf k).length := by
  rw [keys_eq_entries, categoriesOf, List.length_map, List.count_eq_countP, List.countP_map,
    List.countP_eq_length_filter]
  rfl

/-- The groups divide the keys if each key is in one category, and no other key in any. -/
theorem perm_keys_iff {c : Classification} {known : KeySet} : c.keys.Perm known.toList ↔
    ∀ k, (c.categoriesOf k).length = if k ∈ known.toList then 1 else 0 := by
  rw [List.perm_iff_count]
  simp only [count_keys, known.nodup.count]

end Classification

section

variable (device carrier mirror : Snapshot)

theorem exact_classify : (classify device carrier mirror).Exact device carrier mirror where
  deviceOnly := by
    simpa [classify, Snapshot.mem_keys_iff] using device.bears_filter fun k => !carrier.contains k
  carrierOnly := by
    have alone : Bears Item.id (carrier.toList.filter fun i => !device.contains i.id)
        fun k => k ∈ carrier.keys ∧ k ∉ device.keys := by
      simpa [Snapshot.mem_keys_iff] using carrier.bears_filter fun k => !device.contains k
    exact alone.map fun _ => rfl
  both := device.bears_filterMap carrier fun _ _ => rfl
  mirrorOnly := by
    simpa [classify, Snapshot.mem_keys_iff, and_comm] using
      mirror.bears_filter fun k => !carrier.contains k && !device.contains k
  remembered := device.bears_filterMap mirror fun _ _ => rfl
  ownDeviceOnly := fun i mem => Snapshot.get?_id.mpr (List.mem_filter.mp mem).1
  ownCarrierOnly := by
    intro e mem
    obtain ⟨i, held, rfl⟩ := List.mem_map.mp mem
    exact ⟨Snapshot.get?_id.mpr (List.mem_filter.mp held).1, rfl⟩
  ownBoth := by
    intro s mem
    obtain ⟨i, held, made⟩ := List.mem_filterMap.mp mem
    obtain ⟨j, found, rfl⟩ := Option.map_eq_some_iff.mp made
    exact ⟨Snapshot.get?_id.mpr held, found⟩
  ownMirrorOnly := fun i mem => Snapshot.get?_id.mpr (List.mem_filter.mp mem).1
  ownRemembered := by
    intro r mem
    obtain ⟨i, held, made⟩ := List.mem_filterMap.mp mem
    obtain ⟨j, found, rfl⟩ := Option.map_eq_some_iff.mp made
    exact ⟨Snapshot.get?_id.mpr held, found⟩

/-- Each key of the snapshots is in one of the four groups, and once. -/
theorem perm_keys_classify : (classify device carrier mirror).keys.Perm
    (Snapshot.keysOf device carrier mirror).toList := by
  rw [Classification.perm_keys_iff]
  intro k
  simp only [categoriesOf_classify, Snapshot.mem_keysOf, Snapshot.mem_keys_iff, Snapshot.contains_eq_isSome]
  cases (device.get? k).isSome <;> cases (carrier.get? k).isSome <;> cases (mirror.get? k).isSome <;> rfl

theorem isEmpty_classify : (classify device carrier mirror).isEmpty = true ↔
    device.isEmpty = true ∧ carrier.isEmpty = true ∧ mirror.isEmpty = true := by
  constructor
  · intro empty
    simp only [Classification.isEmpty, Bool.and_eq_true, List.isEmpty_iff] at empty
    obtain ⟨⟨⟨⟨deviceOnly, carrierOnly⟩, both⟩, mirrorOnly⟩, -⟩ := empty
    have none : (Snapshot.keysOf device carrier mirror).toList = [] := by
      have perm := perm_keys_classify device carrier mirror
      rw [Classification.keys, deviceOnly, carrierOnly, both, mirrorOnly] at perm
      exact perm.nil_eq.symm
    have unknown (k : String) : ¬(k ∈ device.keys ∨ k ∈ carrier.keys ∨ k ∈ mirror.keys) := by
      rw [← Snapshot.mem_keysOf, none]
      exact List.not_mem_nil
    simp only [not_or] at unknown
    simp only [Snapshot.isEmpty_iff]
    exact ⟨fun k => (unknown k).1, fun k => (unknown k).2.1, fun k => (unknown k).2.2⟩
  · rintro ⟨noDevice, noCarrier, noMirror⟩
    have nil {s : Snapshot} (empty : s.isEmpty = true) : s.toList = [] := List.isEmpty_iff.mp empty
    simp [classify, Classification.isEmpty, nil noDevice, nil noCarrier, nil noMirror]

/-- Classifying gives the exact classification, and that is the only one. It divides the keys, it is
empty only of empty snapshots, and it checks out. -/
theorem classify_exact :
    (∀ c : Classification, c.Exact device carrier mirror ↔ c = classify device carrier mirror) ∧
    (classify device carrier mirror).keys.Perm (Snapshot.keysOf device carrier mirror).toList ∧
    ((classify device carrier mirror).isEmpty = true ↔
      device.isEmpty = true ∧ carrier.isEmpty = true ∧ mirror.isEmpty = true) ∧
    (classify device carrier mirror).verify device carrier mirror = .ok () := by
  refine ⟨fun c => ⟨fun exact => exact.unique (exact_classify ..), ?_⟩, perm_keys_classify .., isEmpty_classify ..,
    verify_classify ..⟩
  rintro rfl
  exact exact_classify ..

end

end MailboxSync
