import Mathlib.Data.List.Basic
import MailboxSync.Classification
import MailboxSync.Proofs.Listing

namespace MailboxSync

/-- If whatever a list's entries give rise to bears their key, then what bears a key is what the
entries of that key give rise to. -/
theorem filter_flatMap_key {α β : Type} {f : α → String} {g : β → String} {h : α → List β}
    {l : List α} (own : ∀ x ∈ l, ∀ y ∈ h x, g y = f x) (k : String) :
    (l.flatMap h).filter (fun y => g y = k) = (l.filter fun x => f x = k).flatMap h := by
  induction l with
  | nil => rfl
  | cons x rest ih =>
    have others := ih fun x' mem => own x' (List.mem_cons_of_mem _ mem)
    rw [List.flatMap_cons, List.filter_append, others]
    have here : ∀ y ∈ h x, g y = f x := own x List.mem_cons_self
    by_cases same : f x = k
    · have all : (h x).filter (fun y => g y = k) = h x := by
        rw [List.filter_eq_self]
        intro y mem
        simp [here y mem, same]
      simp [same, all]
    · have none : (h x).filter (fun y => g y = k) = [] := by
        rw [List.filter_eq_nil_iff]
        intro y mem
        simp [here y mem, same]
      simp [same, none]

namespace Classification

/-- What a classification says of one key. -/
def share (c : Classification) (k : String) : Classification where
  deviceOnly := c.deviceOnly.filter fun i => i.id = k
  carrierOnly := c.carrierOnly.filter fun e => e.id = k
  both := c.both.filter fun s => s.device.id = k
  mirrorOnly := c.mirrorOnly.filter fun i => i.id = k
  remembered := c.remembered.filter fun r => r.device.id = k

/-- How a key is classified, going by what the three snapshots hold under it. -/
def ofKey (device carrier mirror : Option Item) : Classification where
  deviceOnly := if carrier.isSome then [] else device.toList
  carrierOnly := if device.isSome then [] else carrier.toList.map fun i => ⟨i, mirror⟩
  both := device.toList.flatMap fun i => carrier.toList.map (Shared.mk i)
  mirrorOnly := if device.isSome || carrier.isSome then [] else mirror.toList
  remembered := device.toList.flatMap fun i => mirror.toList.map (Remembered.mk i)

theorem categoriesOf_eq_share (c : Classification) (k : String) :
    c.categoriesOf k = (c.share k).entries.map Prod.snd := by
  simp only [categoriesOf, entries, share, List.filter_append, List.filter_map]
  rfl

end Classification

section

variable (device carrier mirror : Snapshot) (k : String)

theorem classify_deviceOnly_filter :
    ((classify device carrier mirror).deviceOnly.filter fun i => i.id = k) =
      if (carrier.get? k).isSome then [] else (device.get? k).toList := by
  show ((device.toList.filter _).filter _) = _
  rw [List.filter_comm, device.filter_id]
  cases found : device.get? k with
  | none => simp
  | some i =>
    obtain rfl := Snapshot.id_of_get? found
    cases other : carrier.get? i.id <;> simp [carrier.contains_eq_isSome, other]

theorem classify_carrierOnly_filter :
    ((classify device carrier mirror).carrierOnly.filter fun e => e.id = k) =
      if (device.get? k).isSome then []
      else (carrier.get? k).toList.map fun i => ⟨i, mirror.get? k⟩ := by
  show (((carrier.toList.filter _).map _).filter _) = _
  rw [List.filter_map, List.filter_comm]
  show ((carrier.toList.filter fun i => i.id = k).filter _).map _ = _
  rw [carrier.filter_id]
  cases found : carrier.get? k with
  | none => simp
  | some i =>
    obtain rfl := Snapshot.id_of_get? found
    cases other : device.get? i.id <;> simp [device.contains_eq_isSome, other]

theorem classify_both_filter :
    ((classify device carrier mirror).both.filter fun s => s.device.id = k) =
      (device.get? k).toList.flatMap fun i => (carrier.get? k).toList.map (Shared.mk i) := by
  show ((device.toList.filterMap _).filter _) = _
  rw [List.filterMap_eq_flatMap_toList, filter_flatMap_key (f := Item.id) _ k, device.filter_id]
  · cases found : device.get? k with
    | none => rfl
    | some i => cases other : carrier.get? k <;> simp [Snapshot.id_of_get? found, other]
  · intro i _ s mem
    obtain ⟨c, _, rfl⟩ := by simpa using mem
    rfl

theorem classify_mirrorOnly_filter :
    ((classify device carrier mirror).mirrorOnly.filter fun i => i.id = k) =
      if (device.get? k).isSome || (carrier.get? k).isSome then [] else (mirror.get? k).toList := by
  show ((mirror.toList.filter _).filter _) = _
  rw [List.filter_comm, mirror.filter_id]
  cases found : mirror.get? k with
  | none => simp
  | some i =>
    obtain rfl := Snapshot.id_of_get? found
    cases onDevice : device.get? i.id <;> cases onCarrier : carrier.get? i.id <;>
      simp [device.contains_eq_isSome, carrier.contains_eq_isSome, onDevice, onCarrier]

theorem classify_remembered_filter :
    ((classify device carrier mirror).remembered.filter fun r => r.device.id = k) =
      (device.get? k).toList.flatMap fun i => (mirror.get? k).toList.map (Remembered.mk i) := by
  show ((device.toList.filterMap _).filter _) = _
  rw [List.filterMap_eq_flatMap_toList, filter_flatMap_key (f := Item.id) _ k, device.filter_id]
  · cases found : device.get? k with
    | none => rfl
    | some i => cases other : mirror.get? k <;> simp [Snapshot.id_of_get? found, other]
  · intro i _ r mem
    obtain ⟨m, _, rfl⟩ := by simpa using mem
    rfl

/-- Each key is classified by itself, whatever the other keys are. -/
theorem share_classify : (classify device carrier mirror).share k =
    .ofKey (device.get? k) (carrier.get? k) (mirror.get? k) := by
  simp only [Classification.share, Classification.ofKey, classify_deviceOnly_filter,
    classify_carrierOnly_filter, classify_both_filter, classify_mirrorOnly_filter,
    classify_remembered_filter]

/-- A key is in no category if no snapshot has it, and otherwise in one. -/
theorem categoriesOf_classify : (classify device carrier mirror).categoriesOf k =
    if (device.get? k).isSome then [if (carrier.get? k).isSome then .both else .deviceOnly]
    else if (carrier.get? k).isSome then [.carrierOnly]
    else if (mirror.get? k).isSome then [.mirrorOnly] else [] := by
  rw [Classification.categoriesOf_eq_share, share_classify]
  cases device.get? k <;> cases carrier.get? k <;> cases mirror.get? k <;> rfl

theorem remembered_keys : ((classify device carrier mirror).remembered.map fun r => r.device.id) =
    device.keys.filter mirror.contains := by
  show (device.toList.filterMap _).map _ = (device.toList.map Item.id).filter _
  induction device.toList with
  | nil => rfl
  | cons i rest ih =>
    cases found : mirror.get? i.id with
    | none => simpa [List.filterMap_cons, mirror.contains_eq_isSome, found] using ih
    | some m => simpa [List.filterMap_cons, mirror.contains_eq_isSome, found] using ih

theorem classify_remembersExactly :
    (classify device carrier mirror).remembersExactly device mirror = true := by
  have ascending : (device.keys.filter mirror.contains).Pairwise (· < ·) :=
    device.keys_ascending.filter _
  have named := KeySet.toList_ofList ascending
  have size : (classify device carrier mirror).remembered.length =
      (device.keys.filter mirror.contains).length := by
    rw [← remembered_keys device carrier mirror, List.length_map]
  simp only [Classification.remembersExactly, remembered_keys, named, Shelf.size, size,
    decide_true, Bool.and_true]

theorem classify_known {k : String} {c : Category}
    (entry : (k, c) ∈ (classify device carrier mirror).entries) :
    k ∈ device.keys ++ carrier.keys ++ mirror.keys := by
  have held : (classify device carrier mirror).categoriesOf k ≠ [] := by
    have mem : (k, c) ∈ (classify device carrier mirror).entries.filter fun e => e.1 = k := by
      simpa using entry
    exact List.ne_nil_of_mem (List.mem_map_of_mem mem)
  rw [categoriesOf_classify] at held
  simp only [List.mem_append, Snapshot.mem_keys_iff, Snapshot.contains_eq_isSome]
  by_contra unknown
  simp only [not_or, Bool.not_eq_true] at unknown
  simp [unknown] at held

/-- What `classify` makes of three snapshots always checks out. -/
theorem verify_classify :
    (classify device carrier mirror).verify device carrier mirror = .ok () := by
  have single : (KeySet.ofList (device.keys ++ carrier.keys ++ mirror.keys)).toList.findSome?
      (classify device carrier mirror).violationAt = none := by
    rw [List.findSome?_eq_none_iff]
    intro k mem
    rw [KeySet.mem_ofList] at mem
    simp only [List.mem_append, Snapshot.mem_keys_iff, Snapshot.contains_eq_isSome] at mem
    simp only [Classification.violationAt, categoriesOf_classify]
    rcases mem with (onDevice | onCarrier) | inMirror
    · simp [onDevice]
    · cases (device.get? k).isSome <;> simp [onCarrier]
    · cases (device.get? k).isSome <;> cases (carrier.get? k).isSome <;> simp [inMirror]
  have noStray : (KeySet.ofList ((classify device carrier mirror).entries.map Prod.fst)).toList.find?
      (fun k => !(KeySet.ofList (device.keys ++ carrier.keys ++ mirror.keys)).contains k) = none := by
    rw [List.find?_eq_none]
    intro k mem
    rw [KeySet.mem_ofList] at mem
    obtain ⟨⟨k, c⟩, entry, rfl⟩ := List.mem_map.mp mem
    have known := classify_known device carrier mirror entry
    rw [← KeySet.mem_ofList, KeySet.mem_iff_contains] at known
    simp only [known, Bool.not_true, Bool.false_eq_true, not_false_eq_true]
  simp only [Classification.verify, single, noStray, classify_remembersExactly, if_true]

end

end MailboxSync
