import MailboxSync.Cycle.Run
import MailboxSync.Proofs.Classification

namespace MailboxSync

namespace ActionList

theorem accepts_iff {l : ActionList} {a : Action} :
    l.accepts a = true ↔ ∀ b ∈ l.toList, b.sameAs a = false := by
  simp [accepts]

/-- Whether a list asks for an action already can be told from its actions on the same item. -/
theorem accepts_eq_of_filter {l m : ActionList} {a : Action}
    (same : (l.toList.filter fun b => b.id = a.id) = m.toList) : l.accepts a = m.accepts a := by
  rw [Bool.eq_iff_iff, accepts_iff, accepts_iff, ← same]
  constructor
  · intro fresh b mem
    exact fresh b (List.mem_filter.mp mem).1
  · intro fresh b mem
    by_cases own : b.id = a.id
    · exact fresh b (by simp [mem, own])
    · simp [Action.sameAs, own]

theorem filter_foldl_push (k : String) (as : List Action) {l m : ActionList}
    (same : (l.toList.filter fun b => b.id = k) = m.toList) :
    ((as.foldl push l).toList.filter fun b => b.id = k) =
      ((as.filter fun b => b.id = k).foldl push m).toList := by
  induction as generalizing l m with
  | nil => exact same
  | cons a rest ih =>
    by_cases own : a.id = k
    · rw [List.filter_cons_of_pos (by simpa using own)]
      refine ih ?_
      subst own
      rw [toList_push, toList_push, accepts_eq_of_filter same]
      split <;> simp [List.filter_append, same]
    · rw [List.filter_cons_of_neg (by simpa using own)]
      refine ih ?_
      rw [toList_push]
      split <;> simp [List.filter_append, same, own]

theorem mem_foldl_push {as : List Action} {l : ActionList} {a : Action}
    (mem : a ∈ (as.foldl push l).toList) : a ∈ l.toList ∨ a ∈ as := by
  induction as generalizing l with
  | nil => exact Or.inl mem
  | cons b rest ih =>
    rcases ih mem with pushed | later
    · rw [toList_push] at pushed
      split at pushed
      · rcases List.mem_append.mp pushed with old | new
        · exact Or.inl old
        · exact Or.inr (List.mem_singleton.mp new ▸ List.mem_cons_self)
      · exact Or.inl pushed
    · exact Or.inr (List.mem_cons_of_mem _ later)

/-- What a list asks for on one item depends on what was pushed for that item, and on no more. -/
theorem filter_ofList (k : String) (as : List Action) :
    ((ofList as).toList.filter fun a => a.id = k) = (ofList (as.filter fun a => a.id = k)).toList :=
  filter_foldl_push k as rfl

end ActionList

namespace Plan

theorem foldl_push (as : List Action) (p : Plan) : as.foldl push p =
    ⟨(as.filter fun a => a.target = .device).foldl ActionList.push p.device,
      (as.filter fun a => a.target = .carrier).foldl ActionList.push p.carrier⟩ := by
  induction as generalizing p with
  | nil => rfl
  | cons a rest ih =>
    rw [List.foldl_cons, ih]
    cases target : a.target <;> simp [push, target]

theorem device_ofList (as : List Action) :
    (ofList as).device = .ofList (as.filter fun a => a.target = .device) :=
  congrArg Plan.device (foldl_push as empty)

theorem carrier_ofList (as : List Action) :
    (ofList as).carrier = .ofList (as.filter fun a => a.target = .carrier) :=
  congrArg Plan.carrier (foldl_push as empty)

/-- Only what was handed to a plan is planned. -/
theorem mem_of_ofList {as : List Action} {a : Action}
    (mem : a ∈ (ofList as).device.toList ∨ a ∈ (ofList as).carrier.toList) : a ∈ as := by
  rw [device_ofList, carrier_ofList] at mem
  rcases mem with mem | mem
  all_goals
    rcases ActionList.mem_foldl_push mem with none | handed
    · cases none
    · exact (List.mem_filter.mp handed).1

end Plan

namespace Policy

variable (p : Policy) (device carrier mirror : Snapshot)

/-! The actions called for by an entry of a category are on the items of that entry. -/

theorem item_of_onDeviceOnly {i : Item} {a : Action} (mem : a ∈ p.onDeviceOnly i) : a.item = i := by
  cases p <;> simp [onDeviceOnly] at mem <;> grind

theorem item_of_onCarrierOnly {e : CarrierOnly} {a : Action} (mem : a ∈ p.onCarrierOnly e) :
    a.item = e.carrier := by
  cases p <;> simp [onCarrierOnly] at mem <;> grind

theorem item_of_onBoth {s : Shared} {a : Action} (mem : a ∈ p.onBoth s) :
    a.item = s.device ∨ a.item = s.carrier := by
  cases p <;> simp [onBoth] at mem <;> grind

theorem item_of_onRemembered {r : Remembered} {a : Action} (mem : a ∈ p.onRemembered r) :
    a.item = r.device := by
  cases p <;> simp [onRemembered] at mem <;> grind

theorem item_of_onMirrorOnly {i : Item} {a : Action} (mem : a ∈ p.onMirrorOnly i) : a.item = i := by
  cases p <;> simp [onMirrorOnly] at mem <;> grind

theorem id_of_mem_onDeviceOnly {i : Item} {a : Action} (mem : a ∈ p.onDeviceOnly i) : a.id = i.id :=
  congrArg Item.id (p.item_of_onDeviceOnly mem)

theorem id_of_mem_onCarrierOnly {e : CarrierOnly} {a : Action} (mem : a ∈ p.onCarrierOnly e) :
    a.id = e.id :=
  congrArg Item.id (p.item_of_onCarrierOnly mem)

theorem id_of_mem_onBoth {s : Shared} {a : Action} (paired : s.carrier.id = s.device.id)
    (mem : a ∈ p.onBoth s) : a.id = s.device.id :=
  (p.item_of_onBoth mem).elim (congrArg Item.id) fun own => (congrArg Item.id own).trans paired

theorem id_of_mem_onRemembered {r : Remembered} {a : Action} (mem : a ∈ p.onRemembered r) :
    a.id = r.device.id :=
  congrArg Item.id (p.item_of_onRemembered mem)

theorem id_of_mem_onMirrorOnly {i : Item} {a : Action} (mem : a ∈ p.onMirrorOnly i) : a.id = i.id :=
  congrArg Item.id (p.item_of_onMirrorOnly mem)

/-- What is called for is about what was listed. -/
theorem item_of_actions {a : Action} (mem : a ∈ p.actions (classify device carrier mirror)) :
    a.item ∈ device.toList ∨ a.item ∈ carrier.toList ∨ a.item ∈ mirror.toList := by
  simp only [actions, classify, List.mem_append, List.mem_flatMap, List.mem_filter, List.mem_map,
    List.mem_filterMap, Option.map_eq_some_iff] at mem
  rcases mem with (((⟨i, ⟨held, _⟩, on⟩ | ⟨_, ⟨i, ⟨held, _⟩, rfl⟩, on⟩) | ⟨_, ⟨i, held, j, other, rfl⟩, on⟩) |
    ⟨_, ⟨i, held, j, _, rfl⟩, on⟩) | ⟨i, ⟨held, _⟩, on⟩
  · exact Or.inl (p.item_of_onDeviceOnly on ▸ held)
  · exact Or.inr (Or.inl (p.item_of_onCarrierOnly on ▸ held))
  · rcases p.item_of_onBoth on with own | own
    · exact Or.inl (own ▸ held)
    · exact Or.inr (Or.inl (own ▸ (Snapshot.get?_eq_some_iff.mp other).1))
  · exact Or.inl (p.item_of_onRemembered on ▸ held)
  · exact Or.inr (Or.inr (p.item_of_onMirrorOnly on ▸ held))

/-- The actions on one item are those called for by that item's share of the classification. -/
theorem filter_actions_classify (k : String) :
    ((p.actions (classify device carrier mirror)).filter fun a => a.id = k) =
      p.actions ((classify device carrier mirror).share k) := by
  have paired : ∀ s ∈ (classify device carrier mirror).both, s.carrier.id = s.device.id := by
    intro s mem
    obtain ⟨i, _, found⟩ := List.mem_filterMap.mp mem
    obtain ⟨c, held, rfl⟩ := Option.map_eq_some_iff.mp found
    exact Snapshot.id_of_get? held
  simp only [actions, List.filter_append, Classification.share]
  rw [filter_flatMap_key (fun i _ _ mem => p.id_of_mem_onDeviceOnly mem),
    filter_flatMap_key (fun e _ _ mem => p.id_of_mem_onCarrierOnly mem),
    filter_flatMap_key (fun s held _ mem => p.id_of_mem_onBoth (paired s held) mem),
    filter_flatMap_key (fun r _ _ mem => p.id_of_mem_onRemembered mem),
    filter_flatMap_key (fun i _ _ mem => p.id_of_mem_onMirrorOnly mem)]

/-- What a policy plans for one item, given what the three listings hold under its name. -/
def planAt (d c m : Option Item) : Plan := p.plan (.ofKey d c m)

theorem filter_device_plan (k : String) :
    ((p.plan (classify device carrier mirror)).device.toList.filter fun a => a.id = k) =
      (p.planAt (device.get? k) (carrier.get? k) (mirror.get? k)).device.toList := by
  rw [planAt, plan, plan, Plan.device_ofList, Plan.device_ofList, ActionList.filter_ofList,
    List.filter_comm, filter_actions_classify, share_classify]

theorem filter_carrier_plan (k : String) :
    ((p.plan (classify device carrier mirror)).carrier.toList.filter fun a => a.id = k) =
      (p.planAt (device.get? k) (carrier.get? k) (mirror.get? k)).carrier.toList := by
  rw [planAt, plan, plan, Plan.carrier_ofList, Plan.carrier_ofList, ActionList.filter_ofList,
    List.filter_comm, filter_actions_classify, share_classify]

/-- Listings never lead to a plan that is refused. -/
theorem planFor_eq : p.planFor device carrier mirror = .ok
    (p.plan (classify (device.retain p.family) (carrier.retain p.family) (mirror.retain p.family))) := by
  simp only [planFor, verify_classify]

end Policy

end MailboxSync
