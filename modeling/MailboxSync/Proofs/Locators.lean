import MailboxSync.Orchestrator
import MailboxSync.Proofs.Matching

namespace MailboxSync

/-! Where content can be found is for those who play it. No cycle looks at it: whatever a cycle makes of
items without their locators, it makes of the items as they are. -/

/-- The item with its locator left blank. Whether it has one can still be told. -/
def Item.unlocated (i : Item) : Item := { i with uri := i.uri.map fun _ => "" }

@[simp] theorem Item.unlocated_id (i : Item) : i.unlocated.id = i.id := rfl

namespace Snapshot

def unlocated (s : Snapshot) : Snapshot :=
  ⟨s.shelf.map Item.unlocated Item.unlocated_id, by
    intro j mem
    obtain ⟨i, held, rfl⟩ := List.mem_map.mp mem
    exact s.keyed i held⟩

variable (s : Snapshot)

theorem toList_unlocated : s.unlocated.toList = s.toList.map Item.unlocated := rfl

theorem get?_unlocated (k : String) : s.unlocated.get? k = (s.get? k).map Item.unlocated :=
  s.shelf.get?_map _ Item.unlocated_id k

theorem contains_unlocated (k : String) : s.unlocated.contains k = s.contains k := by
  rw [contains_eq_isSome, contains_eq_isSome, get?_unlocated, Option.isSome_map]

theorem retain_unlocated (f : Family) : s.unlocated.retain f = (s.retain f).unlocated := by
  apply ext_get?
  intro k
  rw [get?_retain, get?_unlocated, get?_unlocated, get?_retain, Option.filter_map]
  rfl

end Snapshot

def Action.unlocated (a : Action) : Action := { a with item := a.item.unlocated }

namespace ActionList

def unlocated (l : ActionList) : ActionList := ⟨l.toList.map Action.unlocated, List.pairwise_map.mpr l.distinct⟩

theorem ext {l m : ActionList} (same : l.toList = m.toList) : l = m := by
  cases l
  cases m
  cases same
  rfl

theorem unlocated_push (l : ActionList) (a : Action) : (l.push a).unlocated = l.unlocated.push a.unlocated := by
  have accepts : l.unlocated.accepts a.unlocated = l.accepts a := by
    simp only [ActionList.accepts, unlocated, List.all_map]
    rfl
  apply ext
  rw [toList_push, accepts]
  show (l.push a).toList.map _ = _
  rw [toList_push]
  split
  · exact List.map_append
  · rfl

theorem unlocated_foldl_push (as : List Action) (l : ActionList) :
    (as.foldl push l).unlocated = (as.map Action.unlocated).foldl push l.unlocated := by
  induction as generalizing l with
  | nil => rfl
  | cons a rest ih => rw [List.foldl_cons, ih, unlocated_push, List.map_cons, List.foldl_cons]

theorem unlocated_ofList (as : List Action) : (ofList as).unlocated = ofList (as.map Action.unlocated) :=
  unlocated_foldl_push as empty

theorem size_unlocated (l : ActionList) : l.unlocated.size = l.size := List.length_map _

theorem count_unlocated (l : ActionList) (k : ActionKind) : l.unlocated.count k = l.count k := by
  simp only [count, unlocated, List.filter_map, List.length_map]
  rfl

end ActionList

namespace Plan

def unlocated (p : Plan) : Plan := ⟨p.device.unlocated, p.carrier.unlocated⟩

theorem unlocated_ofList (as : List Action) : (ofList as).unlocated = ofList (as.map Action.unlocated) := by
  have device := device_ofList (as.map Action.unlocated)
  have carrier := carrier_ofList (as.map Action.unlocated)
  rw [List.filter_map, ← ActionList.unlocated_ofList] at device carrier
  rw [unlocated, device_ofList, carrier_ofList]
  exact (congrArg₂ Plan.mk device carrier).symm

end Plan

namespace Classification

def unlocated (c : Classification) : Classification where
  deviceOnly := c.deviceOnly.map Item.unlocated
  carrierOnly := c.carrierOnly.map fun e => ⟨e.carrier.unlocated, e.mirror.map Item.unlocated⟩
  both := c.both.map fun s => ⟨s.device.unlocated, s.carrier.unlocated⟩
  mirrorOnly := c.mirrorOnly.map Item.unlocated
  remembered := c.remembered.map fun r => ⟨r.device.unlocated, r.mirror.unlocated⟩

end Classification

theorem classify_unlocated (device carrier mirror : Snapshot) :
    classify device.unlocated carrier.unlocated mirror.unlocated =
      (classify device carrier mirror).unlocated := by
  simp only [classify, Classification.unlocated, Snapshot.toList_unlocated, Snapshot.contains_unlocated,
    Snapshot.get?_unlocated, List.filter_map, List.filterMap_map, List.map_filterMap, List.map_map,
    Function.comp_def, Option.map_map, Item.unlocated_id]

namespace Policy

/-- The policy does not ask its probe where content can be found. -/
def IgnoresLocators (p : Policy) : Prop := ∀ probe, p = .greetingSync probe → ∀ i : Item, probe i.unlocated = probe i

/-- A probe that goes by length looks at nothing else. -/
theorem ignoresLocators_ofKind (kind : PolicyKind) (probe : ContentProbe) : (ofKind kind probe).IgnoresLocators := by
  intro findsEmpty same i
  cases kind with
  | greetingSync =>
    cases same
    rfl
  | fullSync | noLocalDeletion => cases same

variable (p : Policy)

theorem onDeviceOnly_unlocated (i : Item) : p.onDeviceOnly i.unlocated = (p.onDeviceOnly i).map Action.unlocated := by
  cases p with
  | fullSync | greetingSync => rfl
  | noLocalDeletion =>
    unfold onDeviceOnly
    rw [apply_ite (List.map _)]
    rfl

theorem onCarrierOnly_unlocated (e : CarrierOnly) :
    p.onCarrierOnly ⟨e.carrier.unlocated, e.mirror.map Item.unlocated⟩ =
      (p.onCarrierOnly e).map Action.unlocated := by
  obtain ⟨c, m⟩ := e
  cases p <;> cases m <;> rfl

theorem onBoth_unlocated (ignores : p.IgnoresLocators) (s : Shared) :
    p.onBoth ⟨s.device.unlocated, s.carrier.unlocated⟩ = (p.onBoth s).map Action.unlocated := by
  cases p with
  | fullSync | noLocalDeletion =>
    obtain ⟨⟨_, _, read, content, _, _⟩, ⟨_, _, heard, _, _, _⟩⟩ := s
    cases read <;> cases content <;> cases heard <;> rfl
  | greetingSync probe =>
    have found : probe s.device.unlocated = probe s.device := ignores probe rfl s.device
    show (if s.device.hasContent && !probe s.device.unlocated then [] else
      [(⟨.fetchContent, .carrier, s.carrier.unlocated⟩ : Action)]) = _
    unfold onBoth
    rw [found, apply_ite (List.map _)]
    rfl

theorem onRemembered_unlocated (r : Remembered) :
    p.onRemembered ⟨r.device.unlocated, r.mirror.unlocated⟩ = (p.onRemembered r).map Action.unlocated := by
  cases p with
  | fullSync | noLocalDeletion =>
    unfold onRemembered
    rw [apply_ite (List.map _)]
    rfl
  | greetingSync => rfl

theorem onMirrorOnly_unlocated (i : Item) : p.onMirrorOnly i.unlocated = (p.onMirrorOnly i).map Action.unlocated := by
  cases p <;> rfl

theorem actions_unlocated (ignores : p.IgnoresLocators) (c : Classification) :
    p.actions c.unlocated = (p.actions c).map Action.unlocated := by
  simp only [actions, Classification.unlocated, List.flatMap_map, List.map_append, List.map_flatMap,
    onDeviceOnly_unlocated, onCarrierOnly_unlocated, p.onBoth_unlocated ignores, onRemembered_unlocated,
    onMirrorOnly_unlocated]

theorem planned_unlocated (ignores : p.IgnoresLocators) (device carrier mirror : Snapshot) :
    p.planned device.unlocated carrier.unlocated mirror.unlocated = (p.planned device carrier mirror).unlocated := by
  rw [planned, Snapshot.retain_unlocated, Snapshot.retain_unlocated, Snapshot.retain_unlocated, classify_unlocated,
    plan, p.actions_unlocated ignores, ← Plan.unlocated_ofList]
  rfl

end Policy

end MailboxSync
