import MailboxSync.Proofs.Plan

namespace MailboxSync

namespace ActionList

theorem toList_ofList_cons (a : Action) (as : List Action) :
    (ofList (a :: as)).toList = a :: (ofList (as.filter fun b => !a.sameAs b)).toList := by
  suffices general : ∀ (as : List Action) (l m : ActionList), l.toList = a :: m.toList →
      (as.foldl push l).toList = a :: ((as.filter fun b => !a.sameAs b).foldl push m).toList from
    general as (empty.push a) empty rfl
  intro as
  induction as with
  | nil => exact fun l m same => same
  | cons b rest ih =>
    intro l m same
    have asked : l.accepts b = (!a.sameAs b && m.accepts b) := by simp [accepts, same]
    by_cases own : a.sameAs b = true
    · rw [List.filter_cons_of_neg (by simp [own])]
      refine ih _ _ ?_
      rw [toList_push, asked, own]
      exact same
    · rw [List.filter_cons_of_pos (by simpa using own)]
      refine ih _ _ ?_
      rw [toList_push, toList_push, asked]
      split <;> simp_all

@[simp] theorem toList_ofList_nil : (ofList []).toList = [] := rfl

end ActionList

namespace Policy

variable {p : Policy} (d c m : Option Item)

/-- What a policy for messages asks of the device about one of them. -/
theorem device_planAt_of_voicemail (voicemail : p.family = .voicemail) :
    (p.planAt d c m).device.toList =
      match d, c with
      | none, none => []
      | none, some c => if m.isSome then [] else [⟨.insert, .device, c⟩]
      | some d, none => p.onDeviceOnly d
      | some d, some c => if !d.isRead && c.isRead then [⟨.markAsRead, .device, d⟩] else [] := by
  rw [planAt, plan, Plan.device_ofList]
  cases p with
  | greetingSync probe => cases voicemail
  | fullSync | noLocalDeletion =>
    cases d with
    | none => cases c <;> cases m <;> rfl
    | some d =>
      cases c with
      | none =>
        cases m with
        | none =>
          cases read : d.isRead <;>
            simp [actions, Classification.ofKey, onDeviceOnly, read, ActionList.toList_ofList_cons]
        | some m =>
          cases read : d.isRead <;> cases known : m.isRead <;>
            simp [actions, Classification.ofKey, onDeviceOnly, onRemembered, read, known,
              ActionList.toList_ofList_cons]
      | some c =>
        cases m with
        | none =>
          cases read : d.isRead <;> cases far : c.isRead <;> cases held : d.hasContent <;>
            simp [actions, Classification.ofKey, onBoth, read, far, held, ActionList.toList_ofList_cons]
        | some m =>
          cases read : d.isRead <;> cases far : c.isRead <;> cases held : d.hasContent <;>
            cases known : m.isRead <;>
            simp [actions, Classification.ofKey, onBoth, onRemembered, read, far, held, known,
              ActionList.toList_ofList_cons]

/-- What it asks of the carrier. A mark that is asked for on two grounds is asked for once. -/
def messageCommands (d c m : Option Item) : List Action :=
  match d, c with
  | none, none => m.toList.map (Action.mk .delete .carrier)
  | none, some c => if m.isSome then [⟨.delete, .carrier, c⟩] else []
  | some d, none => if d.isRead && m.any (!·.isRead) then [⟨.markAsRead, .carrier, d⟩] else []
  | some d, some c =>
    (if d.hasContent then [] else [⟨.fetchContent, .carrier, c⟩]) ++
      if d.isRead && !c.isRead then [⟨.markAsRead, .carrier, c⟩]
      else if d.isRead && m.any (!·.isRead) then [⟨.markAsRead, .carrier, d⟩]
      else []

/-- About a message that both have there is a fetch if the device lacks the content, and one mark at the
most. -/
theorem messageCommands_of_both (d c : Item) (m : Option Item) : ∃ marks,
    messageCommands (some d) (some c) m =
      (if d.hasContent then [] else [⟨.fetchContent, .carrier, c⟩]) ++ marks ∧
    (marks = [] ∧ (d.isRead = true → c.isRead = true) ∨
      ∃ a, marks = [a] ∧ a.kind = .markAsRead ∧ d.isRead = true) := by
  refine ⟨_, rfl, ?_⟩
  cases near : d.isRead with
  | false => exact Or.inl ⟨rfl, fun read => absurd read Bool.false_ne_true⟩
  | true =>
    cases far : c.isRead with
    | false => exact Or.inr ⟨_, rfl, rfl, rfl⟩
    | true =>
      cases m.any (!·.isRead) with
      | false => exact Or.inl ⟨rfl, fun _ => rfl⟩
      | true => exact Or.inr ⟨_, rfl, rfl, rfl⟩

theorem carrier_planAt_of_voicemail (voicemail : p.family = .voicemail)
    (paired : ∀ i ∈ d, ∀ j ∈ c, i.id = j.id) :
    (p.planAt d c m).carrier.toList = messageCommands d c m := by
  rw [planAt, plan, Plan.carrier_ofList]
  unfold messageCommands
  cases p with
  | greetingSync probe => cases voicemail
  | fullSync | noLocalDeletion =>
    cases d with
    | none => cases c <;> cases m <;> rfl
    | some d =>
      cases c with
      | none =>
        cases m with
        | none =>
          cases read : d.isRead <;>
            simp [actions, Classification.ofKey, onDeviceOnly, read]
        | some m =>
          cases read : d.isRead <;> cases known : m.isRead <;>
            simp [actions, Classification.ofKey, onDeviceOnly, onRemembered, read, known,
              ActionList.toList_ofList_cons]
      | some c =>
        cases m with
        | none =>
          cases read : d.isRead <;> cases far : c.isRead <;> cases held : d.hasContent <;>
            simp [actions, Classification.ofKey, onBoth, read, far, held, ActionList.toList_ofList_cons,
              Action.sameAs]
        | some m =>
          have same : d.id = c.id := paired d rfl c rfl
          cases read : d.isRead <;> cases far : c.isRead <;> cases held : d.hasContent <;>
            cases known : m.isRead <;>
            simp [actions, Classification.ofKey, onBoth, onRemembered, read, far, held, known,
              ActionList.toList_ofList_cons, Action.sameAs, Action.id, same]

/-- Nothing is deleted from the carrier that the device has. -/
theorem kind_ne_delete_of_mem_messageCommands {a : Action} {d : Item} {c m : Option Item}
    (mem : a ∈ messageCommands (some d) c m) : a.kind ≠ .delete := by
  cases c with
  | none =>
    simp only [messageCommands] at mem
    split at mem
    · simp [List.mem_singleton.mp mem]
    · cases mem
  | some c =>
    rcases List.mem_append.mp mem with fetch | mark
    · split at fetch
      · cases fetch
      · simp [List.mem_singleton.mp fetch]
    · split at mark
      · simp [List.mem_singleton.mp mark]
      · split at mark
        · simp [List.mem_singleton.mp mark]
        · cases mark

/-- A greeting on the device alone goes, one on the carrier alone comes in. -/
theorem device_planAt_greetingSync (probe : Item → Bool) :
    ((greetingSync probe).planAt d c m).device.toList =
      match d, c with
      | none, some c => [⟨.insert, .device, c⟩]
      | some d, none => [⟨.delete, .device, d⟩]
      | _, _ => [] := by
  rw [planAt, plan, Plan.device_ofList]
  cases d with
  | none => cases c <;> cases m <;> rfl
  | some d =>
    cases c with
    | none => cases m <;> rfl
    | some c =>
      cases m <;> cases held : d.hasContent <;> cases short : probe d <;>
        simp [actions, Classification.ofKey, onBoth, onRemembered, held, short]

/-- What a policy may ask of the device about an item, by what the device and the carrier have of it. Only what is
missing is brought in, only what the carrier has not is deleted, and only what is there unread is marked. -/
inductive Owes (p : Policy) : Option Item → Option Item → Action → Prop
  | insert {j} : Owes p none (some j) ⟨.insert, .device, j⟩
  | delete {i} : p ≠ noLocalDeletion → Owes p (some i) none ⟨.delete, .device, i⟩
  | mark {i y} : i.isRead = false → Owes p (some i) y ⟨.markAsRead, .device, i⟩

namespace Owes

variable {d c : Option Item} {a : Action}

theorem isValidFor (owes : p.Owes d c a) : a.isValidFor .device = true := by
  cases owes <;> rfl

theorem of_insert (owes : p.Owes d c a) (insert : a.kind = .insert) : d = none ∧ c = some a.item := by
  cases owes with
  | insert => exact ⟨rfl, rfl⟩
  | delete | mark => cases insert

theorem of_delete (owes : p.Owes d c a) (delete : a.kind = .delete) :
    p ≠ noLocalDeletion ∧ d = some a.item ∧ c = none := by
  cases owes with
  | delete others => exact ⟨others, rfl, rfl⟩
  | insert | mark => cases delete

end Owes

/-- About one item a policy asks one thing of the device, or nothing. -/
theorem device_planAt_cases : (p.planAt d c m).device.toList = [] ∨
    ∃ a, (p.planAt d c m).device.toList = [a] ∧ p.Owes d c a := by
  cases p with
  | greetingSync probe =>
    rw [device_planAt_greetingSync]
    split
    · exact Or.inr ⟨_, rfl, .insert⟩
    · exact Or.inr ⟨_, rfl, .delete (by simp)⟩
    · exact Or.inl rfl
  | fullSync =>
    rw [device_planAt_of_voicemail _ _ _ rfl]
    split
    · exact Or.inl rfl
    · split
      · exact Or.inl rfl
      · exact Or.inr ⟨_, rfl, .insert⟩
    · exact Or.inr ⟨_, rfl, .delete (by simp)⟩
    · split
      · next marked => exact Or.inr ⟨_, rfl, .mark (by simpa using (Bool.and_eq_true_iff.mp marked).1)⟩
      · exact Or.inl rfl
  | noLocalDeletion =>
    rw [device_planAt_of_voicemail _ _ _ rfl]
    split
    · exact Or.inl rfl
    · split
      · exact Or.inl rfl
      · exact Or.inr ⟨_, rfl, .insert⟩
    · rw [onDeviceOnly]
      split
      · exact Or.inl rfl
      · next unread => exact Or.inr ⟨_, rfl, .mark (Bool.not_eq_true _ ▸ unread)⟩
    · split
      · next marked => exact Or.inr ⟨_, rfl, .mark (by simpa using (Bool.and_eq_true_iff.mp marked).1)⟩
      · exact Or.inl rfl

variable {d c m} in
theorem owes_of_mem {a : Action} (mem : a ∈ (p.planAt d c m).device.toList) : p.Owes d c a := by
  rcases device_planAt_cases d c m with nothing | ⟨b, one, owes⟩
  · rw [nothing] at mem
    cases mem
  · rw [one] at mem
    obtain rfl := List.mem_singleton.mp mem
    exact owes

theorem device_actions_greetingSync (probe : Item → Bool) (c : Classification) :
    ((greetingSync probe).actions c).filter (fun a => a.target = .device) =
      c.deviceOnly.map (Action.mk .delete .device) ++
        c.carrierOnly.map fun e => Action.mk .insert .device e.carrier := by
  have both : ∀ s : Shared, ((greetingSync probe).onBoth s).filter (fun a => a.target = .device) = [] := by
    intro s
    rw [onBoth]
    split <;> rfl
  simp [actions, List.filter_flatMap, both, onDeviceOnly, onCarrierOnly, onRemembered, onMirrorOnly,
    List.map_eq_flatMap]

theorem device_plan_greetingSync (probe : Item → Bool) (device carrier mirror : Snapshot) :
    ((greetingSync probe).plan (classify device carrier mirror)).device = .ofList
      ((device.filter fun i => !carrier.contains i.id).toList.map (Action.mk .delete .device) ++
        (carrier.filter fun i => !device.contains i.id).toList.map (Action.mk .insert .device)) := by
  rw [plan, Plan.device_ofList, device_actions_greetingSync, classify, List.map_map]
  rfl

/-- The carrier only hands content out. -/
theorem carrier_planAt_greetingSync (probe : Item → Bool) :
    ((greetingSync probe).planAt d c m).carrier.toList =
      match d, c with
      | _, none => []
      | none, some c => [⟨.fetchContent, .carrier, c⟩]
      | some d, some c =>
        if d.hasContent && !probe d then [] else [⟨.fetchContent, .carrier, c⟩] := by
  rw [planAt, plan, Plan.carrier_ofList]
  cases d with
  | none => cases c <;> cases m <;> rfl
  | some d =>
    cases c with
    | none => cases m <;> rfl
    | some c =>
      cases m <;> cases held : d.hasContent <;> cases short : probe d <;>
        simp [actions, Classification.ofKey, onBoth, onRemembered, held, short,
          ActionList.toList_ofList_cons]

section

variable (device carrier mirror : Snapshot)

theorem mem_device_plan_iff {a : Action} :
    a ∈ (p.plan (classify device carrier mirror)).device.toList ↔
      a ∈ (p.planAt (device.get? a.id) (carrier.get? a.id) (mirror.get? a.id)).device.toList := by
  rw [← filter_device_plan]
  simp

theorem mem_carrier_plan_iff {a : Action} :
    a ∈ (p.plan (classify device carrier mirror)).carrier.toList ↔
      a ∈ (p.planAt (device.get? a.id) (carrier.get? a.id) (mirror.get? a.id)).carrier.toList := by
  rw [← filter_carrier_plan]
  simp

/-- A plan asks of the device only what has a place there. -/
theorem isValidFor_device_of_mem {a : Action}
    (mem : a ∈ (p.plan (classify device carrier mirror)).device.toList) :
    a.isValidFor .device = true := by
  rw [mem_device_plan_iff] at mem
  exact (owes_of_mem mem).isValidFor

/-- A plan brings in only what the device has not. -/
theorem get?_eq_none_of_insert {a : Action}
    (mem : a ∈ (p.plan (classify device carrier mirror)).device.toList) (kind : a.kind = .insert) :
    device.get? a.id = none := by
  rw [mem_device_plan_iff] at mem
  exact ((owes_of_mem mem).of_insert kind).1

/-- A plan asks of the carrier only what has a place there. -/
theorem isValidFor_carrier_of_mem {a : Action}
    (mem : a ∈ (p.plan (classify device carrier mirror)).carrier.toList) :
    a.isValidFor .carrier = true := by
  rw [mem_carrier_plan_iff] at mem
  cases p with
  | greetingSync probe =>
    rw [carrier_planAt_greetingSync] at mem
    split at mem <;> simp at mem
    · rw [mem]; rfl
    · rw [mem.2]; rfl
  | fullSync | noLocalDeletion =>
    rw [carrier_planAt_of_voicemail _ _ _ rfl] at mem
    · unfold messageCommands at mem
      split at mem <;> simp at mem
      · obtain ⟨_, _, rfl⟩ := mem
        rfl
      · rw [mem.2]; rfl
      · rw [mem.2]; rfl
      · grind [Action.isValidFor, ActionKind.isValidFor]
    · intro i found j other
      rw [Snapshot.id_of_get? found, Snapshot.id_of_get? other]

end

end Policy

end MailboxSync
