import MailboxSync.Proofs.CycleSlots
import MailboxSync.Proofs.DeviceUses
import MailboxSync.Proofs.ReadMarks

/-! What a cycle has done that completes, be it that calls failed in its course. -/

namespace MailboxSync

open Memory
open Program (Ends)

/-- About one name a policy asks one thing of the device, or nothing. -/
theorem Slot.device_plan_cases (p : Policy) (s : Slot) : (s.plan p).device.toList = [] ∨
    ∃ a, (s.plan p).device.toList = [a] ∧ p.Owes (s.item.filter (Item.listed p.family)) (s.heard p.family) a :=
  Policy.device_planAt_cases _ _ _

/-- What a transaction that deletes nothing it brings in does bring in was not there. -/
theorem Folder.absent_of_sparing {f g : Folder} {as : List Action} (done : f.performAll as = .ok g)
    (sparing : (Request.applyDevice as).Sparing) {a : Action} (mem : a ∈ as) (insert : a.kind = .insert) :
    f.get? a.id = none := by
  by_contra held
  obtain ⟨i, found⟩ := Option.ne_none_iff_exists'.mp held
  obtain ⟨before, after, rfl⟩ := List.append_of_mem mem
  refine not_collide done ⟨before, a, after, rfl, insert, ?_⟩
  show Action.leavesAll before a.id (f.contains a.id) = true
  rw [Shelf.contains_eq_isSome, ← Action.isSome_alterAll_eq, found]
  by_contra gone
  obtain ⟨b, memB, deletes, same⟩ := Action.deleted_of_alterAll (Option.not_isSome_iff_eq_none.mp gone)
  exact sparing a mem b (List.mem_append_left _ memB) insert deletes same.symm

/-- A transaction that was not rolled back tells how many actions there were. -/
theorem ActionList.outcome_of_settled {σ : Type} {R : Reaction σ} {l : ActionList} {o : DeviceOutcome} {s t : σ}
    (valid : ∀ a ∈ l.toList, a.isValidFor .device = true) (settled : o.isSettled = true)
    (ends : Ends R l.commit s o t) : o = if l.isEmpty then .skipped else .committed l.size := by
  by_cases nothing : l.isEmpty = true
  · rw [commit, if_pos nothing] at ends
    rw [if_pos nothing]
    exact (Program.ends_pure_iff.mp ends).1
  · rw [if_neg nothing]
    rcases commit_cases valid ends with ⟨empty, _, _⟩ | ⟨_, rfl⟩ | ⟨e, _, rfl⟩
    · exact absurd (List.isEmpty_iff.mpr empty) nothing
    · rfl
    · cases settled

namespace Policy

variable {p : Policy} {m m' : Memory} {r : Report}

theorem applied_of_unarmed {faulty : Prop} (unarmed : m.Unarmed)
    (ends : Ends (reacts faulty) p.cycle m (.ok r) m') :
    (∃ items, m.device.items.performAll (p.planOf m).device.toList = .ok items) ∧
      r.device = (if (p.planOf m).device.isEmpty then .skipped else .committed (p.planOf m).device.size) ∧
      r = .ofApplied p.kind (p.planOf m) ⟨r.device, r.carrier⟩ := by
  obtain ⟨m₄, _, committed, -, settled, -, applied⟩ := carried_of_completed unarmed ends
  have valid : ∀ a ∈ (p.planOf m).device.toList, a.isValidFor .device = true :=
    fun _ mem => isValidFor_device_of_mem _ _ _ mem
  refine ⟨?_, ActionList.outcome_of_settled valid settled committed, applied⟩
  rcases ActionList.commit_cases valid committed with
    ⟨empty, _, _⟩ | ⟨answered | ⟨_, e, failed, _⟩, _⟩ | ⟨e, _, rolledBack⟩
  · rw [empty]
    exact ⟨m.device.items, rfl⟩
  · obtain ⟨items, done, _⟩ := m.device.apply_ok (congrArg Prod.fst answered)
    exact ⟨items, done⟩
  · cases failed
  · rw [rolledBack] at settled
    cases settled

theorem planOf_disarmed (p : Policy) (m : Memory) : p.planOf m.disarmed = p.planOf m := rfl

/-- A cycle that completes has carried out its transaction and tried its commands, and reports on them. -/
theorem applied_of_completed (ends : Ends (reacts True) p.cycle m (.ok r) m') :
    (∃ items, m.device.items.performAll (p.planOf m).device.toList = .ok items) ∧
      r.device = (if (p.planOf m).device.isEmpty then .skipped else .committed (p.planOf m).device.size) ∧
      r.carrier.TellsOf (p.planOf m).carrier.toList ∧
      r = .ofApplied p.kind (p.planOf m) ⟨r.device, r.carrier⟩ := by
  -- Faults that were armed are calls that fail.
  have quiet := ends_disarmed ends
  obtain ⟨done, device, applied⟩ := applied_of_unarmed m.unarmed_disarmed quiet
  obtain ⟨tells, -⟩ := obeys_of_completed m.unarmed_disarmed quiet
  rw [planOf_disarmed] at done device applied tells
  exact ⟨done, device, tells, applied⟩

/-- What a completed cycle brought in was not there. -/
theorem absent_of_insert (ends : Ends (reacts True) p.cycle m (.ok r) m') {a : Action}
    (mem : a ∈ (p.planOf m).device.toList) (insert : a.kind = .insert) : m.deviceItem a.id = none := by
  obtain ⟨⟨items, done⟩, -⟩ := applied_of_completed ends
  exact Folder.absent_of_sparing done sparing_of_planned mem insert

/-- The commands for one name that a report says were carried out, and the slot as they leave it. -/
theorem obeyed_of_completed (ends : Ends (reacts True) p.cycle m (.ok r) m') (k : String) :
    ∃ u, Slot.Obeys True ((m.slot k).plan p).carrier.toList ((m.slot k).transacted (p.alters m k))
        (r.carrier.completed.filter fun a => a.id = k) u ∧
      m'.deviceItem k = u.item ∧ m'.device.content k = u.content := by
  -- Faults that were armed are calls that fail.
  obtain ⟨-, effects⟩ := obeys_of_completed m.unarmed_disarmed (ends_disarmed ends)
  obtain ⟨u, obeys, after⟩ := effects k
  exact ⟨u, obeys, congrArg Slot.item after, congrArg Slot.content after⟩

end Policy

end MailboxSync
