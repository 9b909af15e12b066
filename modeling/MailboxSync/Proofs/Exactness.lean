import MailboxSync.Proofs.CycleParts
import MailboxSync.Proofs.CycleSlots

namespace MailboxSync

open Program (Ends)

namespace Snapshot

theorem retain_observe (s : Snapshot) (f : Family) (a : Action) :
    (s.observe a).retain f = (s.retain f).observe a := by
  refine ext_get? fun k => ?_
  rw [get?_retain, get?_observe, get?_observe, get?_retain]
  by_cases own : a.id = k
  · rw [if_pos own, if_pos own]
    unfold Action.observe
    cases a.kind with
    | insert | fetchContent => rfl
    | delete => rfl
    | markAsRead => exact Option.filter_map
  · rw [if_neg own, if_neg own]

/-- It is one whether a listing is restricted to a family before or after commands are noted in it. -/
theorem retain_observeAll (s : Snapshot) (f : Family) (completed : List Action) :
    (s.observeAll completed).retain f = (s.retain f).observeAll completed := by
  induction completed generalizing s with
  | nil => rfl
  | cons a rest ih =>
    show ((s.observe a).observeAll rest).retain f = ((s.retain f).observe a).observeAll rest
    rw [ih, retain_observe]

end Snapshot

namespace Carrier

/-- The commands of a list that the carrier carries out when it is given one after the other, and the
carrier as they leave it. -/
def applyAll : List Action → Carrier → List Action × Carrier
  | [], c => ([], c)
  | a :: rest, c =>
    let (x, c) := c.apply a
    let (completed, c) := applyAll rest c
    (if x.isOk then a :: completed else completed, c)

variable {c c' : Carrier}

theorem snapshot_congr (same : c'.recordings = c.recordings) : c'.snapshot = c.snapshot := by
  rw [snapshot, same, snapshot]

theorem list_congr (fault : c'.listFault = c.listFault) (same : c'.snapshot = c.snapshot) :
    c'.list.1 = c.list.1 := by
  simp only [list, fault, same]
  cases c.listFault <;> rfl

variable (c)

theorem snapshot_remove (id : String) : (c.remove id).snapshot = c.snapshot.remove id := by
  refine Snapshot.ext_get? fun k => ?_
  rw [Snapshot.get?_remove, get?_snapshot, get?_snapshot, get?_remove]
  split <;> rfl

theorem snapshot_markRead (id : String) : (c.markRead id).snapshot = c.snapshot.markRead id := by
  refine Snapshot.ext_get? fun k => ?_
  rw [Snapshot.get?_markRead, get?_snapshot, get?_snapshot, get?_markRead]
  split
  · rw [Option.map_map, Option.filter_map, Option.filter_map, Option.map_map]
    rfl
  · rfl

/-- A command changes what the carrier lists exactly as it is noted, and one that fails does not. -/
theorem snapshot_apply (a : Action) : (c.apply a).2.snapshot =
    if (c.apply a).1.isOk then c.snapshot.observe a else c.snapshot := by
  cases outcome : (c.apply a).1 with
  | error e => exact snapshot_congr (c.apply_error outcome)
  | ok _ =>
    rcases c.apply_ok outcome with ⟨kind, after⟩ | ⟨kind, _, after⟩
    · rw [snapshot_congr after, snapshot_remove, Snapshot.observe, kind]
      rfl
    · rw [snapshot_congr after, snapshot_markRead, Snapshot.observe, kind]
      rfl

theorem listFault_apply (a : Action) : (c.apply a).2.listFault = c.listFault := by
  unfold apply
  split
  · rfl
  · split
    · rfl
    · split <;> rfl
    · rfl
    · rfl

theorem listFault_fetchContent (i : Item) : (c.fetchContent i).2.listFault = c.listFault := by
  unfold fetchContent
  split
  · rfl
  · split <;> rfl

theorem list_apply (a : Action) : (c.apply a).2.list.1 =
    c.list.1.map fun s => if (c.apply a).1.isOk then s.observe a else s := by
  simp only [list, listFault_apply, snapshot_apply]
  cases c.listFault <;> rfl

theorem list_fetchContent (i : Item) : (c.fetchContent i).2.list.1 = c.list.1 :=
  list_congr (c.listFault_fetchContent i) (snapshot_congr (c.recordings_fetchContent i))

/-- What the carrier lists after any commands is what it listed before, with those noted that it has
carried out. -/
theorem list_applyAll (as : List Action) : (applyAll as c).2.list.1 =
    c.list.1.map fun s => s.observeAll (applyAll as c).1 := by
  induction as generalizing c with
  | nil =>
    show c.list.1 = c.list.1.map id
    rw [Except.map_id]
    rfl
  | cons a rest ih =>
    show (applyAll rest (c.apply a).2).2.list.1 = _
    rw [ih, list_apply]
    simp only [applyAll]
    cases c.list.1 with
    | error e => rfl
    | ok s => cases (c.apply a).1 <;> rfl

end Carrier

/-- The calls after the carrier has been listed that ask it for no change. -/
def Method.sparesCarrier : Method → Bool
  | listMirror | applyDevice | storeContent | fetchContent | replaceMirror => true
  | listDevice | listCarrier | applyCarrier => false

namespace Memory

variable {m m' : Memory} {r : Request} {x : r.Answer}

/-- Device and mirror may change between any two calls, and any call may fail and change nothing. The
carrier changes from outside only before it is listed. -/
def undisturbed : Reaction Memory := fun r m x m' =>
  ∃ m₁ : Memory, (r.method = .listDevice ∨ r.method = .listCarrier ∨ m₁.carrier = m.carrier) ∧
    reacts True r m₁ x m'

theorem list_of_command {a : Action} {x : Except Failure Unit}
    (reply : undisturbed (.applyCarrier a) m x m') : m'.carrier.list.1 =
      m.carrier.list.1.map fun s => if x.isOk then s.observe a else s := by
  obtain ⟨m₁, rest, answered | ⟨_, e, rfl, rfl⟩⟩ := reply
  · have same : m₁.carrier = m.carrier := by simpa [Request.method] using rest
    rw [← same]
    have after := m₁.carrier.list_apply a
    cases answered
    exact after
  · have same : m'.carrier = m.carrier := by simpa [Request.method] using rest
    rw [same]
    exact (congrFun Except.map_id _).symm

theorem list_of_spared (spared : r.method.sparesCarrier = true) (reply : undisturbed r m x m') :
    m'.carrier.list.1 = m.carrier.list.1 := by
  obtain ⟨m₁, rest, reply⟩ := reply
  have same : m₁.carrier = m.carrier := by
    rcases rest with early | early | same
    · rw [early] at spared
      cases spared
    · rw [early] at spared
      cases spared
    · exact same
  rw [← same]
  rcases reply with answered | ⟨_, e, _, rfl⟩
  · have after : m'.carrier = (m₁.answer r).2.carrier := by rw [answered]
    rw [after]
    cases r with
    | listDevice | listCarrier | applyCarrier => cases spared
    | listMirror | applyDevice | storeContent | replaceMirror => rfl
    | fetchContent i => exact m₁.carrier.list_fetchContent i
  · rfl

end Memory

open Memory

variable {m m' : Memory}

namespace Action

variable {a : Action}

theorem list_of_executes {x : Except Failure Unit} (executes : Executes undisturbed a m x m') :
    m'.carrier.list.1 = m.carrier.list.1.map fun s => if x.isOk then s.observe a else s := by
  have fetch : a.kind = .fetchContent → ∀ s : Snapshot, (if x.isOk then s.observe a else s) = s := by
    intro kind s
    rw [Snapshot.observe, kind]
    exact ite_self s
  cases executes with
  | misplaced _ => exact (congrFun Except.map_id _).symm
  | command _ _ reply => exact list_of_command reply
  | withheld _ kind reply =>
    rw [list_of_spared rfl reply]
    exact (congrFun Except.map_id _).symm
  | fetched _ kind reply kept =>
    rw [list_of_spared rfl kept, list_of_spared rfl reply]
    simp only [fetch kind]
    exact (congrFun Except.map_id _).symm

theorem list_of_attemptAll {as : List Action} {o : CarrierOutcome}
    (ends : Ends undisturbed (attemptAll as) m o m') :
    m'.carrier.list.1 = m.carrier.list.1.map fun s => s.observeAll o.completed := by
  induction as generalizing m o with
  | nil =>
    obtain ⟨rfl, rfl⟩ := Program.ends_pure_iff.mp ends
    exact (congrFun Except.map_id _).symm
  | cons a rest ih =>
    obtain ⟨x, m₁, o', rfl, first, later⟩ := attemptAll_cases ends
    rw [ih later, list_of_executes (executes_of_ends first)]
    cases x with
    | ok _ => cases m.carrier.list.1 <;> rfl
    | error e => cases m.carrier.list.1 <;> rfl

end Action

theorem ActionList.list_of_commit {l : ActionList} (valid : ∀ a ∈ l.toList, a.isValidFor .device = true)
    {o : DeviceOutcome} (ends : Ends undisturbed l.commit m o m') :
    m'.carrier.list.1 = m.carrier.list.1 := by
  rcases commit_cases valid ends with ⟨_, _, rfl⟩ | ⟨reply, _⟩ | ⟨e, reply, _⟩
  · rfl
  · exact list_of_spared rfl reply
  · exact list_of_spared rfl reply

namespace Memory

theorem list_of_listing {s : Snapshot} (reply : undisturbed .listCarrier m (.ok s) m') :
    m'.carrier.list.1 = .ok s := by
  obtain ⟨m₁, _, answered | ⟨_, e, failed, _⟩⟩ := reply
  · obtain ⟨listed, rfl⟩ :
        m₁.carrier.list.1 = .ok s ∧ { m₁ with carrier := m₁.carrier.list.2 } = m' := Prod.mk.inj answered
    show m₁.carrier.list.2.list.1 = .ok s
    rw [(m₁.carrier.list_ok listed).2, listed]
  · cases failed

theorem snapshot_of_renewal {s : Snapshot} (reply : undisturbed (.replaceMirror s) m (.ok ()) m') :
    m'.mirror.snapshot = s := by
  obtain ⟨m₁, _, answered | ⟨_, e, failed, _⟩⟩ := reply
  · obtain ⟨done, rfl⟩ : (m₁.mirror.replaceWith s).1 = .ok () ∧
        { m₁ with mirror := (m₁.mirror.replaceWith s).2 } = m' := Prod.mk.inj answered
    exact m₁.mirror.replaceWith_ok s done
  · cases failed

end Memory

namespace Policy

variable {p : Policy}

theorem mirrors_of_ends {r : Report} (ends : Ends undisturbed p.cycle m (.ok r) m') :
    ∃ s, m'.carrier.list.1 = .ok s ∧ m'.mirror.list = .ok (s.retain p.family) := by
  generalize outcome : Except.ok r = x at ends
  cases passes_of_ends ends with
  | noDevice | noCarrier | noMirror => cases outcome
  | @through d _ c m₂ m _ o m₄ sent m₅ _ _ first second third committed attempted concluded =>
    have before : m₄.carrier.list.1 = .ok c := by
      rw [ActionList.list_of_commit isValidFor_device_of_planned committed, list_of_spared rfl third,
        list_of_listing second]
    have after := Action.list_of_attemptAll attempted
    rw [before] at after
    rcases conclude_cases concluded with ⟨_, _, rfl, _⟩ | ⟨_, ⟨renewal, _⟩ | ⟨_, _, rfl⟩⟩
    · cases outcome
    · refine ⟨c.observeAll sent.completed, ?_, ?_⟩
      · rw [list_of_spared rfl renewal, after]
        rfl
      · rw [Mirror.list, snapshot_of_renewal renewal, Snapshot.retain_observeAll]
    · cases outcome

/-- After a cycle that completes the mirror is what the carrier lists, whichever commands failed. More
generally, to note completed commands in the carrier's listing is to list it once they are done, for any
commands in any order, be they sent by a cycle or one by one. -/
theorem completed_cycle_mirrors (p : Policy) :
    (∀ m r m', Ends undisturbed p.cycle m (.ok r) m' →
        ∃ s, m'.carrier.list.1 = .ok s ∧ m'.mirror.list = .ok (s.retain p.family)) ∧
      (∀ as m o m', Ends undisturbed (Action.attemptAll as) m o m' → m'.carrier.list.1 =
        m.carrier.list.1.map fun s => s.observeAll o.completed) ∧
      ∀ as c, (Carrier.applyAll as c).2.list.1 =
        c.list.1.map fun s => s.observeAll (Carrier.applyAll as c).1 := by
  refine ⟨?_, ?_, ?_⟩
  · intro m r m' ends
    exact mirrors_of_ends ends
  · intro as m o m' ends
    exact Action.list_of_attemptAll ends
  · intro as c
    exact c.list_applyAll as

theorem undisturbed_answer (r : Request) (m : Memory) :
    undisturbed r m (m.answer r).1 (m.answer r).2 := ⟨m, Or.inr (Or.inr rfl), Or.inl rfl⟩

/-- The user took two messages off the device, and the carrier is going to refuse to delete the first. -/
def reluctant : Memory where
  carrier := { ({} : Carrier).seed [.voicemail "a", .voicemail "b"] with actionFaults := .ofList ["a"] }
  mirror := ({} : Mirror).seed [.voicemail "a", .voicemail "b"]

theorem reluctant_mirrored :
    ∃ r m', Ends undisturbed fullSync.cycle reluctant (.ok r) m' ∧ m'.mirror.snapshot.keys = ["a"] ∧
      ∃ s, m'.carrier.list.1 = .ok s ∧ m'.mirror.list = .ok (s.retain .voicemail) := by
  have ends := Program.ends_run undisturbed_answer fullSync.cycle reluctant
  have completes : (fullSync.cycle.run Memory.answer reluctant).1.isOk = true := by decide +kernel
  have left : (fullSync.cycle.run Memory.answer reluctant).2.mirror.snapshot.keys = ["a"] := by
    decide +kernel
  cases outcome : (fullSync.cycle.run Memory.answer reluctant).1 with
  | error e =>
    rw [outcome] at completes
    cases completes
  | ok r =>
    rw [outcome] at ends
    exact ⟨r, _, ends, left, (completed_cycle_mirrors fullSync).1 _ _ _ ends⟩

end Policy

end MailboxSync
