import MailboxSync.Proofs.Locators
import MailboxSync.Proofs.ReadMarks

namespace MailboxSync

open Program (ask Matches)

/-! What stores have to agree on so that a cycle comes to the same end with either of them. -/

namespace Failure

/-- The failure without its text: what failed, and on what. -/
def untold : Failure → Failure
  | snapshotFetch store _ => .snapshotFetch store ""
  | localTransaction _ => .localTransaction ""
  | remoteAction action id _ => .remoteAction action id ""
  | invariant _ => .invariant ""
  | mirrorUpdate _ => .mirrorUpdate ""
  | invalidAction _ => .invalidAction ""
  | itemNotFound id => .itemNotFound id
  | database _ => .database ""
  | config _ => .config ""
  | io _ => .io ""
  | other _ => .other ""

theorem untold_asSnapshotFetch (store : String) (e : Failure) :
    (e.asSnapshotFetch store).untold = (e.untold.asSnapshotFetch store).untold := by
  cases e <;> rfl

theorem untold_asLocalTransaction (e : Failure) :
    e.asLocalTransaction.untold = e.untold.asLocalTransaction.untold := by
  cases e <;> rfl

theorem untold_asRemoteAction (action id : String) (e : Failure) :
    (e.asRemoteAction action id).untold = (e.untold.asRemoteAction action id).untold := by
  cases e <;> rfl

end Failure

/-! The account of a cycle, with its failures and its actions told in another way. -/

section

variable (f : Failure → Failure) (g : Action → Action)

def DeviceOutcome.retell : DeviceOutcome → DeviceOutcome
  | skipped => .skipped
  | committed n => .committed n
  | rolledBack e => .rolledBack (f e)

def CarrierOutcome.retell (o : CarrierOutcome) : CarrierOutcome :=
  { o with completed := o.completed.map g, failures := o.failures.map fun x => (g x.1, f x.2) }

def Applied.retell (a : Applied) : Applied := ⟨a.device.retell f, a.carrier.retell f g⟩

def Report.retell (r : Report) : Report :=
  { r with device := r.device.retell f, carrier := r.carrier.retell f g }

def Outcome.retell : Outcome → Outcome
  | completed r => .completed (r.retell f g)
  | failed e => .failed (f e)

theorem DeviceOutcome.isSettled_retell (o : DeviceOutcome) : (o.retell f).isSettled = o.isSettled := by
  cases o <;> rfl

theorem CarrierOutcome.completed_retell (o : CarrierOutcome) : (o.retell f g).completed = o.completed.map g := rfl

theorem Applied.count_retell (kind : ∀ a, (g a).kind = a.kind) (a : Applied) (p : Plan) (k : ActionKind) :
    (a.retell f g).count p k = a.count p k := by
  have committed : (a.device.retell f).isCommitted = a.device.isCommitted := by
    cases a.device <;> rfl
  have carrier : (a.carrier.retell f g).count k = a.carrier.count k := by
    simp [CarrierOutcome.count, CarrierOutcome.completed_retell, List.filter_map, Function.comp_def, kind]
  rw [count, count, ← carrier, ← committed]
  rfl

end

/-- The outcome without the texts of its failures and without locators. -/
def Outcome.gist (o : Outcome) : Outcome := o.retell Failure.untold Action.unlocated

def CarrierOutcome.gist (o : CarrierOutcome) : CarrierOutcome := o.retell Failure.untold Action.unlocated

def Applied.gist (a : Applied) : Applied := a.retell Failure.untold Action.unlocated

theorem Report.ofApplied_gist (kind : PolicyKind) (p : Plan) (a : Applied) :
    Report.ofApplied kind p.unlocated a.gist =
      (Report.ofApplied kind p a).retell Failure.untold Action.unlocated := by
  have same : ∀ k, a.gist.count p.unlocated k = a.count p k := by
    intro k
    rw [Applied.gist, Applied.count_retell _ Action.unlocated fun _ => rfl]
    simp only [Applied.count, Plan.unlocated, ActionList.count_unlocated]
  simp only [ofApplied, same]
  rfl

/-! Which calls correspond, and which answers. -/

/-- Two answers say the same. Failures may differ in their texts. -/
inductive Concur {α β : Type} (L : α → β → Prop) : Except Failure α → Except Failure β → Prop
  | ok {a b} : L a b → Concur L (.ok a) (.ok b)
  | error {e e'} : e.untold = e'.untold → Concur L (.error e) (.error e')

section

variable {α β γ δ : Type} {L M : α → β → Prop} {x : Except Failure α} {y : Except Failure β}

theorem Concur.mono (concur : Concur L x y) (weaker : ∀ a b, x = .ok a → L a b → M a b) : Concur M x y := by
  cases concur with
  | ok same => exact .ok (weaker _ _ rfl same)
  | error same => exact .error same

theorem Concur.bind {N : γ → δ → Prop} {k : α → Except Failure γ} {k' : β → Except Failure δ} (first : Concur L x y)
    (later : ∀ a b, x = .ok a → L a b → Concur N (k a) (k' b)) : Concur N (x >>= k) (y >>= k') := by
  cases first with
  | ok same => exact later _ _ rfl same
  | error same => exact .error same

end

/-- The item describes no content, as one does that is not on a device. -/
def Item.Plain (i : Item) : Prop := i.uri = none ∧ i.contentLen = none

/-- The action has a place in a transaction of this family's stores. -/
def Action.Fits (f : Family) (a : Action) : Prop := a.isValidFor .device = true ∧ a.item.family = f

/-- The calls of two cycles that are told the same. What they ask of a store is the same but for locators,
and has its place there. -/
inductive Parallel (f : Family) : Correspondence
  | listDevice : Parallel f .listDevice .listDevice (Concur fun d d' => d.unlocated = d'.unlocated)
  | listCarrier : Parallel f .listCarrier .listCarrier (Concur fun c c' => c = c' ∧ ∀ i ∈ c.toList, i.Plain)
  | listMirror : Parallel f .listMirror .listMirror (Concur fun m m' => m = m')
  | applyDevice {as as'} : as.map Action.unlocated = as'.map Action.unlocated → (∀ a ∈ as, a.Fits f) →
      Request.Sparing (.applyDevice as) → Parallel f (.applyDevice as) (.applyDevice as') (Concur fun _ _ => True)
  | storeContent {i i' p} : i.unlocated = i'.unlocated → i.family = f →
      Parallel f (.storeContent i p) (.storeContent i' p) (Concur fun _ _ => True)
  | applyCarrier {a a'} : a.unlocated = a'.unlocated →
      Parallel f (.applyCarrier a) (.applyCarrier a') (Concur fun _ _ => True)
  | fetchContent {i i'} : i.unlocated = i'.unlocated →
      Parallel f (.fetchContent i) (.fetchContent i') (Concur fun p p' => p = p')
  | replaceMirror {s} : (∀ i ∈ s.toList, i.Plain ∧ i.family = f) →
      Parallel f (.replaceMirror s) (.replaceMirror s) (Concur fun _ _ => True)

theorem map_eq_map_iff {α β : Type} {g : α → β} {l l' : List α} :
    l.map g = l'.map g ↔ List.Forall₂ (fun a a' => g a = g a') l l' := by
  rw [← List.forall₂_eq_eq_eq, List.forall₂_map_left_iff, List.forall₂_map_right_iff]

namespace Action

variable {f : Family} {a a' : Action}

theorem execute_parallel (same : a.unlocated = a'.unlocated) (valid : a.isValidFor .carrier = true)
    (family : a.item.family = f) : Matches (Parallel f) (Concur fun _ _ => True) a.execute a'.execute := by
  have kinds : a'.kind = a.kind := (congrArg Action.kind same).symm
  have targets : a'.target = a.target := (congrArg Action.target same).symm
  have valid' : a'.isValidFor .carrier = true := by rw [← valid, isValidFor, isValidFor, kinds, targets]
  unfold execute
  rw [valid, valid', kinds]
  simp only [Bool.not_true, Bool.false_eq_true, if_false]
  cases kind : a.kind with
  | insert | delete | markAsRead => exact Matches.ask (Parallel.applyCarrier same)
  | fetchContent =>
    have items : a.item.unlocated = a'.item.unlocated := congrArg Action.item same
    refine .bind (.ask (.fetchContent items)) ?_
    rintro _ _ (⟨rfl⟩ | failed)
    · exact Matches.ask (Parallel.storeContent items family)
    · exact .pure (.error failed)

end Action

namespace CarrierOutcome

variable {f : Family} {o o' : CarrierOutcome} {a a' : Action}

theorem gist_record {x x' : Except Failure Unit} (outcomes : o.gist = o'.gist) (same : a.unlocated = a'.unlocated)
    (concur : Concur (fun _ _ => True) x x') : (o.record a x).gist = (o'.record a' x').gist := by
  obtain ⟨attempted, succeeded, completed, failures⟩ := CarrierOutcome.mk.inj outcomes
  cases concur with
  | ok => simp [gist, retell, record, attempted, succeeded, completed, failures, same]
  | @error e e' failed =>
    have names : a'.kind = a.kind ∧ a'.id = a.id :=
      ⟨(congrArg Action.kind same).symm, (congrArg Action.id same).symm⟩
    have told : (e.asRemoteAction a.kind.name a.id).untold = (e'.asRemoteAction a'.kind.name a'.id).untold := by
      rw [names.1, names.2, Failure.untold_asRemoteAction, failed, ← Failure.untold_asRemoteAction]
    simp [gist, retell, record, attempted, succeeded, completed, failures, same, told]

theorem attempt_parallel (outcomes : o.gist = o'.gist) (same : a.unlocated = a'.unlocated)
    (valid : a.isValidFor .carrier = true) (family : a.item.family = f) :
    Matches (Parallel f) (fun o o' => o.gist = o'.gist) (o.attempt a) (o'.attempt a') :=
  .bind (Action.execute_parallel same valid family) fun _ _ concur => .pure (gist_record outcomes same concur)

end CarrierOutcome

namespace ActionList

variable {f : Family} {l l' : ActionList}

theorem commit_parallel (same : l.unlocated = l'.unlocated) (fits : ∀ a ∈ l.toList, a.Fits f)
    (sparing : Request.Sparing (.applyDevice l.toList)) :
    Matches (Parallel f) (fun o o' => o.retell Failure.untold = o'.retell Failure.untold) l.commit l'.commit := by
  have lists : l.toList.map Action.unlocated = l'.toList.map Action.unlocated := congrArg toList same
  have sizes : l.size = l'.size := by rw [← size_unlocated, same, size_unlocated]
  have valid' : ∀ a ∈ l'.toList, a.isValidFor .device = true := by
    intro a mem
    have told : a.unlocated ∈ l.toList.map Action.unlocated := lists ▸ List.mem_map_of_mem mem
    obtain ⟨b, memB, own⟩ := List.mem_map.mp told
    have valid := (fits b memB).1
    exact (congrArg (Action.isValidFor · .device) own).symm.trans valid
  refine commit_matches (fun a mem => (fits a mem).1) valid' sizes (.applyDevice lists fits sparing) rfl ?_
  rintro _ _ (_ | @⟨e, e', failed⟩)
  · exact congrArg DeviceOutcome.committed sizes
  · have told : e.asLocalTransaction.untold = e'.asLocalTransaction.untold := by
      rw [Failure.untold_asLocalTransaction, failed, ← Failure.untold_asLocalTransaction]
    exact congrArg DeviceOutcome.rolledBack told

theorem send_parallel (same : l.unlocated = l'.unlocated) (valid : ∀ a ∈ l.toList, a.isValidFor .carrier = true)
    (family : ∀ a ∈ l.toList, a.item.family = f) :
    Matches (Parallel f) (fun o o' => o.gist = o'.gist) l.send l'.send := by
  have told := map_eq_map_iff.mp (congrArg toList same)
  refine CarrierOutcome.attempts_match (((List.forall₂_and_left _ _).mpr ⟨fun _ mem => mem, told⟩).imp ?_) rfl
  rintro a a' ⟨mem, same⟩ o o' outcomes
  exact CarrierOutcome.attempt_parallel outcomes same (valid a mem) (family a mem)

end ActionList

namespace Snapshot

variable {f : Family} {s : Snapshot}

/-- What completed commands change in a listing does not depend on locators. -/
theorem observeAll_unlocated (as : List Action) : s.observeAll (as.map Action.unlocated) = s.observeAll as := by
  rw [observeAll, List.foldl_map]
  rfl

theorem plain_of_observeAll (plain : ∀ i ∈ s.toList, i.Plain ∧ i.family = f) (as : List Action) :
    ∀ i ∈ (s.observeAll as).toList, i.Plain ∧ i.family = f := by
  induction as generalizing s with
  | nil => exact plain
  | cons a rest ih =>
    refine ih ?_
    unfold observe
    split
    · intro j mem
      obtain ⟨i, held, rfl⟩ := List.mem_map.mp mem
      have before := plain i held
      split <;> exact before
    · exact fun i mem => plain i (List.mem_filter.mp mem).1
    · exact plain
    · exact plain

end Snapshot

namespace Policy

variable {p : Policy} {d d' c m : Snapshot}

theorem conclude_parallel {plan plan' : Plan} {applied applied' : Applied} (plans : plan.unlocated = plan'.unlocated)
    (same : applied.gist = applied'.gist) (plain : ∀ i ∈ c.toList, i.Plain) :
    Matches (Parallel p.family) (fun x x' => (Outcome.ofResult x).gist = (Outcome.ofResult x').gist)
      (p.conclude c plan applied) (p.conclude c plan' applied') := by
  have devices : applied.device.retell Failure.untold = applied'.device.retell Failure.untold :=
    congrArg Applied.device same
  have sent : (c.retain p.family).observeAll applied.carrier.completed =
      (c.retain p.family).observeAll applied'.carrier.completed := by
    have told : applied.carrier.retell Failure.untold Action.unlocated =
        applied'.carrier.retell Failure.untold Action.unlocated := congrArg Applied.carrier same
    rw [← Snapshot.observeAll_unlocated, ← CarrierOutcome.completed_retell, told, CarrierOutcome.completed_retell,
      Snapshot.observeAll_unlocated]
  have reports : (Report.ofApplied p.kind plan applied).retell Failure.untold Action.unlocated =
      (Report.ofApplied p.kind plan' applied').retell Failure.untold Action.unlocated := by
    rw [← Report.ofApplied_gist, ← Report.ofApplied_gist, plans, same]
  have own : ∀ i ∈ (c.retain p.family).toList, i.Plain ∧ i.family = p.family := by
    intro i mem
    obtain ⟨held, family⟩ := List.mem_filter.mp mem
    exact ⟨plain i held, of_decide_eq_true family⟩
  have renewal : Parallel p.family (.replaceMirror ((c.retain p.family).observeAll applied.carrier.completed))
      (.replaceMirror ((c.retain p.family).observeAll applied'.carrier.completed)) (Concur fun _ _ => True) := by
    rw [← sent]
    exact .replaceMirror (Snapshot.plain_of_observeAll own _)
  have settled : applied.device.isSettled = applied'.device.isSettled := by
    rw [← DeviceOutcome.isSettled_retell, devices, DeviceOutcome.isSettled_retell]
  refine conclude_matches settled ?_ renewal ?_
  · intro e e' back back'
    rw [back, back'] at devices
    exact congrArg Outcome.failed (DeviceOutcome.rolledBack.inj devices)
  · rintro _ _ (_ | _)
    · exact congrArg Outcome.completed reports
    · rfl

/-- With two sets of stores a cycle takes the same course, as long as their answers say the same. -/
theorem cycle_parallel (p : Policy) (ignores : p.IgnoresLocators) : Matches (Parallel p.family)
    (fun x x' => (Outcome.ofResult x).gist = (Outcome.ofResult x').gist) p.cycle p.cycle := by
  have unlisted : ∀ (store : String) {e e' : Failure}, e.untold = e'.untold →
      (Outcome.failed (e.asSnapshotFetch store)).gist = (Outcome.failed (e'.asSnapshotFetch store)).gist := by
    intro store e e' same
    refine congrArg Outcome.failed ?_
    rw [Failure.untold_asSnapshotFetch, same, ← Failure.untold_asSnapshotFetch]
  unfold cycle
  refine .bind (.ask .listDevice) ?_
  rintro _ _ (@⟨d, d', devices⟩ | failed)
  rotate_left
  · exact .pure (unlisted _ failed)
  refine .bind (.ask .listCarrier) ?_
  rintro _ _ (@⟨c, _, ⟨rfl, plain⟩⟩ | failed)
  rotate_left
  · exact .pure (unlisted _ failed)
  refine .bind (.ask .listMirror) ?_
  rintro _ _ (@⟨m, _, ⟨rfl⟩⟩ | failed)
  rotate_left
  · exact .pure (unlisted _ failed)
  simp only [planFor_eq]
  have plans : (p.planned d c m).unlocated = (p.planned d' c m).unlocated := by
    rw [← p.planned_unlocated ignores, devices, p.planned_unlocated ignores]
  have commits := ActionList.commit_parallel (f := p.family) (congrArg Plan.device plans)
    (fun a mem => ⟨isValidFor_device_of_planned a mem, family_of_planned (Or.inl mem)⟩) sparing_of_planned
  have sends := ActionList.send_parallel (f := p.family) (congrArg Plan.carrier plans)
    isValidFor_carrier_of_planned fun a mem => family_of_planned (Or.inr mem)
  refine .bind (Plan.carryOut_matches commits sends) ?_
  rintro ⟨o, sent⟩ ⟨o', sent'⟩ ⟨devices, outcomes⟩
  exact conclude_parallel plans (congrArg₂ Applied.mk devices outcomes) plain

end Policy

end MailboxSync
