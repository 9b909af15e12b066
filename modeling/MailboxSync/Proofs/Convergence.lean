import MailboxSync.Proofs.Greetings
import MailboxSync.Proofs.Messages

namespace MailboxSync

open Memory

namespace Snapshot

variable {s t : Snapshot}

theorem keys_eq_of_isSome (same : ∀ k, (s.get? k).isSome = (t.get? k).isSome) : s.keys = t.keys := by
  have members : ∀ k, k ∈ s.keys ↔ k ∈ t.keys := by
    intro k
    rw [mem_keys_iff, mem_keys_iff, contains_eq_isSome, contains_eq_isSome, same]
  have sets : (⟨s.keys, s.keys_ascending⟩ : KeySet) = ⟨t.keys, t.keys_ascending⟩ := Shelf.ext_mem members
  exact congrArg Shelf.toList sets

end Snapshot

/-- How device, carrier and mirror may stand to each other about a message once all is settled. -/
inductive Settlement (p : Policy) : Option Item → Option Item → Option Item → Prop
  | nowhere : Settlement p none none none
  | left {d} : p = .noLocalDeletion → d.isRead = true → Settlement p (some d) none none
  | everywhere {d c x} : c.isRead = d.isRead → x.isRead = d.isRead → Settlement p (some d) (some c) (some x)

namespace Settlement

variable {p : Policy} {d c x : Option Item} {i j : Item}

theorem device_isSome (settlement : Settlement p d c x) (full : p = .fullSync) : d.isSome = c.isSome := by
  cases settlement with
  | nowhere | everywhere => rfl
  | left keeps => cases full.symm.trans keeps

theorem mirror_isSome (settlement : Settlement p d c x) : x.isSome = c.isSome := by
  cases settlement <;> rfl

theorem device_of_carrier (settlement : Settlement p d c x) (heard : c.isSome = true) :
    d.isSome = true := by
  cases settlement with
  | nowhere | left => cases heard
  | everywhere => rfl

theorem carrier_isRead (settlement : Settlement p d c x) (item : d = some i) (heard : c = some j) :
    j.isRead = i.isRead := by
  cases settlement with
  | nowhere | left => cases heard
  | everywhere far =>
    cases item
    cases heard
    exact far

theorem mirror_isRead (settlement : Settlement p d c x) (item : d = some i) (remembered : x = some j) :
    j.isRead = i.isRead := by
  cases settlement with
  | nowhere | left => cases remembered
  | everywhere _ known =>
    cases item
    cases remembered
    exact known

theorem isRead_of_left (settlement : Settlement p d c x) (item : d = some i) (vanished : c = none) :
    i.isRead = true := by
  cases settlement with
  | nowhere => cases item
  | left _ read =>
    cases item
    exact read
  | everywhere => cases vanished

end Settlement

namespace Slot

variable {p : Policy} {s : Slot}

theorem settlement_landed (apart : s.Apart .voicemail) (descends : s.Descends (s.landed p))
    (voicemail : p.family = .voicemail) : Settlement p ((s.landed p).seen .voicemail).item
      ((s.landed p).heard .voicemail) ((s.landed p).seen .voicemail).mirror := by
  rcases apart with listed | unlisted
  · have later := listed_of_descends listed descends
    rw [heard_of_listed later, seen_of_listed later, landed_of_listed listed]
    obtain ⟨item, content, recording, mirror⟩ := s
    cases item with
    | none =>
      cases recording with
      | none => exact .nowhere
      | some r =>
        cases mirror with
        | none => exact .everywhere rfl rfl
        | some i => exact .nowhere
    | some d =>
      cases recording with
      | none =>
        cases p with
        | greetingSync probe => cases voicemail
        | fullSync => exact .nowhere
        | noLocalDeletion => exact .left rfl rfl
      | some r =>
        have read : (if d.isRead then r.markRead else r).item.isRead =
            (if d.hasContent then (if r.item.isRead then d.markRead else d) else
              r.item.holding r.payload (if r.item.isRead then d.markRead else d)).isRead := by
          cases near : d.isRead <;> cases far : r.item.isRead <;> cases held : d.hasContent <;>
            simp [near, far, Item.markRead, Item.holding, Recording.markRead]
        exact .everywhere read read
  · have later := unlisted_of_descends unlisted descends
    rw [heard, seen_of_unlisted later]
    exact .nowhere

end Slot

namespace Policy

variable {p : Policy} {m : Memory}

/-- A policy for messages changes the item of a name only on account of that name. -/
theorem alters_of_voicemail (voicemail : p.family = .voicemail) (k : String) :
    p.alters m k = Action.alterAll ((m.slot k).plan p).device.toList k := by
  funext x
  rw [alters, ← filter_device_planOf]
  refine Action.alterAll_filter k ?_ x
  intro a mem insert
  have listed := (Slot.holds_of_heard (heard_of_insert mem insert)).2
  rw [voicemail] at listed
  simpa [Item.listed] using (Bool.and_eq_true_iff.mp listed).2

theorem slot_sync_of_voicemail (voicemail : p.family = .voicemail) (unarmed : m.Unarmed)
    (apart : m.FamiliesApart) (k : String) : (p.sync m).slot k = (m.slot k).landed p := by
  have turns := (sync_turns (p := p) unarmed apart).2 k
  have descends := descends_of_turns turns
  rw [alters_of_voicemail voicemail] at turns
  exact (turns.message voicemail (apart.apart .voicemail k) (fun _ held => id_of_holds held) descends
    id).2 id rfl rfl

theorem slot_sync_greetingSync {probe : Item → Bool} (blind : ∀ i : Item, probe i.passive = probe i)
    (unarmed : m.Unarmed) (apart : m.FamiliesApart) (k : String) :
    ((greetingSync probe).sync m).slot k = m.tuned probe k :=
  Slot.Turns.tuned blind apart ((sync_turns unarmed apart).2 k)

theorem after_succ (n : Nat) (m : Memory) : p.after (n + 1) m = p.sync (p.after n m) := by
  induction n generalizing m with
  | zero => rfl
  | succ n ih => exact ih (p.sync m)

theorem after_quiet (unarmed : m.Unarmed) (apart : m.FamiliesApart) (n : Nat) :
    (p.after n m).Unarmed ∧ (p.after n m).FamiliesApart := by
  induction n with
  | zero => exact ⟨unarmed, apart⟩
  | succ n ih =>
    rw [after_succ]
    exact ⟨unarmed_sync ih.1, familiesApart_sync ih.1 ih.2⟩

/-- Where quiet cycles take a slot. -/
def goal (p : Policy) (m : Memory) (k : String) : Slot :=
  match p with
  | .greetingSync probe => m.tuned probe k
  | .fullSync | .noLocalDeletion => (m.slot k).settled p

theorem goal_of_voicemail (voicemail : p.family = .voicemail) (k : String) :
    p.goal m k = (m.slot k).settled p := by
  cases p with
  | greetingSync probe => cases voicemail
  | fullSync | noLocalDeletion => rfl

/-- The policy does not ask its probe which greeting is played. -/
def Blind (p : Policy) : Prop := ∀ probe, p = .greetingSync probe → ∀ i : Item, probe i.passive = probe i

/-- A probe that goes by length looks at nothing else. -/
theorem blind_ofKind (kind : PolicyKind) (probe : ContentProbe) : (ofKind kind probe).Blind := by
  intro findsEmpty same i
  cases kind with
  | greetingSync =>
    cases same
    simp [ContentProbe.findsEmpty]
  | fullSync | noLocalDeletion => cases same

section

variable (blind : p.Blind)

include blind

/-- No cycle changes where quiet cycles take a slot, whatever calls of it fail. -/
theorem goal_of_ends {faulty : Prop} {m' : Memory} {x : Except Failure Report} (unarmed : m.Unarmed)
    (apart : m.FamiliesApart) (ends : Program.Ends (reacts faulty) p.cycle m x m') (k : String) :
    p.goal m' k = p.goal m k := by
  obtain ⟨settled, renewed, bound, _, turns⟩ := turns_of_ends unarmed ends
  by_cases voicemail : p.family = .voicemail
  · have turn := turns k
    have descends := descends_of_turns turn
    rw [alters_of_voicemail voicemail] at turn
    rw [goal_of_voicemail voicemail, goal_of_voicemail voicemail]
    exact (turn.message voicemail (apart.apart .voicemail k) (fun _ held => id_of_holds held) descends
      bound).1
  · cases p with
    | greetingSync probe => exact tuned_of_turns (blind probe rfl) apart bound turns k
    | fullSync | noLocalDeletion => exact absurd rfl voicemail

theorem goal_after (unarmed : m.Unarmed) (apart : m.FamiliesApart) (n : Nat) (k : String) :
    p.goal (p.after n m) k = p.goal m k := by
  induction n with
  | zero => rfl
  | succ n ih =>
    obtain ⟨unarmedN, apartN⟩ := after_quiet (p := p) unarmed apart n
    rw [after_succ, goal_of_ends blind unarmedN apartN ends_sync, ih]

omit blind in
/-- How many quiet cycles it takes until nothing is left to do. The content of a message that came
in is fetched by the cycle after, that of a greeting by the same one. -/
def patience : Policy → Nat
  | greetingSync _ => 1
  | fullSync | noLocalDeletion => 2

theorem slot_after_goal (unarmed : m.Unarmed) (apart : m.FamiliesApart) {n : Nat} (enough : p.patience ≤ n)
    (k : String) : (p.after n m).slot k = p.goal m k := by
  by_cases voicemail : p.family = .voicemail
  · obtain ⟨n, rfl⟩ : ∃ l, n = l + 2 := by
      have two : p.patience = 2 := by
        cases p with
        | greetingSync probe => cases voicemail
        | fullSync | noLocalDeletion => rfl
      exact ⟨n - 2, by omega⟩
    obtain ⟨unarmed₀, apart₀⟩ := after_quiet (p := p) unarmed apart n
    have once := slot_sync_of_voicemail voicemail unarmed₀ apart₀ k
    have descends := descends_of_turns ((sync_turns (p := p) unarmed₀ apart₀).2 k)
    rw [once] at descends
    rw [after_succ, after_succ, slot_sync_of_voicemail voicemail (unarmed_sync unarmed₀)
      (familiesApart_sync unarmed₀ apart₀), once, Slot.landed_landed p (apart₀.apart .voicemail k) descends,
      ← goal_of_voicemail voicemail, goal_after blind unarmed apart]
  · cases p with
    | fullSync | noLocalDeletion => exact absurd rfl voicemail
    | greetingSync probe =>
      have positive : 1 ≤ n := enough
      obtain ⟨n, rfl⟩ : ∃ l, n = l + 1 := ⟨n - 1, by omega⟩
      obtain ⟨unarmed₀, apart₀⟩ := after_quiet (p := greetingSync probe) unarmed apart n
      rw [after_succ, slot_sync_greetingSync (blind probe rfl) unarmed₀ apart₀]
      exact goal_after blind unarmed apart n k

end

/-- Where nothing is left to do a cycle does nothing. -/
theorem run_of_rests (unarmed : m.Unarmed) (rests : ∀ k, (m.slot k).Rests p) :
    ∃ r, p.cycle.run Memory.answer m = (.ok r, m) ∧ r.isNoop = true := by
  have device := device_planOf_eq_nil fun k => (rests k).device
  have carrier := carrier_planOf_eq_nil fun k => (rests k).carrier
  have mirror : m.carrier.snapshot.retain p.family = m.mirror.snapshot := by
    refine Snapshot.ext_get? ?_
    intro k
    rw [Carrier.get?_retain_snapshot]
    exact (rests k).mirror.symm
  have nothing : (p.planOf m).carryOut.run Memory.answer m = (⟨.skipped, {}⟩, m) := by
    simp [Plan.carryOut, ActionList.commit, ActionList.isEmpty, ActionList.send, device, carrier,
      Action.attemptAll]
  have replaced : m.answer (.replaceMirror m.mirror.snapshot) = (.ok (), m) := by
    show ((m.mirror.replaceWith _).1, { m with mirror := (m.mirror.replaceWith _).2 }) = _
    rw [unarmed.replaceWith_eq]
  refine ⟨.ofApplied p.kind (p.planOf m) ⟨.skipped, {}⟩, ?_, rfl⟩
  have listDevice : (Program.ask .listDevice).run Memory.answer m = (.ok m.device.snapshot, m) :=
    unarmed.answer_listDevice
  have listCarrier : (Program.ask .listCarrier).run Memory.answer m = (.ok m.carrier.snapshot, m) :=
    unarmed.answer_listCarrier
  have listMirror : (Program.ask .listMirror).run Memory.answer m = (.ok m.mirror.snapshot, m) := rfl
  rw [cycle, Program.run_bind, listDevice]
  dsimp only
  rw [Program.run_bind, listCarrier]
  dsimp only
  rw [Program.run_bind, listMirror]
  simp only [planFor_listings]
  rw [Program.run_bind, nothing]
  dsimp only [conclude]
  have same : (m.carrier.snapshot.retain p.family).observeAll (CarrierOutcome.completed {}) =
    m.mirror.snapshot := mirror
  rw [same, Program.run_bind, Program.run_ask, replaced]
  rfl

/-- What is agreed on about the items of the policy's family, going by the listings of the stores. -/
def Agrees (p : Policy) (m : Memory) : Prop :=
  let device := m.device.snapshot.retain p.family
  let carrier := m.carrier.snapshot.retain p.family
  let mirror := m.mirror.snapshot.retain p.family
  match p with
  | .fullSync => device.keys = carrier.keys ∧ mirror.keys = carrier.keys ∧
      ∀ k i j x, device.get? k = some i → carrier.get? k = some j → mirror.get? k = some x →
        j.isRead = i.isRead ∧ x.isRead = i.isRead
  | .noLocalDeletion => (∀ k ∈ carrier.keys, k ∈ device.keys) ∧
      (∀ k i j, device.get? k = some i → carrier.get? k = some j → j.isRead = i.isRead) ∧
      ∀ k i, device.get? k = some i → k ∉ carrier.keys → i.isRead = true
  | .greetingSync _ => device.keys = carrier.keys ∧ ∀ k i, device.get? k = some i → i.hasContent = true

theorem settlement_after (voicemail : p.family = .voicemail) (unarmed : m.Unarmed) (apart : m.FamiliesApart)
    {n : Nat} (once : 1 ≤ n) (k : String) :
    Settlement p (((p.after n m).device.snapshot.retain p.family).get? k)
      (((p.after n m).carrier.snapshot.retain p.family).get? k)
      (((p.after n m).mirror.snapshot.retain p.family).get? k) := by
  obtain ⟨n, rfl⟩ : ∃ l, n = l + 1 := ⟨n - 1, by omega⟩
  obtain ⟨unarmedN, apartN⟩ := after_quiet (p := p) unarmed apart n
  have descends := descends_of_turns ((sync_turns (p := p) unarmedN apartN).2 k)
  rw [Device.get?_retain_snapshot, Carrier.get?_retain_snapshot, Mirror.get?_retain_snapshot, after_succ,
    slot_sync_of_voicemail voicemail unarmedN apartN, voicemail]
  rw [slot_sync_of_voicemail voicemail unarmedN apartN] at descends
  exact Slot.settlement_landed (apartN.apart .voicemail k) descends voicemail

theorem agrees_after (blind : p.Blind) (unarmed : m.Unarmed) (apart : m.FamiliesApart) {n : Nat} (once : 1 ≤ n) :
    p.Agrees (p.after n m) := by
  cases p with
  | fullSync =>
    have settlement := settlement_after (p := fullSync) rfl unarmed apart once
    refine ⟨Snapshot.keys_eq_of_isSome fun k => (settlement k).device_isSome rfl,
      Snapshot.keys_eq_of_isSome fun k => (settlement k).mirror_isSome, ?_⟩
    intro k i j x item heard remembered
    exact ⟨(settlement k).carrier_isRead item heard, (settlement k).mirror_isRead item remembered⟩
  | noLocalDeletion =>
    have settlement := settlement_after (p := noLocalDeletion) rfl unarmed apart once
    refine ⟨?_, fun k i j item heard => (settlement k).carrier_isRead item heard, ?_⟩
    · intro k mem
      rw [Snapshot.mem_keys_iff, Snapshot.contains_eq_isSome] at mem ⊢
      exact (settlement k).device_of_carrier mem
    · intro k i item away
      rw [Snapshot.mem_keys_iff, Bool.not_eq_true, Snapshot.contains_eq_false_iff] at away
      exact (settlement k).isRead_of_left item away
  | greetingSync probe =>
    have tuned : ∀ k, ((greetingSync probe).after n m).slot k = m.tuned probe k :=
      slot_after_goal blind unarmed apart once
    have paired := apart.transacted_paired probe
    refine ⟨Snapshot.keys_eq_of_isSome ?_, ?_⟩
    · intro k
      have same : ((m.tuned probe k).seen .greeting).item.isSome =
        ((m.tuned probe k).seen .greeting).recording.isSome := (paired k).filled
      rw [Device.get?_retain_snapshot, Carrier.get?_retain_snapshot, tuned, Slot.heard, Option.isSome_map]
      exact same
    · intro k i held
      rw [Device.get?_retain_snapshot, tuned] at held
      exact (paired k).hasContent_filled held

/-- The policy's probe finds no greeting empty once its audio is on the device. -/
def Suffices (p : Policy) (m : Memory) : Prop :=
  ∀ probe, p = .greetingSync probe → ∀ r ∈ m.carrier.recordings.toList, r.item.family = .greeting →
    ∀ d, probe (r.item.holding r.payload d) = false

/-- The audio of every greeting is as long as it has to be. -/
def LongEnough (kind : PolicyKind) (probe : ContentProbe) (m : Memory) : Prop :=
  kind = .greetingSync → ∀ r ∈ m.carrier.recordings.toList, r.item.family = .greeting →
    probe.minBytes ≤ r.payload.length

theorem LongEnough.suffices {kind : PolicyKind} {probe : ContentProbe} (long : LongEnough kind probe m) :
    (ofKind kind probe).Suffices m := by
  intro findsEmpty same r mem greeting d
  cases kind with
  | greetingSync =>
    cases same
    have enough := long rfl r mem greeting
    simp [ContentProbe.findsEmpty, Item.holding, enough]
  | fullSync | noLocalDeletion => cases same

theorem descends_after (unarmed : m.Unarmed) (apart : m.FamiliesApart) (n : Nat) (k : String) :
    (m.slot k).Descends ((p.after n m).slot k) := by
  induction n with
  | zero => exact .refl _
  | succ n ih =>
    obtain ⟨unarmedN, apartN⟩ := after_quiet (p := p) unarmed apart n
    rw [after_succ]
    exact ih.trans (descends_of_turns ((sync_turns unarmedN apartN).2 k))

theorem rests_after (blind : p.Blind) (unarmed : m.Unarmed) (apart : m.FamiliesApart) (audio : p.Suffices m) {n : Nat}
    (enough : p.patience ≤ n) (k : String) : ((p.after n m).slot k).Rests p := by
  have arrived := slot_after_goal blind unarmed apart enough k
  have named : ∀ i, ((p.after n m).slot k).Holds i → i.id = k := fun _ held => id_of_holds held
  have descends := descends_after (p := p) unarmed apart n k
  by_cases voicemail : p.family = .voicemail
  · rw [arrived, goal_of_voicemail voicemail] at named descends ⊢
    exact Slot.rests_settled voicemail (apart.apart .voicemail k) named descends
  · cases p with
    | fullSync | noLocalDeletion => exact absurd rfl voicemail
    | greetingSync probe =>
      rw [arrived]
      refine (apart.transacted_paired probe k).rests_filled ?_
      intro r recorded listed
      have mem : r ∈ m.carrier.recordings.toList := (Shelf.get?_eq_some_iff.mp recorded).1
      exact audio probe rfl r mem (by simpa [Item.listed] using (Bool.and_eq_true_iff.mp listed).2)

/-- Cycles that nothing disturbs complete. The first one brings the stores to agree, and soon after
there is nothing left for them to do. -/
theorem quiet_cycles_converge (kind : PolicyKind) (probe : ContentProbe) (unarmed : m.Unarmed)
    (apart : m.FamiliesApart) :
    let p := ofKind kind probe
    (∀ n, ∃ r, (p.cycle.run Memory.answer (p.after n m)).1 = .ok r) ∧
      (∀ n, 1 ≤ n → p.Agrees (p.after n m)) ∧
      (LongEnough kind probe m → ∀ n, p.patience ≤ n →
        ∃ r, p.cycle.run Memory.answer (p.after n m) = (.ok r, p.after n m) ∧ r.isNoop = true) := by
  intro p
  have blind : p.Blind := blind_ofKind kind probe
  refine ⟨?_, ?_, ?_⟩
  · intro n
    obtain ⟨unarmedN, apartN⟩ := after_quiet (p := p) unarmed apart n
    exact (sync_turns unarmedN apartN).1
  · intro n once
    exact agrees_after blind unarmed apart once
  · intro long n enough
    exact run_of_rests (after_quiet unarmed apart n).1 (rests_after blind unarmed apart long.suffices enough)

/-- A message that the carrier lost, one that the device never had, and a greeting it still lacks. -/
def strayItems : Memory where
  device := ({} : Device).seed [.voicemail "a"]
  carrier := ({} : Carrier).seed
    [.voicemail "b", { Item.voicemail "g" with kind := .greeting .normal true }]
  mirror := ({} : Mirror).seed [.voicemail "a"]

theorem strayItems_converge :
    (strayItems.Unarmed ∧ strayItems.FamiliesApart ∧ LongEnough .greetingSync {} strayItems) ∧
      fullSync.Agrees (fullSync.after 1 strayItems) ∧
      let greetings := ofKind .greetingSync {}
      greetings.Agrees (greetings.after 1 strayItems) ∧
        ∃ r, greetings.cycle.run Memory.answer (greetings.after 1 strayItems) =
          (.ok r, greetings.after 1 strayItems) ∧ r.isNoop = true := by
  have unarmed : strayItems.Unarmed := ⟨rfl, rfl, rfl, rfl, rfl, rfl⟩
  have apart : strayItems.FamiliesApart := by decide +kernel
  have long : LongEnough .greetingSync {} strayItems := by
    intro _
    decide +kernel
  obtain ⟨_, agrees, idle⟩ := quiet_cycles_converge .greetingSync {} unarmed apart
  exact ⟨⟨unarmed, apart, long⟩, (quiet_cycles_converge .fullSync {} unarmed apart).2.1 1 (by decide),
    agrees 1 (by decide), idle long 1 (by decide)⟩

end Policy

end MailboxSync
