import MailboxSync.Proofs.Partition
import MailboxSync.Proofs.PlanByName

namespace MailboxSync

/-- The rounds a policy makes over a classification, in their order. -/
inductive Round where
  | deviceOnly
  | carrierOnly
  | both
  | remembered
  | mirrorOnly
deriving DecidableEq, Repr

def Round.all : List Round := [deviceOnly, carrierOnly, both, remembered, mirrorOnly]

/-- Entries in ascending order of their keys are those of the first key, then those of the next,
and so on. -/
theorem flatMap_filter_key {α β : Type} {f : α → String} {l : List α} {keys : List String}
    (sorted : l.Pairwise fun x y => f x < f y) (ascending : keys.Pairwise (· < ·))
    (known : ∀ x ∈ l, f x ∈ keys) (h : α → List β) :
    l.flatMap h = keys.flatMap fun k => (l.filter fun x => f x = k).flatMap h := by
  have grouped : (keys.flatMap fun k => l.filter fun x => f x = k).Pairwise fun x y => f x < f y := by
    rw [List.pairwise_flatMap]
    refine ⟨fun k _ => sorted.filter _, ascending.imp ?_⟩
    intro j k lt x own y other
    rw [of_decide_eq_true (List.mem_filter.mp own).2, of_decide_eq_true (List.mem_filter.mp other).2]
    exact lt
  have same : (⟨_, grouped⟩ : Shelf f) = ⟨l, sorted⟩ := by
    refine Shelf.ext_mem fun x => ?_
    simp only [List.mem_flatMap, List.mem_filter, decide_eq_true_eq]
    constructor
    · rintro ⟨k, _, mem, _⟩
      exact mem
    · intro mem
      exact ⟨f x, known x mem, mem, rfl⟩
  rw [← List.flatMap_assoc]
  exact congrArg (List.flatMap h) (congrArg Shelf.toList same).symm

namespace ActionList

/-- What a list asks for already it goes on asking for. -/
theorem accepts_push_eq_false {l : ActionList} {a : Action} (asked : l.accepts a = false) (b : Action) :
    (l.push b).accepts a = false := by
  rw [← Bool.not_eq_true, accepts_iff] at asked ⊢
  rw [toList_push]
  split
  · exact fun fresh => asked fun b mem => fresh b (List.mem_append_left _ mem)
  · exact asked

theorem accepts_foldl_push_eq_false {l : ActionList} {a : Action} (asked : l.accepts a = false)
    (as : List Action) : (as.foldl push l).accepts a = false := by
  induction as generalizing l with
  | nil => exact asked
  | cons b rest ih => exact ih (accepts_push_eq_false asked b)

theorem accepts_push_self (l : ActionList) (a : Action) : (l.push a).accepts a = false := by
  rw [← Bool.not_eq_true, accepts_iff]
  intro fresh
  by_cases taken : l.accepts a = true
  · have kept : a ∈ (l.push a).toList := by
      rw [toList_push, if_pos taken]
      exact List.mem_append_right _ List.mem_cons_self
    exact Bool.false_ne_true ((fresh a kept).symm.trans a.sameAs_refl)
  · rw [toList_push, if_neg taken, ← accepts_iff] at fresh
    exact taken fresh

theorem accepts_congr (l : ActionList) {a b : Action} (same : b.sameAs a = true) :
    l.accepts a = l.accepts b := by
  have alike : ∀ c : Action, c.sameAs a = c.sameAs b := by
    intro c
    simp only [Action.sameAs, Bool.and_eq_true, decide_eq_true_eq] at same ⊢
    rw [same.1.1, same.1.2, same.2]
  simp only [accepts, alike]

/-- What was handed to a list it asks for. -/
theorem accepts_foldl_push_of_mem {as : List Action} {a b : Action} (mem : b ∈ as)
    (same : b.sameAs a = true) (l : ActionList) : (as.foldl push l).accepts a = false := by
  induction as generalizing l with
  | nil => cases mem
  | cons c rest ih =>
    rcases List.mem_cons.mp mem with rfl | later
    · refine accepts_foldl_push_eq_false ?_ rest
      rw [accepts_congr _ same]
      exact accepts_push_self l b
    · exact ih later _

/-- It makes no difference whether an action that is asked for already is handed in once more. -/
theorem foldl_push_filter {as : List Action} {q : Action → Bool} {l : ActionList}
    (asked : ∀ a ∈ as, q a = false → l.accepts a = false) :
    (as.filter q).foldl push l = as.foldl push l := by
  induction as generalizing l with
  | nil => rfl
  | cons a rest ih =>
    have later : ∀ b ∈ rest, q b = false → l.accepts b = false :=
      fun b mem => asked b (List.mem_cons_of_mem _ mem)
    cases kept : q a with
    | true =>
      rw [List.filter_cons_of_pos kept, List.foldl_cons, List.foldl_cons]
      exact ih fun b mem dropped => accepts_push_eq_false (later b mem dropped) a
    | false =>
      have idle : l.push a = l := by
        rw [push, dif_neg (by simp [asked a List.mem_cons_self kept])]
      rw [List.filter_cons_of_neg (by simp [kept]), List.foldl_cons, idle]
      exact ih later

/-- A list in which no action comes twice is taken as it stands. -/
theorem toList_ofList_of_distinct {as : List Action}
    (distinct : as.Pairwise fun a b => a.sameAs b = false) : (ofList as).toList = as := by
  induction as with
  | nil => rfl
  | cons a rest ih =>
    rw [List.pairwise_cons] at distinct
    have kept : rest.filter (fun b => !a.sameAs b) = rest := by
      rw [List.filter_eq_self]
      intro b mem
      simp [distinct.1 b mem]
    rw [toList_ofList_cons, kept, ih distinct.2]

theorem nodup (l : ActionList) : l.toList.Nodup :=
  l.distinct.imp fun {a b} differ (same : a = b) => by
    rw [same, Action.sameAs_refl] at differ
    cases differ

end ActionList

/-- Actions are told apart if those of each key are. -/
theorem distinct_of_keys {as : List Action}
    (own : ∀ k, (as.filter fun a => a.id = k).Pairwise fun a b => a.sameAs b = false) :
    as.Pairwise fun a b => a.sameAs b = false := by
  induction as with
  | nil => exact .nil
  | cons a rest ih =>
    refine List.pairwise_cons.mpr ⟨?_, ih fun k => ?_⟩
    · intro b mem
      by_cases same : b.id = a.id
      · have here := own a.id
        rw [List.filter_cons_of_pos (by simp), List.pairwise_cons] at here
        exact here.1 b (List.mem_filter.mpr ⟨mem, by simpa using same⟩)
      · simp [Action.sameAs, Ne.symm same]
    · exact (own k).sublist ((List.sublist_cons_self a rest).filter _)

namespace Policy

variable (p : Policy)

/-- The actions one round over a classification calls for. -/
def round (w : Round) (c : Classification) : List Action :=
  match w with
  | .deviceOnly => c.deviceOnly.flatMap p.onDeviceOnly
  | .carrierOnly => c.carrierOnly.flatMap p.onCarrierOnly
  | .both => c.both.flatMap p.onBoth
  | .remembered => c.remembered.flatMap p.onRemembered
  | .mirrorOnly => c.mirrorOnly.flatMap p.onMirrorOnly

theorem actions_eq_round (c : Classification) : p.actions c = Round.all.flatMap (p.round · c) := by
  simp [actions, Round.all, round]

/-- What a policy calls for in one round on account of one key, by what device, carrier and mirror
hold under it. A message the mirror remembers unread is marked on the carrier, unless that was called
for already because the carrier has it unread. -/
def calls (p : Policy) : Round → Option Item → Option Item → Option Item → List Action
  | .deviceOnly, some d, none, _ =>
    match p with
    | noLocalDeletion => if d.isRead then [] else [⟨.markAsRead, .device, d⟩]
    | fullSync | greetingSync _ => [⟨.delete, .device, d⟩]
  | .carrierOnly, none, some c, m =>
    match p with
    | fullSync | noLocalDeletion =>
      if m.isSome then [⟨.delete, .carrier, c⟩] else [⟨.insert, .device, c⟩]
    | greetingSync _ => [⟨.insert, .device, c⟩, ⟨.fetchContent, .carrier, c⟩]
  | .both, some d, some c, _ =>
    match p with
    | fullSync | noLocalDeletion =>
      (if d.hasContent then [] else [⟨.fetchContent, .carrier, c⟩]) ++
        (if c.isRead && !d.isRead then [⟨.markAsRead, .device, d⟩] else []) ++
        (if d.isRead && !c.isRead then [⟨.markAsRead, .carrier, c⟩] else [])
    | greetingSync probe =>
      if !d.hasContent || probe d then [⟨.fetchContent, .carrier, c⟩] else []
  | .remembered, some d, c, some m =>
    match p with
    | fullSync | noLocalDeletion =>
      if d.isRead && !m.isRead && c.all (·.isRead) then [⟨.markAsRead, .carrier, d⟩] else []
    | greetingSync _ => []
  | .mirrorOnly, none, none, some m =>
    match p with
    | fullSync | noLocalDeletion => [⟨.delete, .carrier, m⟩]
    | greetingSync _ => []
  | _, _, _, _ => []

/-- All that is called for on account of one key. -/
def callsAt (d c m : Option Item) : List Action := Round.all.flatMap fun w => p.calls w d c m

/-- All that three listings call for: round by round, and within a round by ascending key. -/
def schedule (device carrier mirror : Snapshot) : List Action :=
  Round.all.flatMap fun w =>
    (KeySet.ofList (device.keys ++ carrier.keys ++ mirror.keys)).toList.flatMap fun k =>
      p.calls w (device.get? k) (carrier.get? k) (mirror.get? k)

section

variable {d c m : Option Item}

theorem calls_eq_round {w : Round} (other : w ≠ .remembered) :
    p.calls w d c m = p.round w (.ofKey d c m) := by
  cases w with
  | remembered => exact absurd rfl other
  | deviceOnly => cases p <;> cases d <;> cases c <;> simp [calls, round, Classification.ofKey, onDeviceOnly]
  | carrierOnly =>
    cases p <;> cases d <;> cases c <;> cases m <;>
      simp [calls, round, Classification.ofKey, onCarrierOnly, CarrierOnly.inMirror]
  | mirrorOnly =>
    cases p <;> cases d <;> cases c <;> cases m <;>
      simp [calls, round, Classification.ofKey, onMirrorOnly]
  | both =>
    cases d with
    | none => cases c <;> rfl
    | some d =>
      cases c with
      | none => rfl
      | some c =>
        cases p with
        | greetingSync probe =>
          cases held : d.hasContent <;> cases short : probe d <;>
            simp [calls, round, Classification.ofKey, onBoth, held, short]
        | fullSync | noLocalDeletion =>
          cases near : d.isRead <;> cases far : c.isRead <;>
            simp [calls, round, Classification.ofKey, onBoth, near, far]

theorem calls_remembered : p.calls .remembered d c m =
    (p.round .remembered (.ofKey d c m)).filter fun _ => c.all (·.isRead) := by
  cases d with
  | none => rfl
  | some d =>
    cases m with
    | none => rfl
    | some m =>
      cases p with
      | greetingSync probe => rfl
      | fullSync | noLocalDeletion =>
        cases near : d.isRead <;> cases known : m.isRead <;> cases far : c.all (·.isRead) <;>
          simp [calls, round, Classification.ofKey, onRemembered, near, known, far]

/-- For one key no action is called for twice. -/
theorem distinct_callsAt : (p.callsAt d c m).Pairwise fun a b => a.sameAs b = false := by
  cases d with
  | none => cases c <;> cases p <;> cases m <;> simp [callsAt, Round.all, calls, Action.sameAs]
  | some d =>
    cases c with
    | none =>
      cases p <;> cases m <;> cases near : d.isRead <;>
        simp [callsAt, Round.all, calls, Action.sameAs, near]
      all_goals split <;> simp
    | some c =>
      cases p with
      | greetingSync probe =>
        cases m <;> simp [callsAt, Round.all, calls] <;> split <;> simp
      | fullSync | noLocalDeletion =>
        cases held : d.hasContent <;> cases near : d.isRead <;> cases far : c.isRead <;> cases m <;>
          simp [callsAt, Round.all, calls, Action.sameAs, held, near, far]
        all_goals split <;> simp

end

section

variable (device carrier mirror : Snapshot)

theorem round_classify (w : Round) : p.round w (classify device carrier mirror) =
    (KeySet.ofList (device.keys ++ carrier.keys ++ mirror.keys)).toList.flatMap fun k =>
      p.round w (.ofKey (device.get? k) (carrier.get? k) (mirror.get? k)) := by
  have exact := exact_classify device carrier mirror
  have ascending := (Snapshot.keysOf device carrier mirror).ascending
  have known : ∀ k, k ∈ device.keys ∨ k ∈ carrier.keys ∨ k ∈ mirror.keys →
      k ∈ (Snapshot.keysOf device carrier mirror).toList := fun k => Snapshot.mem_keysOf.mpr
  simp only [← share_classify]
  cases w with
  | deviceOnly =>
    exact flatMap_filter_key exact.deviceOnly.ascending ascending
      (fun i mem => known _ (Or.inl (exact.deviceOnly.wanted_of_mem mem).1)) p.onDeviceOnly
  | carrierOnly =>
    exact flatMap_filter_key exact.carrierOnly.ascending ascending
      (fun e mem => known _ (Or.inr (Or.inl (exact.carrierOnly.wanted_of_mem mem).1))) p.onCarrierOnly
  | both =>
    exact flatMap_filter_key exact.both.ascending ascending
      (fun s mem => known _ (Or.inl (exact.both.wanted_of_mem mem).1)) p.onBoth
  | remembered =>
    exact flatMap_filter_key exact.remembered.ascending ascending
      (fun r mem => known _ (Or.inl (exact.remembered.wanted_of_mem mem).1)) p.onRemembered
  | mirrorOnly =>
    exact flatMap_filter_key exact.mirrorOnly.ascending ascending
      (fun i mem => known _ (Or.inr (Or.inr (exact.mirrorOnly.wanted_of_mem mem).1))) p.onMirrorOnly

theorem id_of_mem_round {w : Round} {k : String} {a : Action}
    (mem : a ∈ p.round w (.ofKey (device.get? k) (carrier.get? k) (mirror.get? k))) : a.id = k := by
  rw [← share_classify] at mem
  have called : a ∈ p.actions ((classify device carrier mirror).share k) := by
    rw [actions_eq_round]
    exact List.mem_flatMap.mpr ⟨w, by cases w <;> decide, mem⟩
  rw [← filter_actions_classify] at called
  exact of_decide_eq_true (List.mem_filter.mp called).2

/-- Whether an action of a round is new: what the mirror remembers makes no difference where the
carrier itself has the message unread. -/
def isNew (w : Round) (a : Action) : Bool :=
  w ≠ .remembered || (carrier.get? a.id).all (·.isRead)

theorem calls_eq_filter (w : Round) (k : String) :
    p.calls w (device.get? k) (carrier.get? k) (mirror.get? k) =
      (p.round w (.ofKey (device.get? k) (carrier.get? k) (mirror.get? k))).filter (isNew carrier w) := by
  by_cases remembered : w = .remembered
  · subst remembered
    rw [calls_remembered]
    refine List.filter_congr fun a mem => ?_
    simp [isNew, p.id_of_mem_round device carrier mirror mem]
  · rw [calls_eq_round p remembered, eq_comm, List.filter_eq_self]
    intro a _
    simp [isNew, remembered]

theorem schedule_eq_filter : p.schedule device carrier mirror =
    Round.all.flatMap fun w => (p.round w (classify device carrier mirror)).filter (isNew carrier w) := by
  simp only [schedule, calls_eq_filter, round_classify, List.filter_flatMap]

variable {p} in
theorem of_mem_onRemembered {r : Remembered} {a : Action} (mem : a ∈ p.onRemembered r) :
    p.family = .voicemail ∧ r.device.isRead = true ∧ a = ⟨.markAsRead, .carrier, r.device⟩ := by
  cases p with
  | greetingSync probe => cases mem
  | fullSync | noLocalDeletion =>
    rw [onRemembered] at mem
    split at mem
    · next marked => exact ⟨rfl, (Bool.and_eq_true_iff.mp marked).1, List.mem_singleton.mp mem⟩
    · cases mem

variable {p} in
theorem mark_mem_onBoth (voicemail : p.family = .voicemail) {s : Shared} (read : s.device.isRead = true)
    (unread : s.carrier.isRead = false) : ⟨.markAsRead, .carrier, s.carrier⟩ ∈ p.onBoth s := by
  cases p with
  | greetingSync probe => cases voicemail
  | fullSync | noLocalDeletion => simp [onBoth, read, unread]

/-- What is called for because the mirror remembers a message unread, while the carrier has it unread,
is called for already. -/
theorem called_of_not_isNew {a : Action}
    (mem : a ∈ p.round .remembered (classify device carrier mirror))
    (old : isNew carrier .remembered a = false) :
    ∃ b ∈ p.round .both (classify device carrier mirror), b.sameAs a = true := by
  obtain ⟨r, held, on⟩ := List.mem_flatMap.mp mem
  obtain ⟨i, near, found⟩ := List.mem_filterMap.mp held
  obtain ⟨j, _, rfl⟩ := Option.map_eq_some_iff.mp found
  obtain ⟨voicemail, read, rfl⟩ := of_mem_onRemembered on
  obtain ⟨c, far, unread⟩ : ∃ c, carrier.get? i.id = some c ∧ c.isRead = false := by
    cases other : carrier.get? i.id with
    | none => simp [isNew, Action.id, other] at old
    | some c => exact ⟨c, rfl, by simpa [isNew, Action.id, other] using old⟩
  have paired : (⟨i, c⟩ : Shared) ∈ (classify device carrier mirror).both :=
    List.mem_filterMap.mpr ⟨i, near, by rw [far]; rfl⟩
  refine ⟨⟨.markAsRead, .carrier, c⟩, ?_, ?_⟩
  · exact List.mem_flatMap.mpr ⟨_, paired, mark_mem_onBoth voicemail read unread⟩
  · simp only [Action.sameAs, decide_true, Bool.true_and, decide_eq_true_eq]
    exact Snapshot.id_of_get? far

theorem id_of_mem_calls {w : Round} {k : String} {a : Action}
    (mem : a ∈ p.calls w (device.get? k) (carrier.get? k) (mirror.get? k)) : a.id = k := by
  rw [calls_eq_filter] at mem
  exact p.id_of_mem_round device carrier mirror (List.mem_filter.mp mem).1

/-- The part of a schedule that is about one key depends on what is held under that key. -/
theorem filter_schedule (k : String) :
    ((p.schedule device carrier mirror).filter fun a => a.id = k) =
      p.callsAt (device.get? k) (carrier.get? k) (mirror.get? k) := by
  rw [schedule, callsAt, List.filter_flatMap]
  congr 1
  funext w
  generalize named : KeySet.ofList (device.keys ++ carrier.keys ++ mirror.keys) = keys
  have own : ∀ j ∈ keys.toList, ∀ a ∈ p.calls w (device.get? j) (carrier.get? j) (mirror.get? j),
      a.id = id j :=
    fun j _ a mem => p.id_of_mem_calls device carrier mirror mem
  rw [filter_flatMap_key own, keys.filter_key]
  cases found : keys.get? k with
  | some j =>
    obtain rfl : j = k := Shelf.get?_key found
    simp
  | none =>
    have absent : k ∉ device.keys ++ carrier.keys ++ mirror.keys := by
      rw [← KeySet.mem_ofList, KeySet.mem_iff_contains, named, Shelf.contains_eq_isSome, found]
      simp
    simp only [List.mem_append, Snapshot.mem_keys_iff, Bool.not_eq_true, not_or,
      Snapshot.contains_eq_false_iff] at absent
    rw [absent.1.1, absent.1.2, absent.2]
    cases w <;> rfl

theorem distinct_schedule :
    (p.schedule device carrier mirror).Pairwise fun a b => a.sameAs b = false :=
  distinct_of_keys fun k => by
    rw [filter_schedule]
    exact p.distinct_callsAt

theorem toList_ofList_actions (t : Target) :
    (ActionList.ofList ((p.actions (classify device carrier mirror)).filter (·.target = t))).toList =
      (p.schedule device carrier mirror).filter (·.target = t) := by
  have distinct := (p.distinct_schedule device carrier mirror).filter (·.target = t)
  have kept : ∀ w ≠ Round.remembered, (p.round w (classify device carrier mirror)).filter
      (isNew carrier w) = p.round w (classify device carrier mirror) := by
    intro w other
    rw [List.filter_eq_self]
    intro a _
    simp [isNew, other]
  rw [← ActionList.toList_ofList_of_distinct distinct, actions_eq_round, schedule_eq_filter]
  simp only [Round.all, List.flatMap_cons, List.flatMap_nil, List.append_nil]
  rw [kept .deviceOnly (by decide), kept .carrierOnly (by decide), kept .both (by decide),
    kept .mirrorOnly (by decide)]
  simp only [List.filter_append, ActionList.ofList, List.foldl_append]
  rw [List.filter_comm _ (isNew carrier .remembered),
    ActionList.foldl_push_filter (q := isNew carrier .remembered)]
  intro a mem old
  obtain ⟨mem, own⟩ := List.mem_filter.mp mem
  obtain ⟨b, called, same⟩ := p.called_of_not_isNew device carrier mirror mem old
  refine ActionList.accepts_foldl_push_of_mem (List.mem_filter.mpr ⟨called, ?_⟩) same _
  simp only [Action.sameAs, Bool.and_eq_true, decide_eq_true_eq] at same own ⊢
  rw [same.1.2, own]

/-- A plan is what the table calls for, no more and no less: round by round, within a round by
ascending key, each action once. For one key that is what the table says of what is held under it. -/
theorem plan_eq_schedule :
    let plan := p.plan (classify device carrier mirror)
    (plan.device.toList = (p.schedule device carrier mirror).filter (·.target = .device) ∧
      plan.carrier.toList = (p.schedule device carrier mirror).filter (·.target = .carrier)) ∧
    (∀ k, plan.device.toList.filter (·.id = k) =
        (p.callsAt (device.get? k) (carrier.get? k) (mirror.get? k)).filter (·.target = .device) ∧
      plan.carrier.toList.filter (·.id = k) =
        (p.callsAt (device.get? k) (carrier.get? k) (mirror.get? k)).filter (·.target = .carrier)) ∧
    plan.device.toList.Nodup ∧ plan.carrier.toList.Nodup := by
  intro plan
  have onDevice : plan.device.toList =
      (p.schedule device carrier mirror).filter (·.target = .device) := by
    rw [← toList_ofList_actions, ← Plan.device_ofList]
    rfl
  have onCarrier : plan.carrier.toList =
      (p.schedule device carrier mirror).filter (·.target = .carrier) := by
    rw [← toList_ofList_actions, ← Plan.carrier_ofList]
    rfl
  refine ⟨⟨onDevice, onCarrier⟩, fun k => ?_, plan.device.nodup, plan.carrier.nodup⟩
  rw [onDevice, onCarrier, List.filter_comm, filter_schedule, List.filter_comm, filter_schedule]
  exact ⟨rfl, rfl⟩

end

end Policy

end MailboxSync
