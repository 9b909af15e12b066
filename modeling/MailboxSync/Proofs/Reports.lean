import Mathlib.Data.List.Nodup
import MailboxSync.Proofs.FetchedContent
import MailboxSync.Proofs.PolicyTable
import MailboxSync.Proofs.Transcript

/-! What a report says of a cycle, held against what the cycle did. -/

namespace MailboxSync

open Memory Transcript
open Program (Ends)

/-! The commands -/

namespace CarrierOutcome

/-- What an outcome says of the commands `as` is true of the calls `v` that were made for them. -/
structure Faithful (o : CarrierOutcome) (as : List Action) (v : Transcript) : Prop
    extends Recounted as o v where
  completed : o.completed = as.filter (· ∉ o.failed)
  failed : o.failed = as.filter (· ∉ o.completed)
  attempted : o.attempted = as.length
  divided : o.attempted = o.succeeded + o.failures.length
  succeeded : o.succeeded = o.completed.length

end CarrierOutcome

theorem Recounted.faithful {o : CarrierOutcome} {as : List Action} {v : Transcript}
    (recounted : Recounted as o v) (tells : o.TellsOf as) (distinct : as.Nodup) : o.Faithful as v := by
  obtain ⟨completed, failed⟩ := tells.complementary distinct
  exact ⟨recounted, completed, failed, tells.attempted, tells.divided, tells.succeeded⟩

theorem ActionList.faithful_of_send {l : ActionList} {t u : Transcript} {o : CarrierOutcome}
    (ends : Ends takesDown l.send t o u) : ∃ v, u = t ++ v ∧ o.Faithful l.toList v := by
  obtain ⟨v, rfl, recounted⟩ := Action.recounted_of_ends ends
  exact ⟨v, rfl, recounted.faithful (Action.tellsOf_of_ends ends) l.nodup⟩

/-! The items of the device -/

/-- An action of this kind shows in what there is of an item before and after. -/
def ActionKind.shows (x y : Option Item) : ActionKind → Bool
  | .insert => x.isNone && y.isSome
  | .delete => x.isSome && y.isNone
  | .markAsRead => x.isSome && !isRead x && isRead y
  | .fetchContent => false

namespace ActionKind

variable {x y : Option Item}

/-- Of an item that stays as it was, but for what is not its mark, nothing shows. -/
theorem shows_of_same (same : y.map Item.isRead = x.map Item.isRead) (kind : ActionKind) : kind.shows x y = false := by
  cases x with
  | none =>
    obtain rfl := Option.map_eq_none_iff.mp same
    cases kind <;> rfl
  | some i =>
    obtain ⟨j, rfl, read⟩ := Option.map_eq_some_iff.mp same
    cases kind <;> simp [shows, isRead, read]

/-- Of an item that was changed as a policy asks, what was asked for shows and nothing else. -/
theorem shows_iff {p : Policy} {f : Item → Bool} {c : Option Item} {a : Action} (owes : p.Owes (x.filter f) c a)
    (absent : a.kind = .insert → x = none) (left : y.map Item.isRead = (a.alter a.id x).map Item.isRead)
    (kind : ActionKind) : kind.shows x y = true ↔ a.kind = kind := by
  generalize held : x.filter f = d at owes
  cases owes with
  | insert =>
    obtain rfl := absent rfl
    obtain ⟨j, rfl⟩ : ∃ j, y = some j := by
      simp only [Action.alter, if_true] at left
      exact (Option.map_eq_some_iff.mp left).imp fun _ => And.left
    cases kind <;> simp [shows]
  | @delete i =>
    obtain rfl : x = some i := (Option.filter_eq_some_iff.mp held).1
    obtain rfl : y = none := by simpa [Action.alter] using left
    cases kind <;> simp [shows, isRead]
  | @mark i _ unread =>
    obtain rfl : x = some i := (Option.filter_eq_some_iff.mp held).1
    obtain ⟨j, rfl, read⟩ : ∃ j, y = some j ∧ j.isRead = true := by
      simp only [Action.alter, if_true] at left
      exact Option.map_eq_some_iff.mp left
    cases kind <;> simp [shows, isRead, unread, read]

end ActionKind

/-- No command changes a mark on the device. -/
theorem Slot.Obeys.isRead_item {faulty : Prop} {as cs : List Action} {s t : Slot} (obeys : Obeys faulty as s cs t) :
    t.item.map Item.isRead = s.item.map Item.isRead := by
  induction obeys with
  | nil => rfl
  | @done a _ s _ _ _ _ ih =>
    rw [ih]
    unfold obey
    split
    · rfl
    · rfl
    · split
      · next found => rw [found]; rfl
      · rfl
    · rfl
  | failed _ _ ih => exact ih

/-- A list asks for no two actions of one kind about one item. -/
theorem ActionList.nodup_ids_of_kind {l : ActionList} {target : Target}
    (valid : ∀ a ∈ l.toList, a.isValidFor target = true) (kind : ActionKind) :
    ((l.toList.filter fun a => a.kind = kind).map Action.id).Nodup := by
  rw [List.nodup_iff_pairwise_ne, List.pairwise_map]
  refine (l.distinct.filter _).imp_of_mem fun {a b} memA memB differ same => ?_
  obtain ⟨inA, kindA⟩ := List.mem_filter.mp memA
  obtain ⟨inB, kindB⟩ := List.mem_filter.mp memB
  have placed : ∀ c ∈ l.toList, c.target = target := fun c mem =>
    of_decide_eq_true (Bool.and_eq_true_iff.mp (valid c mem)).1
  have alike : a.sameAs b = true := by
    rw [Action.sameAs, of_decide_eq_true kindA, of_decide_eq_true kindB, placed a inA, placed b inB, same]
    simp
  rw [alike] at differ
  cases differ

/-- Actions of one kind are as many as the keys at which that kind shows. -/
theorem ActionList.count_eq {l : ActionList} {kind : ActionKind} {keys : List String} {shown : String → Bool}
    (apart : (l.toList.map Action.id).Nodup) (distinct : keys.Nodup)
    (shows : ∀ k, (∃ a ∈ l.toList, a.kind = kind ∧ a.id = k) ↔ k ∈ keys ∧ shown k = true) :
    l.count kind = (keys.filter shown).length := by
  have ids : ((l.toList.filter fun a => a.kind = kind).map Action.id).Nodup :=
    apart.sublist (List.filter_sublist.map _)
  have counted : l.count kind = ((l.toList.filter fun a => a.kind = kind).map Action.id).length :=
    (List.length_map _).symm
  rw [counted]
  refine ((List.perm_ext_iff_of_nodup ids (distinct.filter _)).mpr fun k => ?_).length_eq
  rw [List.mem_filter, ← shows]
  simp only [List.mem_map, List.mem_filter, decide_eq_true_eq, and_assoc]

namespace Policy

variable {p : Policy} {m m' : Memory} {r : Report}

/-- About one item a plan asks one thing of the device. -/
theorem nodup_ids_device (p : Policy) (m : Memory) : ((p.planOf m).device.toList.map Action.id).Nodup := by
  refine List.Nodup.map_on (fun a memA b memB same => ?_) (ActionList.nodup _)
  have here : ∀ c ∈ (p.planOf m).device.toList, c.id = a.id → c ∈ ((m.slot a.id).plan p).device.toList := by
    intro c mem own
    rw [← filter_device_planOf, List.mem_filter, decide_eq_true_eq]
    exact ⟨mem, own⟩
  exact device_planAt_unique p _ _ _ (here a memA rfl) (here b memB same.symm)

theorem isRead_of_completed (ends : Ends (reacts True) p.cycle m (.ok r) m') (k : String) :
    (m'.slot k).item.map Item.isRead =
      (Action.alterAll ((m.slot k).plan p).device.toList k (m.slot k).item).map Item.isRead := by
  obtain ⟨u, obeys, left, -⟩ := obeyed_of_completed ends k
  have item : (m'.slot k).item = u.item := left
  rw [item, obeys.isRead_item]
  exact p.map_alters m k Item.passive_isRead _

/-- What was planned for the device shows there, and nothing else does. -/
theorem shows_iff_planned (ends : Ends (reacts True) p.cycle m (.ok r) m') (k : String) (kind : ActionKind) :
    kind.shows (m.slot k).item (m'.slot k).item = true ↔
      ∃ a ∈ (p.planOf m).device.toList, a.kind = kind ∧ a.id = k := by
  have own : ∀ a, a ∈ (p.planOf m).device.toList ∧ a.id = k ↔ a ∈ ((m.slot k).plan p).device.toList := by
    intro a
    rw [← filter_device_planOf, List.mem_filter, decide_eq_true_eq]
  have asked : (∃ a ∈ (p.planOf m).device.toList, a.kind = kind ∧ a.id = k) ↔
      ∃ a ∈ ((m.slot k).plan p).device.toList, a.kind = kind :=
    exists_congr fun a => by rw [← own, and_assoc, and_comm (b := a.id = k)]
  have left := isRead_of_completed ends k
  rw [asked]
  rcases (m.slot k).device_plan_cases p with nothing | ⟨a, one, owes⟩
  · rw [nothing] at left ⊢
    have hidden : kind.shows (m.slot k).item (m'.slot k).item = false := ActionKind.shows_of_same left kind
    simp [hidden]
  · rw [one] at left ⊢
    obtain ⟨mem, rfl⟩ := (own a).mpr (one ▸ List.mem_cons_self)
    rw [ActionKind.shows_iff owes (absent_of_insert ends mem) left]
    simp

/-- The actions of a kind that were planned for the device are as many as the names under which they show. -/
theorem device_count_eq (ends : Ends (reacts True) p.cycle m (.ok r) m') {kind : ActionKind} {keys : List String}
    {shown : String → Bool} (distinct : keys.Nodup)
    (shows : ∀ k, kind.shows (m.slot k).item (m'.slot k).item = true ↔ k ∈ keys ∧ shown k = true) :
    (p.planOf m).device.count kind = (keys.filter shown).length :=
  ActionList.count_eq (p.nodup_ids_device m) distinct fun k => (shows_iff_planned ends k kind).symm.trans (shows k)

theorem isValidFor_carrier_of_completed (tells : r.carrier.TellsOf (p.planOf m).carrier.toList) :
    ∀ a ∈ r.carrier.completed, a.isValidFor .carrier = true :=
  fun _ mem => isValidFor_carrier_of_mem _ _ _ (tells.mem_iff.mpr (Or.inl mem))

end Policy

/-- Actions that have their place in a store are of no kind that has none there. -/
theorem Action.length_filter_misplaced {as : List Action} {target : Target}
    (valid : ∀ a ∈ as, a.isValidFor target = true) {kind : ActionKind}
    (misplaced : kind.isValidFor target = false) : (as.filter fun a => a.kind = kind).length = 0 := by
  rw [List.length_eq_zero_iff, List.filter_eq_nil_iff]
  intro a mem same
  have placed := (Bool.and_eq_true_iff.mp (valid a mem)).2
  rw [of_decide_eq_true same, misplaced] at placed
  cases placed

/-- Calls that are not for commands store no content. -/
theorem stored_of_others {before v after : Transcript} (others : ∀ y ∈ before ++ after, y.method.isErrand = false) :
    Transcript.stored (before ++ v ++ after) = v.stored := by
  have nothing : ∀ w : Transcript, (∀ y ∈ w, y.method.isErrand = false) → w.stored = [] := fun w others =>
    List.filterMap_eq_nil_iff.mpr fun y mem => Exchange.stored?_of_not_errand (others y mem)
  have first := nothing before fun y mem => others y (List.mem_append_left _ mem)
  have last := nothing after fun y mem => others y (List.mem_append_right _ mem)
  rw [Transcript.stored] at first last ⊢
  rw [List.filterMap_append, List.filterMap_append, first, last, List.nil_append, List.append_nil]
  rfl

/-- Of a transaction that was not rolled back all actions count. -/
theorem Applied.count_of_settled {a : Applied} {plan : Plan}
    (device : a.device = if plan.device.isEmpty then .skipped else .committed plan.device.size) (kind : ActionKind) :
    a.count plan kind = plan.device.count kind + a.carrier.count kind := by
  rw [count, device]
  by_cases nothing : plan.device.isEmpty = true
  · have empty : plan.device.toList = [] := List.isEmpty_iff.mp nothing
    simp [nothing, DeviceOutcome.isCommitted, ActionList.count, empty]
  · simp [nothing, DeviceOutcome.isCommitted]

/-- What a report says of a cycle is true of the stores before and after it, and of the calls `t` that it made. -/
structure Report.Faithful (r : Report) (p : Policy) (m m' : Memory) (t : Transcript) : Prop where
  device : r.device = if (p.planOf m).device.isEmpty then .skipped else .committed (p.planOf m).device.size
  carrier : ∃ before v after, t = before ++ v ++ after ∧ (∀ y ∈ before ++ after, y.method.isErrand = false) ∧
    r.carrier.Faithful (p.planOf m).carrier.toList v
  inserted : r.inserted = (m'.device.items.keys.filter fun k => !m.device.items.contains k).length
  fetched : r.fetched = t.stored.length
  storedOnce : t.stored.Nodup
  delivered : ∀ k ∈ t.stored, m.Delivers p m' k
  spared : ∀ k ∉ t.stored, m.SparesContent m' k
  deleted : r.deleted =
    (m.device.items.keys.filter fun k => !m'.device.items.contains k).length + r.carrier.count .delete
  markedRead : r.markedRead = (m.device.items.keys.filter fun k =>
    !isRead (m.deviceItem k) && isRead (m'.deviceItem k)).length + r.carrier.count .markAsRead
  isNoop : r.isNoop = (p.planOf m).isEmpty

namespace Policy

variable {p : Policy} {m m' : Memory} {r : Report} {t : Transcript}

/-- The calls of a cycle that completes are those for its commands, and others that are for none. -/
theorem recounted_of_completed (ends : Ends ((reacts True).along takesDown) p.cycle (m, []) (.ok r) (m', t)) :
    ∃ before v after, t = before ++ v ++ after ∧ Recounted (p.planOf m).carrier.toList r.carrier v ∧
      ∀ y ∈ before ++ after, y.method.isErrand = false := by
  generalize start : (m, ([] : Transcript)) = s at ends
  generalize outcome : Except.ok r = x at ends
  cases passes_of_ends ends with
  | noDevice | noCarrier | noMirror => cases outcome
  | @through d s₁ c s₂ n s₃ o s₄ sent s₅ _ _ first second third committed attempted concluded =>
    subst start
    obtain ⟨rfl, here₁⟩ := listed_device first.1
    obtain ⟨rfl, here₂⟩ := listed_carrier second.1
    obtain ⟨rfl, -⟩ := listed_mirror third.1
    have listed : s₃.2 = listings m.device.snapshot s₁.1.carrier.snapshot s₂.1.mirror.snapshot := by
      rw [show s₃.2 = s₂.2 ++ _ from third.2, show s₂.2 = s₁.2 ++ _ from second.2, show s₁.2 = [] ++ _ from first.2]
      rfl
    obtain ⟨w, transacted, opened⟩ := asked_of_ends (P := fun r => r.method.isErrand = false)
      (ActionList.commit_asks rfl) committed.snd
    obtain ⟨v, told, recounted⟩ := Action.recounted_of_ends attempted.snd
    obtain ⟨z, renewed, closed⟩ := asked_of_ends (P := fun r => r.method.isErrand = false)
      (conclude_asks_renewal p _ rfl) concluded.snd
    have reported : r.carrier = sent := by
      rcases conclude_cases concluded.snd with ⟨e, _, rfl, _⟩ | ⟨_, ⟨_, rfl⟩ | ⟨e, _, rfl⟩⟩ <;> cases outcome
      rfl
    rw [here₂, here₁, ← reported] at recounted
    refine ⟨s₃.2 ++ w, v, z, ?_, recounted, ?_⟩
    · rw [show t = s₅.2 ++ z from renewed, told, transacted]
    · intro y mem
      rw [listed] at mem
      rcases List.mem_append.mp mem with mem | mem
      · rcases List.mem_append.mp mem with mem | mem
        · simp only [listings, List.mem_cons, List.not_mem_nil, or_false] at mem
          rcases mem with rfl | rfl | rfl <;> rfl
        · exact opened y mem
      · exact closed y mem

/-- What a report counts of a kind was planned for the device, or was carried out at the carrier. -/
theorem count_of_completed (ends : Ends (reacts True) p.cycle m (.ok r) m') (kind : ActionKind) :
    Applied.count ⟨r.device, r.carrier⟩ (p.planOf m) kind =
      (p.planOf m).device.count kind + r.carrier.count kind := by
  obtain ⟨-, device, -⟩ := applied_of_completed ends
  exact Applied.count_of_settled device kind

theorem inserted_of_completed (ends : Ends (reacts True) p.cycle m (.ok r) m') :
    r.inserted = (m'.device.items.keys.filter fun k => !m.device.items.contains k).length := by
  obtain ⟨-, -, tells, applied⟩ := applied_of_completed ends
  have none : r.carrier.count .insert = 0 :=
    Action.length_filter_misplaced (isValidFor_carrier_of_completed tells) rfl
  have counted : r.inserted = _ := (congrArg Report.inserted applied).trans (count_of_completed ends .insert)
  rw [counted, none, Nat.add_zero]
  refine device_count_eq ends (Shelf.nodup_keys _) fun k => ?_
  simp [ActionKind.shows, slot, Shelf.mem_keys_iff, Shelf.contains_eq_isSome, and_comm]

theorem deleted_of_completed (ends : Ends (reacts True) p.cycle m (.ok r) m') : r.deleted =
    (m.device.items.keys.filter fun k => !m'.device.items.contains k).length + r.carrier.count .delete := by
  obtain ⟨-, -, -, applied⟩ := applied_of_completed ends
  have counted : r.deleted = _ := (congrArg Report.deleted applied).trans (count_of_completed ends .delete)
  rw [counted, device_count_eq ends (Shelf.nodup_keys _) fun k => ?_]
  simp [ActionKind.shows, slot, Shelf.mem_keys_iff, Shelf.contains_eq_isSome]

theorem markedRead_of_completed (ends : Ends (reacts True) p.cycle m (.ok r) m') :
    r.markedRead = (m.device.items.keys.filter fun k =>
      !isRead (m.deviceItem k) && isRead (m'.deviceItem k)).length + r.carrier.count .markAsRead := by
  obtain ⟨-, -, -, applied⟩ := applied_of_completed ends
  have counted : r.markedRead = _ := (congrArg Report.markedRead applied).trans (count_of_completed ends .markAsRead)
  rw [counted, device_count_eq ends (Shelf.nodup_keys _) fun k => ?_]
  simp [ActionKind.shows, slot, deviceItem, Shelf.mem_keys_iff, Shelf.contains_eq_isSome, and_assoc]

/-- Nothing is fetched by a transaction. -/
theorem fetched_of_completed (ends : Ends (reacts True) p.cycle m (.ok r) m') :
    r.fetched = r.carrier.count .fetchContent := by
  obtain ⟨-, -, -, applied⟩ := applied_of_completed ends
  have none : (p.planOf m).device.count .fetchContent = 0 :=
    Action.length_filter_misplaced (fun _ mem => isValidFor_device_of_mem _ _ _ mem) rfl
  have counted : r.fetched = _ := (congrArg Report.fetched applied).trans (count_of_completed ends .fetchContent)
  rw [counted, none, Nat.zero_add]

/-- No name is fetched for twice. -/
theorem nodup_fetched_of_completed (ends : Ends (reacts True) p.cycle m (.ok r) m') :
    ((r.carrier.completed.filter fun a => a.kind = .fetchContent).map Action.id).Nodup := by
  obtain ⟨-, -, tells, -⟩ := applied_of_completed ends
  have once := ActionList.nodup_ids_of_kind (l := (p.planOf m).carrier)
    (fun _ mem => isValidFor_carrier_of_mem _ _ _ mem) .fetchContent
  refine once.sublist ?_
  rw [(tells.complementary (ActionList.nodup _)).1]
  exact (List.filter_sublist.filter _).map _

theorem isNoop_of_completed (ends : Ends (reacts True) p.cycle m (.ok r) m') : r.isNoop = (p.planOf m).isEmpty := by
  obtain ⟨-, device, tells, -⟩ := applied_of_completed ends
  have empty : decide ((p.planOf m).carrier.size = 0) = (p.planOf m).carrier.isEmpty := by
    rw [Bool.eq_iff_iff, decide_eq_true_eq, ActionList.size, List.length_eq_zero_iff]
    exact List.isEmpty_iff.symm
  rw [Report.isNoop, device, tells.attempted, ← ActionList.size, empty, Plan.isEmpty]
  cases (p.planOf m).device.isEmpty <;> rfl

theorem faithful_of_completed (ends : Ends ((reacts True).along takesDown) p.cycle (m, []) (.ok r) (m', t)) :
    r.Faithful p m m' t := by
  have went := ends.fst
  obtain ⟨-, device, tells, -⟩ := applied_of_completed went
  obtain ⟨before, v, after, rfl, recounted, others⟩ := recounted_of_completed ends
  have stored : Transcript.stored (before ++ v ++ after) =
      (r.carrier.completed.filter fun a => a.kind = .fetchContent).map Action.id :=
    (stored_of_others others).trans recounted.stored
  have mem_stored : ∀ k, k ∈ Transcript.stored (before ++ v ++ after) ↔
      ∃ a ∈ r.carrier.completed, a.kind = .fetchContent ∧ a.id = k := by
    intro k
    rw [stored]
    simp only [List.mem_map, List.mem_filter, decide_eq_true_eq, and_assoc]
  refine {
    device
    carrier := ⟨before, v, after, rfl, others, recounted.faithful tells (ActionList.nodup _)⟩
    inserted := inserted_of_completed went
    fetched := ?_
    storedOnce := stored ▸ nodup_fetched_of_completed went
    delivered := ?_
    spared := ?_
    deleted := deleted_of_completed went
    markedRead := markedRead_of_completed went
    isNoop := isNoop_of_completed went }
  · rw [fetched_of_completed went, stored, List.length_map]
    rfl
  · intro k mem
    obtain ⟨a, completed, fetch, rfl⟩ := (mem_stored k).mp mem
    exact delivers_of_completed went completed fetch
  · intro k other
    exact sparesContent_of_completed went fun a completed fetch own =>
      other ((mem_stored k).mpr ⟨a, completed, fetch, own⟩)

/-- Reports are faithful. What is said of a sequence of commands is true of it, whoever answers and whatever the
answers are. What the report of a cycle says is true of the stores and of the calls, whichever calls fail. -/
theorem reports_faithful :
    (∀ {σ : Type} (handle : (r : Request) → σ → r.Answer × σ) (l : ActionList) (s : σ),
      let run := l.send.run (scribe handle) (s, [])
      run.1.Faithful l.toList run.2.2) ∧
    ∀ (p : Policy) (m m' : Memory) (r : Report) (t : Transcript),
      Ends ((reacts True).along takesDown) p.cycle (m, []) (.ok r) (m', t) → r.Faithful p m m' t := by
  refine ⟨?_, fun p m m' r t ends => faithful_of_completed ends⟩
  intro σ handle l s run
  obtain ⟨v, told, faithful⟩ := ActionList.faithful_of_send (ends_scribe handle l.send (s, []))
  rw [List.nil_append] at told
  rw [told]
  exact faithful

/-- One message has come in, one was read elsewhere, one is gone from the carrier, and one the user has deleted, which
the carrier is not going to allow. -/
def busy : Memory where
  device := ({} : Device).seed [.voicemail "a", .voicemail "b"]
  carrier := { ({} : Carrier).seed [{ Item.voicemail "b" with isRead := true }, .voicemail "c", .voicemail "d"] with
    actionFaults := .ofList ["d"] }
  mirror := ({} : Mirror).seed [.voicemail "d"]

theorem busy_faithful :
    ∃ r m' t, Ends ((reacts True).along takesDown) fullSync.cycle (busy, []) (.ok r) (m', t) ∧
      r.Faithful fullSync busy m' t ∧
      (r.inserted, r.fetched, r.deleted, r.markedRead) = (1, 1, 1, 1) ∧ r.warnings.length = 1 ∧
      t.stored = ["b"] ∧ busy.device.content "b" = none ∧
      m'.device.content "b" = some (.silence Carrier.silenceLength "audio/amr") := by
  have possible : ∀ r s, (reacts True).along takesDown r s (scribe Memory.answer r s).1
      (scribe Memory.answer r s).2 := fun _ _ => ⟨Or.inl rfl, rfl⟩
  have ends := Program.ends_run possible fullSync.cycle (busy, [])
  have counts : ((fullSync.cycle.run (scribe Memory.answer) (busy, [])).1.toOption.map fun r =>
      ((r.inserted, r.fetched, r.deleted, r.markedRead), r.warnings.length)) = some ((1, 1, 1, 1), 1) := by
    decide +kernel
  obtain ⟨r, outcome, told⟩ := Option.map_eq_some_iff.mp counts
  obtain ⟨told, warned⟩ := Prod.mk.inj told
  have completed : (fullSync.cycle.run (scribe Memory.answer) (busy, [])).1 = .ok r := by
    cases result : (fullSync.cycle.run (scribe Memory.answer) (busy, [])).1 with
    | error e =>
      rw [result] at outcome
      cases outcome
    | ok r' =>
      rw [result] at outcome
      exact congrArg Except.ok (Option.some.inj outcome)
  rw [completed] at ends
  exact ⟨r, _, _, ends, reports_faithful.2 _ _ _ _ _ ends, told, warned, by decide +kernel, by decide +kernel,
    by decide +kernel⟩

end Policy

end MailboxSync
