import MailboxSync.Proofs.TriggerCoverage

namespace MailboxSync

open scoped List

namespace Note

/-- The triggers that are counted as coalesced. -/
def counts : Note → List Nat
  | counted is => is
  | sent _ | received _ _ | drained _ _ _ | refused _ _ | started _ | ended _ _ _ | swept _ _ _ | closed
  | turnedAway => []

/-- The triggers that are going to be counted as coalesced. -/
def owes : Note → List Nat
  | refused i _ => [i]
  | swept _ is _ => is
  | sent _ | received _ _ | drained _ _ _ | started _ | ended _ _ _ | counted _ | closed | turnedAway => []

def isTurnedAway : Note → Bool
  | turnedAway => true
  | sent _ | received _ _ | drained _ _ _ | refused _ _ | started _ | ended _ _ _ | swept _ _ _ | counted _
  | closed => false

end Note

namespace Shift

variable {p : Policy} {s s' : Shift} {i j : Nat}

/-- The triggers that were counted as coalesced. -/
def counted (s : Shift) : List Nat := s.log.flatMap Note.counts

/-- The triggers that are to be counted next. -/
def outstanding (s : Shift) : List Nat :=
  match s.errand with
  | .request .refused => [s.hand]
  | .report is => is
  | _ => []

/-- The trigger was behind another one in the queue, and was taken with it for a request that then found the lock
taken. -/
def FoldedAway (s : Shift) (i : Nat) : Prop :=
  ∃ j is stop k, .drained j is stop ∈ s.log ∧ i ∈ is ∧ .refused k j ∈ s.log

/-- What is owed is counted next. The counter tells of what has been counted. -/
structure Reckoned (s : Shift) : Prop where
  owed : s.log.flatMap Note.owes = s.counted ++ s.outstanding
  coalesced : s.orchestrator.status.coalesced.toNat =
    (s.counted.length + s.log.countP Note.isTurnedAway) % UInt64.size

namespace Reckoned

theorem opening (p : Policy) : (opening p).Reckoned := ⟨rfl, rfl⟩

/-- What was outstanding is counted, and what is owed now becomes outstanding. -/
theorem turn {ns : List Note} (reckoned : s.Reckoned) (log : s'.log = s.log ++ ns)
    (balance : s.outstanding ++ ns.flatMap Note.owes = ns.flatMap Note.counts ++ s'.outstanding)
    (coalesced : s'.orchestrator.status.coalesced.toNat =
      (s.orchestrator.status.coalesced.toNat + ((ns.flatMap Note.counts).length + ns.countP Note.isTurnedAway)) %
        UInt64.size) : s'.Reckoned := by
  have counted : s'.counted = s.counted ++ ns.flatMap Note.counts := by
    rw [Shift.counted, log, List.flatMap_append]
    rfl
  refine ⟨?_, ?_⟩
  · rw [log, List.flatMap_append, reckoned.owed, counted, List.append_assoc, List.append_assoc, balance]
  · rw [coalesced, reckoned.coalesced, Nat.mod_add_mod, counted, log, List.length_append, List.countP_append]
    congr 1
    omega

theorem unaltered (x : UInt64) : x.toNat = (x.toNat + 0) % UInt64.size := (Nat.mod_eq_of_lt x.toNat_lt).symm

theorem proceed {stage : Stage} (reckoned : s.Reckoned) (errand : s.errand = .request stage)
    (unanswered : stage.isAnswered = false) : (s.proceeds stage).Reckoned := by
  by_cases refused : stage = .refused
  · cases refused
    refine reckoned.turn rfl ?_ ?_
    · simp [outstanding, proceeds, errand, Orchestrator.step, Note.ofStages, Note.owes, Note.counts]
    · show (s.orchestrator.status.coalesced + 1).toNat = _
      rw [UInt64.toNat_add]
      rfl
  · have same : (s.proceeds stage).orchestrator.status.coalesced = s.orchestrator.status.coalesced :=
      coalesced_step _ refused
    have quiet : (Note.ofStages s.hand s.turn stage (s.orchestrator.step stage).1).flatMap Note.counts = [] ∧
        (Note.ofStages s.hand s.turn stage (s.orchestrator.step stage).1).countP Note.isTurnedAway = 0 := by
      unfold Note.ofStages
      split
      · exact ⟨rfl, rfl⟩
      · exact absurd rfl refused
      · exact ⟨rfl, rfl⟩
      · exact ⟨rfl, rfl⟩
    refine reckoned.turn (log_proceeds s stage) ?_ ?_
    · rw [quiet.1]
      cases stage with
      | refused => exact absurd rfl refused
      | answered => cases unanswered
      | asked =>
        cases locked : s.orchestrator.locked <;>
          simp [outstanding, proceeds, errand, Orchestrator.step, locked, Note.ofStages, Note.owes]
      | _ => simp [outstanding, proceeds, errand, Orchestrator.step, Note.ofStages, Note.owes]
    · rw [same, quiet.1, quiet.2]
      exact unaltered _

theorem step (reckoned : s.Reckoned) (shaped : s.Shaped) (step : Step s s') : s'.Reckoned := by
  have present := shaped.present
  cases step with
  | send => exact reckoned.turn rfl (List.append_nil _) (unaltered _)
  | dismiss => exact reckoned.turn (List.append_nil _).symm (List.append_nil _) (unaltered _)
  | receive _ idle | close _ idle =>
    refine reckoned.turn rfl ?_ (unaltered _)
    simp [outstanding, receives, closes, idle, Note.owes, Note.counts]
  | gather triggered =>
    rw [triggered] at present
    refine reckoned.turn rfl ?_ (unaltered _)
    simp [outstanding, gathers, present.idle, Note.owes, Note.counts]
  | proceed errand unanswered => exact reckoned.proceed errand unanswered
  | answer x errand =>
    refine reckoned.turn (List.append_nil _).symm ?_ (unaltered _)
    simp [outstanding, errand]
  | finish errand | sweep errand =>
    refine reckoned.turn rfl ?_ (unaltered _)
    simp [outstanding, finishes, sweeps, errand, Note.owes, Note.counts]
  | @report is errand =>
    refine reckoned.turn rfl ?_ ?_
    · simp [outstanding, reports, errand, Note.owes, Note.counts]
    · show (s.orchestrator.status.coalesced + is.length.toUInt64).toNat = _
      rw [UInt64.toNat_add, Nat.toUInt64_eq, UInt64.toNat_ofNat', Nat.add_mod_mod]
      simp [Note.counts, Note.isTurnedAway]

theorem crowd (reckoned : s.Reckoned) (step : Crowd s s') : s'.Reckoned := by
  obtain ⟨o, others, ns, rfl, -, told⟩ := step.cases
  rcases told with ⟨rfl, same⟩ | ⟨rfl, more⟩
  · refine reckoned.turn rfl (List.append_nil _) ?_
    show o.status.coalesced.toNat = _
    rw [same]
    exact unaltered _
  · refine reckoned.turn rfl (List.append_nil _) ?_
    show o.status.coalesced.toNat = _
    rw [more, UInt64.toNat_add]
    rfl

end Reckoned

theorem reckoned_of_mixes (run : Mixes (opening p) s) : s.Reckoned := by
  induction run with
  | refl => exact .opening p
  | tail before step ih =>
    rcases step with own | other
    · exact ih.step (Kept.of_mixes before).shaped own
    · exact ih.crowd other

namespace Kept

/-- A request that found the lock taken was made for a trigger that was received. -/
theorem received_of_refused (kept : s.Kept p) (refused : .refused i j ∈ s.log) : .received i j ∈ s.log := by
  obtain ⟨is, stop, rest, round, -⟩ := kept.shaped.refused_cases refused
  exact (round_sublist s j).subset (by rw [round]; exact List.mem_cons_self)

/-- What is owed for a trigger is owed for the way it was taken from the queue. -/
theorem takes_of_owes (kept : s.Kept p) {x : Note} (mem : x ∈ s.log) (owes : i ∈ x.owes) :
    (∃ j, x = .refused i j ∧ .received i j ∈ s.log) ∨ ∃ j is stop, x = .swept j is stop ∧ i ∈ is := by
  cases x with
  | refused k j =>
    cases List.mem_singleton.mp owes
    exact Or.inl ⟨j, rfl, kept.received_of_refused mem⟩
  | swept j is stop => exact Or.inr ⟨j, is, stop, rfl, owes⟩
  | _ => cases owes

theorem owes_once (kept : s.Kept p) {x y : Note} (memX : x ∈ s.log) (memY : y ∈ s.log) (owesX : i ∈ x.owes)
    (owesY : i ∈ y.owes) : x = y := by
  have once : ∀ {a b : Note}, a ∈ s.log → b ∈ s.log → i ∈ a.takes → i ∈ b.takes → a = b :=
    kept.watched.takes_once
  rcases kept.takes_of_owes memX owesX with ⟨j, rfl, first⟩ | ⟨j, is, stop, rfl, inX⟩ <;>
    rcases kept.takes_of_owes memY owesY with ⟨j', rfl, second⟩ | ⟨j', is', stop', rfl, inY⟩
  · cases once first second List.mem_cons_self List.mem_cons_self
    rfl
  · cases once first memY List.mem_cons_self inY
  · cases once memX second inX List.mem_cons_self
  · exact once memX memY inX inY

/-- No trigger is owed twice. -/
theorem nodup_owed (kept : s.Kept p) : (s.log.flatMap Note.owes).Nodup := by
  have taken : (s.log.flatMap Note.takes).Nodup := by
    rw [kept.watched.taken]
    exact List.nodup_range
  refine List.nodup_flatMap.mpr ⟨fun x mem => ?_, List.pairwise_iff_forall_sublist.mpr ?_⟩
  · cases x with
    | refused => exact List.nodup_singleton _
    | swept => exact (List.nodup_flatMap.mp taken).1 _ mem
    | _ => exact List.nodup_nil
  · intro x y before i owesX owesY
    have memX := before.subset List.mem_cons_self
    have memY := before.subset (List.mem_cons_of_mem _ List.mem_cons_self)
    cases kept.owes_once memX memY owesX owesY
    obtain ⟨j, turn⟩ : ∃ j, x.turn? = some j := by
      rcases kept.takes_of_owes memX owesX with ⟨j, rfl, -⟩ | ⟨j, _, _, rfl, -⟩ <;> exact ⟨j, rfl⟩
    have twice := Shaped.pair_round before turn turn
    simpa using twice.nodup (kept.shaped.nodup_round j)

/-! What there is to say of a trigger, by the way in which it was taken from the queue. -/

theorem started_of_covers (covers : s.Covers j i) : .started j ∈ s.log := covers.2.subset (by simp)

theorem of_received (kept : s.Kept p) (mem : .received i j ∈ s.log) :
    (∀ k, s.Covers k i → k = j) ∧ (∀ x ∈ s.log, i ∈ x.owes → .refused i j ∈ s.log) ∧ ¬s.FoldedAway i := by
  have once : ∀ {y : Note}, y ∈ s.log → i ∈ y.takes → .received i j = y :=
    fun other takes => kept.watched.takes_once mem other List.mem_cons_self takes
  refine ⟨?_, ?_, ?_⟩
  · rintro k ⟨received | ⟨is, stop, drained, folded⟩, -⟩
    · cases once received List.mem_cons_self
      rfl
    · cases once drained folded
  · intro x other owes
    rcases kept.takes_of_owes other owes with ⟨k, rfl, received⟩ | ⟨k, is, stop, rfl, dropped⟩
    · cases once received List.mem_cons_self
      exact other
    · cases once other dropped
  · rintro ⟨k, is, stop, first, drained, folded, -⟩
    cases once drained folded

theorem of_drained {fs : List Nat} {stop : Bool} (kept : s.Kept p) (mem : .drained j fs stop ∈ s.log)
    (folded : i ∈ fs) : (∀ k, s.Covers k i → k = j) ∧ (∀ x ∈ s.log, i ∉ x.owes) ∧
      (s.FoldedAway i → ∃ k, .refused k j ∈ s.log) := by
  have once : ∀ {y : Note}, y ∈ s.log → i ∈ y.takes → .drained j fs stop = y :=
    fun other takes => kept.watched.takes_once mem other folded takes
  refine ⟨?_, ?_, ?_⟩
  · rintro k ⟨received | ⟨is, stop, drained, folded⟩, -⟩
    · cases once received List.mem_cons_self
    · cases once drained folded
      rfl
  · intro x other owes
    rcases kept.takes_of_owes other owes with ⟨k, rfl, received⟩ | ⟨k, is, stop, rfl, dropped⟩
    · cases once received List.mem_cons_self
    · cases once other dropped
  · rintro ⟨k, is, stop, first, drained, folded, refused⟩
    cases once drained folded
    exact ⟨first, refused⟩

theorem of_swept {ds : List Nat} {stop : Bool} (kept : s.Kept p) (mem : .swept j ds stop ∈ s.log)
    (dropped : i ∈ ds) : (∀ k, ¬s.Covers k i) ∧ ¬s.FoldedAway i := by
  have once : ∀ {y : Note}, y ∈ s.log → i ∈ y.takes → .swept j ds stop = y :=
    fun other takes => kept.watched.takes_once mem other dropped takes
  refine ⟨?_, ?_⟩
  · rintro k ⟨received | ⟨is, stop, drained, folded⟩, -⟩
    · cases once received List.mem_cons_self
    · cases once drained folded
  · rintro ⟨k, is, stop, first, drained, folded, -⟩
    cases once drained folded

/-- What becomes of a trigger that was taken in a turn that is over. -/
theorem fate (kept : s.Kept p) {x : Note} (mem : x ∈ s.log) (takes : i ∈ x.takes) (turn : x.turn? = some j)
    (past : j < s.turn) :
    (s.FoldedAway i ∧ (∀ y ∈ s.log, i ∉ y.owes) ∧ ∀ k, ¬s.Covers k i) ∨
      (¬s.FoldedAway i ∧ (∀ y ∈ s.log, i ∉ y.owes) ∧ s.Covers j i) ∨
      (¬s.FoldedAway i ∧ (∃ y ∈ s.log, i ∈ y.owes) ∧ ∀ k, ¬s.Covers k i) := by
  have here : x ∈ s.round j := Shaped.mem_round mem turn
  have within := round_sublist s j
  have round := kept.shaped.past j past
  have started : .started j ∈ s.log → .started j ∈ s.round j := fun mem => Shaped.mem_round mem rfl
  have refused : ∀ k, .refused k j ∈ s.log → .refused k j ∈ s.round j := fun _ mem => Shaped.mem_round mem rfl
  generalize s.round j = r at here within round started refused
  cases round with
  | @refused i' is stop ds stop' =>
    have unstarted : .started j ∉ s.log := fun mem => by simpa using started mem
    simp only [List.mem_cons, List.not_mem_nil, or_false] at here
    rcases here with rfl | rfl | rfl | rfl
    · cases List.mem_singleton.mp takes
      obtain ⟨only, -, unfolded⟩ := kept.of_received mem
      have owed : .refused i j ∈ s.log := within.subset (by simp)
      refine Or.inr (Or.inr ⟨unfolded, ⟨_, owed, List.mem_cons_self⟩, fun k covers => unstarted ?_⟩)
      exact only k covers ▸ started_of_covers covers
    · obtain ⟨only, unowed, -⟩ := kept.of_drained mem takes
      refine Or.inl ⟨⟨j, is, stop, i', mem, takes, within.subset (by simp)⟩, unowed, fun k covers => unstarted ?_⟩
      exact only k covers ▸ started_of_covers covers
    · cases takes
    · obtain ⟨uncovered, unfolded⟩ := kept.of_swept mem takes
      exact Or.inr (Or.inr ⟨unfolded, ⟨_, mem, takes⟩, uncovered⟩)
  | @served i' is stop made y ds stop' =>
    have unrefused : ∀ k, .refused k j ∉ s.log := fun k mem => by simpa using refused k mem
    simp only [List.mem_cons, List.not_mem_nil, or_false] at here
    rcases here with rfl | rfl | rfl | rfl | rfl
    · cases List.mem_singleton.mp takes
      obtain ⟨-, owed, unfolded⟩ := kept.of_received mem
      have first : [.received i j, .started j] <+ s.log := .trans (by simp) within
      refine Or.inr (Or.inl ⟨unfolded, fun y other owes => unrefused i (owed y other owes), ?_⟩)
      exact ⟨Or.inl mem, kept.covers takes first⟩
    · obtain ⟨-, unowed, folded⟩ := kept.of_drained mem takes
      have first : [.drained j is stop, .started j] <+ s.log := .trans (by simp) within
      refine Or.inr (Or.inl ⟨fun away => ?_, unowed, Or.inr ⟨is, stop, mem, takes⟩, kept.covers takes first⟩)
      obtain ⟨k, refused⟩ := folded away
      exact unrefused k refused
    · cases takes
    · cases takes
    · obtain ⟨uncovered, unfolded⟩ := kept.of_swept mem takes
      exact Or.inr (Or.inr ⟨unfolded, ⟨_, mem, takes⟩, uncovered⟩)

end Kept

/-- What is owed for a trigger has been counted, once, unless it is still to be counted. -/
theorem Reckoned.count_eq (reckoned : s.Reckoned) (kept : s.Kept p) (reported : i ∉ s.outstanding) :
    ((∀ y ∈ s.log, i ∉ y.owes) → s.counted.count i = 0) ∧
      ((∃ y ∈ s.log, i ∈ y.owes) → s.counted.count i = 1) := by
  have once := kept.nodup_owed
  rw [reckoned.owed] at once
  refine ⟨fun unowed => List.count_eq_zero_of_not_mem fun mem => ?_, fun ⟨y, mem, owes⟩ => ?_⟩
  · have owed : i ∈ s.log.flatMap Note.owes := reckoned.owed ▸ List.mem_append_left _ mem
    obtain ⟨y, mem, owes⟩ := List.mem_flatMap.mp owed
    exact unowed y mem owes
  · have owed : i ∈ s.log.flatMap Note.owes := List.mem_flatMap.mpr ⟨y, mem, owes⟩
    rw [reckoned.owed, List.mem_append, or_iff_left reported] at owed
    exact List.count_eq_one_of_mem (List.nodup_append.mp once).1 owed

/-- Others may hold the lock at any time. A trigger that the worker has taken, in a turn that is over and reported,
is covered by a cycle that started after it or is counted once, and not both. Only where it was folded into a
request that then found the lock taken is it neither. The counter tells of the triggers that were counted and of
the others' requests that found the lock taken. -/
theorem consumed_accounted (run : Mixes (opening p) s) :
    s.orchestrator.status.coalesced.toNat =
      (s.counted.length + s.log.countP Note.isTurnedAway) % UInt64.size ∧
    s.log.flatMap Note.takes = List.range s.taken ∧
    ∀ x ∈ s.log, ∀ i ∈ x.takes, ∀ j, x.turn? = some j → j < s.turn → i ∉ s.outstanding →
      (s.FoldedAway i → s.counted.count i = 0 ∧ ∀ k, ¬s.Covers k i) ∧
      (¬s.FoldedAway i → s.counted.count i = 0 ∧ s.Covers j i ∨ s.counted.count i = 1 ∧ ∀ k, ¬s.Covers k i) := by
  have kept := Kept.of_mixes run
  have reckoned := reckoned_of_mixes run
  refine ⟨reckoned.coalesced, kept.watched.taken, fun x mem i takes j turn past reported => ?_⟩
  obtain ⟨uncounted, counted⟩ := reckoned.count_eq kept reported
  rcases kept.fate mem takes turn past with ⟨folded, unowed, uncovered⟩ | ⟨unfolded, unowed, covers⟩ |
    ⟨unfolded, owed, uncovered⟩
  · exact ⟨fun _ => ⟨uncounted unowed, uncovered⟩, fun other => absurd folded other⟩
  · exact ⟨fun other => absurd other unfolded, fun _ => Or.inl ⟨uncounted unowed, covers⟩⟩
  · exact ⟨fun other => absurd other unfolded, fun _ => Or.inr ⟨counted owed, uncovered⟩⟩

/-- Another request has the lock. The worker receives the first of two triggers with the second folded in, and is
refused. -/
theorem foldedTrigger_run : ∃ s, Mixes (opening .fullSync) s ∧ s.errand = .idle ∧ s.turn = 1 ∧
    s.orchestrator.status.coalesced = 1 ∧
    s.log = [.sent 0, .sent 1, .received 0 0, .drained 0 [1] false, .refused 0 0, .counted [0], .swept 0 [] false,
      .counted []] := by
  have taken : Mixes (opening .fullSync) _ :=
    ((Relation.ReflTransGen.refl.tail (.inr .arrive)).tail (.inr (.advance (k := 0) rfl))).tail
      (.inr (.advance (k := 0) rfl))
  have folded : Mixes (opening .fullSync) _ :=
    (((taken.tail (.inl (.send .manual rfl))).tail (.inl (.send .manual rfl))).tail
      (.inl (.receive rfl rfl rfl))).tail (.inl (.gather rfl))
  have refused : Mixes (opening .fullSync) _ :=
    (folded.tail (.inl (.proceed rfl rfl))).tail (.inl (.proceed rfl rfl))
  have reported : Mixes (opening .fullSync) _ := (refused.tail (.inl (.sweep rfl))).tail (.inl (.report rfl))
  exact ⟨_, reported, rfl, rfl, rfl, rfl⟩

theorem foldedTrigger_lost : ∃ s, Mixes (opening .fullSync) s ∧ s.errand = .idle ∧
    .received 0 0 ∈ s.log ∧ .drained 0 [1] false ∈ s.log ∧ s.orchestrator.status.coalesced = 1 ∧
    s.counted.count 1 = 0 ∧ ∀ k, ¬s.Covers k 1 := by
  obtain ⟨s, run, idle, turn, coalesced, log⟩ := foldedTrigger_run
  have drained : .drained 0 [1] false ∈ s.log := by simp [log]
  have away : s.FoldedAway 1 := ⟨0, [1], false, 0, drained, by decide, by simp [log]⟩
  have fates := (consumed_accounted run).2.2 _ drained 1 (by decide) 0 rfl (by rw [turn]; decide)
    (by simp [outstanding, idle])
  exact ⟨s, run, idle, by simp [log], drained, coalesced, fates.1 away⟩

end Shift

end MailboxSync
