import MailboxSync.Proofs.Families

namespace MailboxSync

namespace Program

variable {α β σ : Type}

/-- The calls of a run, each with the state that it leaves behind. -/
def course (handle : (r : Request) → σ → r.Answer × σ) : Program α → σ → List (Request × σ)
  | done _, _ => []
  | call r next, s =>
    let (x, s) := handle r s
    (r, s) :: (next x).course handle s

variable {handle : (r : Request) → σ → r.Answer × σ}

@[simp] theorem course_pure (a : α) (s : σ) : (pure a : Program α).course handle s = [] := rfl

@[simp] theorem course_ask (r : Request) (s : σ) : (ask r).course handle s = [(r, (handle r s).2)] := rfl

theorem course_bind (p : Program α) (k : α → Program β) (s : σ) : (p >>= k).course handle s =
    p.course handle s ++ (k (p.run handle s).1).course handle (p.run handle s).2 := by
  show (p.bind k).course handle s = _
  induction p generalizing s with
  | done a => rfl
  | call r next ih => exact congrArg (_ :: ·) (ih (handle r s).1 (handle r s).2)

end Program

open Program (ask)

namespace Memory

variable {f n : Memory}

/-- What a call leaves of the stores beside the device. A transaction on the device is passed over. -/
def outlook (x : Request × Memory) : Option (Request × Carrier × Mirror) :=
  match x.1 with
  | .applyDevice _ => none
  | r => some (r, x.2.carrier, x.2.mirror)

/-- Two systems with the same carrier and mirror, whose devices differ at most in what the carrier has not. -/
structure Level (f n : Memory) : Prop where
  left : f.Unarmed
  right : n.Unarmed
  carrier : f.carrier = n.carrier
  mirror : f.mirror = n.mirror
  items : ∀ k, (n.carrier.recordings.get? k).isSome = true → f.device.items.get? k = n.device.items.get? k

/-- A program that runs in the same way on both. -/
structure Abreast {α : Type} (q : Program α) (f n : Memory) : Prop where
  answer : (q.run Memory.answer f).1 = (q.run Memory.answer n).1
  level : Level (q.run Memory.answer f).2 (q.run Memory.answer n).2
  course : (q.course Memory.answer f).filterMap outlook = (q.course Memory.answer n).filterMap outlook

namespace Abreast

variable {α β : Type} {q : Program α} {k : α → Program β}

theorem pure (level : Level f n) (a : α) : Abreast (Pure.pure a) f n := ⟨rfl, level, rfl⟩

theorem bind (first : Abreast q f n) (later : Abreast (k (q.run Memory.answer n).1)
    (q.run Memory.answer f).2 (q.run Memory.answer n).2) : Abreast (q >>= k) f n := by
  refine ⟨?_, ?_, ?_⟩
  · rw [Program.run_bind, Program.run_bind, first.answer]
    exact later.answer
  · rw [Program.run_bind, Program.run_bind, first.answer]
    exact later.level
  · rw [Program.course_bind, Program.course_bind, List.filterMap_append, List.filterMap_append, first.course,
      first.answer, later.course]

end Abreast

end Memory

theorem Carrier.isSome_of_apply (c : Carrier) (a : Action) (k : String)
    (after : ((c.apply a).2.recordings.get? k).isSome = true) : (c.recordings.get? k).isSome = true := by
  cases outcome : (c.apply a).1 with
  | error e =>
    rw [c.apply_error outcome] at after
    exact after
  | ok _ =>
    rcases c.apply_ok outcome with ⟨_, recordings⟩ | ⟨_, _, recordings⟩
    · rw [recordings, c.get?_remove] at after
      split at after
      · cases after
      · exact after
    · rw [recordings, c.get?_markRead] at after
      split at after
      · rwa [Option.isSome_map] at after
      · exact after

namespace Memory

variable {f n : Memory}

namespace Level

theorem applyCarrier (level : Level f n) (a : Action) : Abreast (ask (.applyCarrier a)) f n := by
  have carrier := level.carrier
  have mirror := level.mirror
  refine ⟨?_, ⟨level.left.answer _, level.right.answer _, ?_, mirror, ?_⟩, ?_⟩
  · show (f.carrier.apply a).1 = (n.carrier.apply a).1
    rw [carrier]
  · show (f.carrier.apply a).2 = (n.carrier.apply a).2
    rw [carrier]
  · exact fun k recorded => level.items k (n.carrier.isSome_of_apply a k recorded)
  · show [(Request.applyCarrier a, (f.carrier.apply a).2, f.mirror)] =
      [(.applyCarrier a, (n.carrier.apply a).2, n.mirror)]
    rw [carrier, mirror]

theorem fetchContent (level : Level f n) (i : Item) : Abreast (ask (.fetchContent i)) f n := by
  have carrier := level.carrier
  have mirror := level.mirror
  refine ⟨?_, ⟨level.left.answer _, level.right.answer _, ?_, mirror, ?_⟩, ?_⟩
  · show (f.carrier.fetchContent i).1 = (n.carrier.fetchContent i).1
    rw [carrier]
  · show (f.carrier.fetchContent i).2 = (n.carrier.fetchContent i).2
    rw [carrier]
  · intro k recorded
    have same : (n.answer (.fetchContent i)).2.carrier.recordings = n.carrier.recordings :=
      n.carrier.recordings_fetchContent i
    rw [Program.run_ask, same] at recorded
    exact level.items k recorded
  · show [(Request.fetchContent i, (f.carrier.fetchContent i).2, f.mirror)] =
      [(.fetchContent i, (n.carrier.fetchContent i).2, n.mirror)]
    rw [carrier, mirror]

/-- The content of what the carrier has is kept by both devices or by neither. -/
theorem storeContent (level : Level f n) {i : Item} (p : Payload)
    (recorded : (n.carrier.recordings.get? i.id).isSome = true) : Abreast (ask (.storeContent i p)) f n := by
  have own := level.items i.id recorded
  refine ⟨?_, ⟨level.left.answer _, level.right.answer _, level.carrier, level.mirror, ?_⟩, ?_⟩
  · show (f.device.storeContent i p).1 = (n.device.storeContent i p).1
    simp only [Device.storeContent, Shelf.contains_eq_isSome, own]
    split <;> rfl
  · intro k recorded
    show (f.device.storeContent i p).2.items.get? k = (n.device.storeContent i p).2.items.get? k
    rw [Device.get?_storeContent, Device.get?_storeContent, level.items k recorded]
  · show [(Request.storeContent i p, f.carrier, f.mirror)] = [(.storeContent i p, n.carrier, n.mirror)]
    rw [level.carrier, level.mirror]

/-- A command is carried out on both or refused on both. -/
theorem execute (level : Level f n) (a : Action) : Abreast a.execute f n := by
  unfold Action.execute
  split
  · exact .pure level _
  · split
    · have fetched := level.fetchContent a.item
      have after := fetched.level
      refine .bind fetched ?_
      obtain ⟨x, n', outcome⟩ : ∃ x n', (ask (.fetchContent a.item)).run Memory.answer n = (x, n') :=
        ⟨_, _, rfl⟩
      rw [outcome] at after ⊢
      cases x with
      | error e => exact .pure after _
      | ok p =>
        obtain ⟨r, recording, -⟩ := level.right.get?_of_fetch outcome
        have same : n'.carrier.recordings = n.carrier.recordings := by
          rw [← n.carrier.recordings_fetchContent a.item]
          exact congrArg (fun y => y.2.carrier.recordings) outcome.symm
        exact after.storeContent p (by rw [same, recording]; rfl)
    all_goals exact level.applyCarrier a

theorem attempt (level : Level f n) (o : CarrierOutcome) (a : Action) : Abreast (o.attempt a) f n :=
  .bind (level.execute a) (.pure (level.execute a).level _)

theorem attempts (level : Level f n) (o : CarrierOutcome) (as : List Action) :
    Abreast (as.foldlM CarrierOutcome.attempt o) f n := by
  induction as generalizing f n o with
  | nil => exact .pure level _
  | cons a rest ih =>
    have first := level.attempt o a
    exact .bind first (ih first.level _)

theorem send (level : Level f n) (l : ActionList) : Abreast l.send f n := level.attempts {} l.toList

end Level

/-- A transaction is not seen beside the device. -/
theorem outlook_commit (l : ActionList) (m : Memory) :
    (l.commit.run Memory.answer m).2.carrier = m.carrier ∧ (l.commit.run Memory.answer m).2.mirror = m.mirror ∧
      (l.commit.course Memory.answer m).filterMap outlook = [] := by
  unfold ActionList.commit
  split
  · exact ⟨rfl, rfl, rfl⟩
  · split
    · exact ⟨rfl, rfl, rfl⟩
    · rw [Program.run_bind, Program.course_bind, Program.run_ask, Program.course_ask]
      cases (m.answer (.applyDevice l.toList)).1 <;> exact ⟨rfl, rfl, rfl⟩

theorem Unarmed.run {α : Type} {m : Memory} (unarmed : m.Unarmed) (q : Program α) :
    (q.run Memory.answer m).2.Unarmed := Action.unarmed_of_ends unarmed (ends_run q m)

/-- A transaction that a plan calls for goes through where families are kept apart. -/
theorem FamiliesApart.settled_commit {p : Policy} {m : Memory} (unarmed : m.Unarmed) (apart : m.FamiliesApart) :
    ((p.planOf m).device.commit.run Memory.answer m).1.isSettled = true ∧
      ∀ k, ((p.planOf m).device.commit.run Memory.answer m).2.slot k = (m.slot k).transacted (p.alters m k) := by
  have ends := ends_run (p.planOf m).device.commit m
  obtain ⟨items, fits⟩ := apart.performAll_planOf p
  have valid : ∀ a ∈ (p.planOf m).device.toList, a.isValidFor .device = true :=
    fun a mem => Policy.isValidFor_device_of_mem _ _ _ mem
  rcases ActionList.ends_commit unarmed valid ends with settled | ⟨-, fault | ⟨e, refused⟩, -⟩
  · exact settled
  · exact fault.elim
  · rw [fits] at refused
    cases refused

theorem FamiliesApart.get?_commit {p : Policy} {m m' : Memory} (unarmed : m.Unarmed) (apart : m.FamiliesApart)
    (committed : m' = ((p.planOf m).device.commit.run Memory.answer m).2) (k : String) :
    m'.device.items.get? k = p.alters m k (m.device.items.get? k) := by
  have slot := (apart.settled_commit unarmed (p := p)).2 k
  rw [← committed] at slot
  exact congrArg Slot.item slot

/-- Transactions that leave the same of all that the carrier has. -/
theorem Level.commit {p q : Policy} (level : Level f n) (apart : f.FamiliesApart) (apart' : n.FamiliesApart)
    (items : ∀ k, (n.carrier.recordings.get? k).isSome = true →
      p.alters f k (f.device.items.get? k) = q.alters n k (n.device.items.get? k)) :
    Level ((p.planOf f).device.commit.run Memory.answer f).2 ((q.planOf n).device.commit.run Memory.answer n).2 := by
  obtain ⟨carrier, mirror, -⟩ := outlook_commit (p.planOf f).device f
  obtain ⟨carrier', mirror', -⟩ := outlook_commit (q.planOf n).device n
  refine ⟨?_, ?_, ?_, ?_, ?_⟩
  · exact level.left.run _
  · exact level.right.run _
  · rw [carrier, carrier', level.carrier]
  · rw [mirror, mirror', level.mirror]
  · intro k recorded
    rw [carrier'] at recorded
    rw [apart.get?_commit level.left rfl, apart'.get?_commit level.right rfl, items k recorded]

section

variable {m : Memory} {p : Policy}

/-- A cycle goes by what the stores hold. -/
theorem Unarmed.cycle_eq (unarmed : m.Unarmed) : p.cycle.run Memory.answer m =
      ((p.planOf m).carryOut >>= p.conclude m.carrier.snapshot (p.planOf m)).run Memory.answer m ∧
    p.cycle.course Memory.answer m = (.listDevice, m) :: (.listCarrier, m) :: (.listMirror, m) ::
      ((p.planOf m).carryOut >>= p.conclude m.carrier.snapshot (p.planOf m)).course Memory.answer m := by
  have listDevice : (ask .listDevice).run Memory.answer m = (.ok m.device.snapshot, m) :=
    unarmed.answer_listDevice
  have listCarrier : (ask .listCarrier).run Memory.answer m = (.ok m.carrier.snapshot, m) :=
    unarmed.answer_listCarrier
  have listMirror : (ask .listMirror).run Memory.answer m = (.ok m.mirror.snapshot, m) := rfl
  unfold Policy.cycle
  refine ⟨?_, ?_⟩
  · rw [Program.run_bind, listDevice]
    dsimp only
    rw [Program.run_bind, listCarrier]
    dsimp only
    rw [Program.run_bind, listMirror]
    simp only [Policy.planFor_listings]
  · rw [Program.course_bind, listDevice, Program.course_ask, unarmed.answer_listDevice]
    dsimp only
    rw [Program.course_bind, listCarrier, Program.course_ask, unarmed.answer_listCarrier]
    dsimp only
    rw [Program.course_bind, listMirror, Program.course_ask, answer_listMirror]
    simp only [Policy.planFor_listings, List.singleton_append]

/-- At its end a cycle whose transaction went through renews the mirror. -/
theorem Unarmed.run_conclude (unarmed : m.Unarmed) (c : Snapshot) (plan : Plan) {o : DeviceOutcome}
    (settled : o.isSettled = true) (sent : CarrierOutcome) {s : Snapshot}
    (renewal : s = (c.retain p.family).observeAll sent.completed) :
    ((p.conclude c plan ⟨o, sent⟩).run Memory.answer m).2 = { m with mirror := { m.mirror with snapshot := s } } ∧
      (p.conclude c plan ⟨o, sent⟩).course Memory.answer m =
        [(.replaceMirror s, { m with mirror := { m.mirror with snapshot := s } })] := by
  have answer : m.answer (.replaceMirror s) = (.ok (), { m with mirror := { m.mirror with snapshot := s } }) := by
    show ((m.mirror.replaceWith s).1, { m with mirror := (m.mirror.replaceWith s).2 }) = _
    rw [unarmed.replaceWith_eq]
  unfold Policy.conclude
  rw [← renewal]
  cases o with
  | rolledBack e => cases settled
  | skipped | committed =>
    dsimp only
    rw [Program.run_bind, Program.course_bind, Program.run_ask, Program.course_ask, answer]
    exact ⟨rfl, rfl⟩

/-- The calls of a cycle that nothing disturbs, and the stores it leaves behind. -/
theorem sync_eq (unarmed : m.Unarmed) (apart : m.FamiliesApart) {m₁ m₂ : Memory} {sent : CarrierOutcome} {s : Snapshot}
    (committed : m₁ = ((p.planOf m).device.commit.run Memory.answer m).2)
    (attempted : (p.planOf m).carrier.send.run Memory.answer m₁ = (sent, m₂))
    (renewal : s = (m.carrier.snapshot.retain p.family).observeAll sent.completed) :
    p.sync m = { m₂ with mirror := { m₂.mirror with snapshot := s } } ∧
      p.cycle.course Memory.answer m = (.listDevice, m) :: (.listCarrier, m) :: (.listMirror, m) ::
        ((p.planOf m).device.commit.course Memory.answer m ++
            (p.planOf m).carrier.send.course Memory.answer m₁ ++
          [(.replaceMirror s, { m₂ with mirror := { m₂.mirror with snapshot := s } })]) := by
  have settled := (apart.settled_commit (p := p) unarmed).1
  have ran : (p.planOf m).carryOut.run Memory.answer m =
      (⟨((p.planOf m).device.commit.run Memory.answer m).1, sent⟩, m₂) := by
    simp [Plan.carryOut, ← committed, attempted]
  have went : (p.planOf m).carryOut.course Memory.answer m = (p.planOf m).device.commit.course Memory.answer m ++
      (p.planOf m).carrier.send.course Memory.answer m₁ := by
    simp [Plan.carryOut, Program.course_bind, ← committed]
  have unarmed₁ : m₁.Unarmed := committed ▸ unarmed.run _
  have unarmed₂ : m₂.Unarmed := by
    have after := unarmed₁.run (p.planOf m).carrier.send
    rw [attempted] at after
    exact after
  obtain ⟨ended, ending⟩ := unarmed₂.run_conclude m.carrier.snapshot (p.planOf m) settled sent renewal
  refine ⟨?_, ?_⟩
  · rw [Policy.sync, unarmed.cycle_eq.1, Program.run_bind, ran]
    exact ended
  · rw [unarmed.cycle_eq.2, Program.course_bind, ran, went, ending]

end

/-- Where the plans of two systems for the carrier are the same, their cycles are the same but for what they do
to the devices. -/
theorem Level.cycle {p q : Policy} (level : Level f n) (family : p.family = q.family) (apart : f.FamiliesApart)
    (apart' : n.FamiliesApart) (carrier : (p.planOf f).carrier = (q.planOf n).carrier)
    (items : ∀ k, (n.carrier.recordings.get? k).isSome = true →
      p.alters f k (f.device.items.get? k) = q.alters n k (n.device.items.get? k)) :
    (p.sync f).carrier = (q.sync n).carrier ∧ (p.sync f).mirror = (q.sync n).mirror ∧
      (p.cycle.course Memory.answer f).filterMap outlook = (q.cycle.course Memory.answer n).filterMap outlook := by
  obtain ⟨-, -, hidden⟩ := outlook_commit (p.planOf f).device f
  obtain ⟨-, -, hidden'⟩ := outlook_commit (q.planOf n).device n
  obtain ⟨same, after, course⟩ := (level.commit apart apart' items).send (q.planOf n).carrier
  obtain ⟨sent, f₂, ran⟩ : ∃ sent f₂, (q.planOf n).carrier.send.run Memory.answer
      ((p.planOf f).device.commit.run Memory.answer f).2 = (sent, f₂) := ⟨_, _, rfl⟩
  obtain ⟨sent', n₂, ran'⟩ : ∃ sent n₂, (q.planOf n).carrier.send.run Memory.answer
      ((q.planOf n).device.commit.run Memory.answer n).2 = (sent, n₂) := ⟨_, _, rfl⟩
  rw [ran, ran'] at same after
  have same : sent = sent' := same
  have after : Level f₂ n₂ := after
  rw [same] at ran
  obtain ⟨synced, went⟩ := sync_eq (p := p) level.left apart rfl (carrier ▸ ran) rfl
  obtain ⟨synced', went'⟩ := sync_eq (p := q) level.right apart' rfl ran' rfl
  rw [level.carrier, family] at synced
  rw [carrier, level.carrier, family] at went
  rw [synced, synced', went, went']
  refine ⟨after.carrier, by rw [after.mirror], ?_⟩
  simp only [List.filterMap_cons, List.filterMap_append, hidden, hidden', course, outlook, level.carrier,
    level.mirror, after.carrier, after.mirror]

end Memory

end MailboxSync
