import MailboxSync.Proofs.CycleOutline
import MailboxSync.Proofs.CycleSlots
import MailboxSync.Proofs.ReadMarks

namespace MailboxSync

/-- The carrier carried out a command of this kind on this item. -/
def Exchange.fulfils (kind : ActionKind) (k : String) (x : Exchange) : Bool :=
  match x.request with
  | .applyCarrier a => !x.failed && a.kind = kind && a.id = k
  | .listDevice | .listCarrier | .listMirror | .applyDevice _ | .storeContent _ _ | .fetchContent _
  | .replaceMirror _ => false

theorem Exchange.fulfils_of_ne {kind : ActionKind} {k : String} {x : Exchange}
    (other : x.method ≠ .applyCarrier) : x.fulfils kind k = false := by
  obtain ⟨r, x⟩ := x
  cases r <;> first | rfl | exact absurd rfl other

namespace Policy

/-- A policy deletes from the carrier only what the mirror has, and marks only what it lists, on the
carrier or in the mirror, as unread. -/
theorem evidence_of_mem_messageCommands {d c m : Option Item} {a : Action} (mem : a ∈ messageCommands d c m) :
    (a.kind = .delete → m.isSome = true) ∧
      (a.kind = .markAsRead → (∃ i, c = some i ∧ i.isRead = false) ∨ ∃ i, m = some i ∧ i.isRead = false) := by
  unfold messageCommands at mem
  cases d with
  | none =>
    cases c with
    | none =>
      obtain ⟨i, present, rfl⟩ := List.mem_map.mp mem
      exact ⟨fun _ => Option.isSome_of_eq_some (Option.mem_toList.mp present), nofun⟩
    | some c =>
      dsimp only at mem
      split at mem
      · next known =>
        obtain rfl := List.mem_singleton.mp mem
        exact ⟨fun _ => known, nofun⟩
      · cases mem
  | some d =>
    have unread : ∀ {x : Option Item} {b : Bool}, (b && x.any fun i => !i.isRead) = true →
        ∃ i, x = some i ∧ i.isRead = false := by
      intro x b behind
      cases x with
      | none => simp at behind
      | some i => exact ⟨i, rfl, by simpa using (Bool.and_eq_true_iff.mp behind).2⟩
    cases c with
    | none =>
      dsimp only at mem
      split at mem
      · next behind =>
        obtain rfl := List.mem_singleton.mp mem
        exact ⟨nofun, fun _ => Or.inr (unread behind)⟩
      · cases mem
    | some c =>
      rcases List.mem_append.mp mem with fetch | mark
      · split at fetch
        · cases fetch
        · obtain rfl := List.mem_singleton.mp fetch
          exact ⟨nofun, nofun⟩
      · split at mark
        · next behind =>
          obtain rfl := List.mem_singleton.mp mark
          have far : c.isRead = false := by simpa using (Bool.and_eq_true_iff.mp behind).2
          exact ⟨nofun, fun _ => Or.inl ⟨c, rfl, far⟩⟩
        · split at mark
          · next behind =>
            obtain rfl := List.mem_singleton.mp mark
            exact ⟨nofun, fun _ => Or.inr (unread behind)⟩
          · cases mark

end Policy

namespace Memory

/-- Only commands change what the carrier holds. -/
theorem recordings_answer {r : Request} (other : r.method ≠ .applyCarrier) (m : Memory) :
    (m.answer r).2.carrier.recordings = m.carrier.recordings := by
  cases r with
  | applyCarrier a => exact absurd rfl other
  | listCarrier => exact m.carrier.recordings_list
  | fetchContent i => exact m.carrier.recordings_fetchContent i
  | listDevice | listMirror | applyDevice | storeContent | replaceMirror => rfl

/-- Only a renewal changes the mirror. -/
theorem mirror_answer {r : Request} (other : r.method ≠ .replaceMirror) (m : Memory) :
    (m.answer r).2.mirror = m.mirror := by
  cases r with
  | replaceMirror s => exact absurd rfl other
  | listDevice | listCarrier | listMirror | applyDevice | storeContent | applyCarrier | fetchContent => rfl

end Memory

namespace History

/-- How often a command of this kind on this item was carried out so far. -/
def tally (h : History) (kind : ActionKind) (k : String) : Nat := h.calls.countP (Exchange.fulfils kind k)

/-- No transaction and no renewal of the mirror has failed. -/
def Reliable (h : History) : Prop :=
  ∀ x ∈ h.calls, x.method = .applyDevice ∨ x.method = .replaceMirror → x.failed = false

instance (h : History) : Decidable h.Reliable := by
  unfold Reliable
  infer_instance

/-- Names stay known. The carrier takes nothing in under a known name, and no read mark back. -/
structure Onward (h h' : History) : Prop where
  knows : ∀ k, h.knows k = true → h'.knows k = true
  carrier : ∀ k, h.knows k = true → ∀ r', h'.now.carrier.recordings.get? k = some r' →
    ∃ r, h.now.carrier.recordings.get? k = some r ∧ (r.item.isRead = true → r'.item.isRead = true)

/-- Besides, no command is carried out and the mirror stays as it is. -/
structure Calm (h h' : History) : Prop extends Onward h h' where
  reliable : h'.Reliable → h.Reliable
  tally : ∀ kind k, h'.tally kind k = h.tally kind k
  mirror : h'.now.mirror.snapshot = h.now.mirror.snapshot

/-- The name was given out, and what the carrier holds under it, if anything, was read. -/
def Heard (h : History) (k : String) : Prop :=
  h.knows k = true ∧ ∀ r, h.now.carrier.recordings.get? k = some r → r.item.isRead = true

/-- Where each command was carried out once at the most, and what it did was not undone. -/
structure Once (h : History) : Prop where
  delete : ∀ k, h.tally .delete k ≤ 1
  mark : ∀ k, h.tally .markAsRead k ≤ 1
  gone : ∀ k, h.tally .delete k ≠ 0 → h.Gone k
  heard : ∀ k, h.tally .markAsRead k ≠ 0 → h.Heard k

/-- The listing shows what was done by commands. -/
structure Shows (h : History) (s : Snapshot) : Prop where
  deleted : ∀ k, h.tally .delete k ≠ 0 → s.get? k = none
  marked : ∀ k, h.tally .markAsRead k ≠ 0 → ∀ i, s.get? k = some i → i.isRead = true

/-- The command was not carried out before. What is to be deleted is known. -/
structure Fresh (h : History) (a : Action) : Prop where
  delete : a.kind = .delete → h.tally .delete a.id = 0 ∧ h.knows a.id = true
  mark : a.kind = .markAsRead → h.tally .markAsRead a.id = 0

variable {h h' : History} {r : Request} {x : r.Answer} {kind : ActionKind} {k : String} {s : Snapshot}
  {a : Action}

theorem tally_of_replies (reply : replies r h x h') : h'.tally kind k =
    h.tally kind k + if Exchange.fulfils kind k ⟨r, x⟩ then 1 else 0 := by
  rw [tally, calls_of_replies reply, List.countP_cons, tally]

theorem tally_of_unfulfilled (reply : replies r h x h')
    (unfulfilled : Exchange.fulfils kind k ⟨r, x⟩ = false) : h'.tally kind k = h.tally kind k := by
  rw [tally_of_replies reply, unfulfilled, if_neg Bool.false_ne_true, Nat.add_zero]

theorem Reliable.of_replies (reply : replies r h x h') (reliable : h'.Reliable) : h.Reliable :=
  fun y mem => reliable y (by rw [calls_of_replies reply]; exact List.mem_cons_of_mem _ mem)

theorem Reliable.isOk (reliable : h'.Reliable) (reply : replies r h x h')
    (vital : r.method = .applyDevice ∨ r.method = .replaceMirror) : x.isOk = true := by
  have sound := reliable ⟨r, x⟩ (by rw [calls_of_replies reply]; exact List.mem_cons_self) vital
  simpa [Exchange.failed] using sound

theorem onward_of_drifts (drift : drifts h h') : Onward h h' := by
  obtain ⟨e, admitted, rfl⟩ := drift
  refine ⟨fun k known => knows_note known, ?_⟩
  intro k known r' found
  obtain ⟨r, before, _⟩ := (gentle_event admitted).carrier k known r' found
  refine ⟨r, before, (keepsMarks_happen admitted k).2 r.item ?_ r'.item ?_⟩
  · rw [Memory.carrierItem, before]
    rfl
  · rw [Memory.carrierItem, found]
    rfl

theorem onward_of_replies (reply : replies r h x h') : Onward h h' := by
  rcases reply with ⟨_, rfl⟩ | ⟨e, _, rfl⟩
  rotate_left
  · exact ⟨fun k known => knows_note known, fun k _ r' found => ⟨r', found, id⟩⟩
  refine ⟨fun k known => knows_note known, ?_⟩
  intro k known r' found
  change (h.now.answer r).2.carrier.recordings.get? k = some r' at found
  by_cases command : r.method = .applyCarrier
  · cases r with
    | applyCarrier a =>
      obtain ⟨r, before, _⟩ := descends_apply h.now.carrier a k r' found
      have keeps := Memory.keepsMarks_answer (r := .applyCarrier a) trivial h.now k
      refine ⟨r, before, keeps.2 r.item ?_ r'.item ?_⟩
      · rw [Memory.carrierItem, before]
        rfl
      · rw [Memory.carrierItem, found]
        rfl
    | _ => cases command
  · rw [Memory.recordings_answer command] at found
    exact ⟨r', found, id⟩

theorem calm_of_drifts (drift : drifts h h') : Calm h h' := by
  refine ⟨onward_of_drifts drift, ?_, ?_, ?_⟩ <;> obtain ⟨e, _, rfl⟩ := drift
  · exact id
  · exact fun _ _ => rfl
  · cases e <;> rfl

/-- A call changes nothing of this, unless it is a command or a renewal of the mirror that goes through. -/
theorem calm_of_replies (reply : replies r h x h') (renewal : r.method = .replaceMirror → x.isOk = false)
    (command : r.method = .applyCarrier → x.isOk = false) : Calm h h' := by
  refine ⟨onward_of_replies reply, Reliable.of_replies reply, ?_, ?_⟩
  · intro kind k
    refine tally_of_unfulfilled reply ?_
    by_cases far : r.method = .applyCarrier
    · cases r with
      | applyCarrier a => simp [Exchange.fulfils, Exchange.failed, command rfl]
      | _ => cases far
    · exact Exchange.fulfils_of_ne far
  · rcases reply with ⟨rfl, rfl⟩ | ⟨e, _, rfl⟩
    · by_cases mirror : r.method = .replaceMirror
      · cases r with
        | replaceMirror s =>
          cases answer : (h.now.answer (.replaceMirror s)).1 with
          | ok _ =>
            have refused := renewal rfl
            rw [answer] at refused
            cases refused
          | error e => exact h.now.mirror.replaceWith_error s answer
        | _ => cases mirror
      · exact congrArg Mirror.snapshot (h.now.mirror_answer mirror)
    · rfl

theorem Onward.gone (onward : Onward h h') (gone : h.Gone k) : h'.Gone k := by
  obtain ⟨known, away⟩ := gone
  refine ⟨onward.knows k known, fun held => ?_⟩
  rw [OnCarrier, Shelf.contains_eq_isSome] at held away
  obtain ⟨r', found⟩ := Option.isSome_iff_exists.mp held
  obtain ⟨r, before, _⟩ := onward.carrier k known r' found
  exact away (Option.isSome_of_eq_some before)

theorem Onward.heard (onward : Onward h h') (heard : h.Heard k) : h'.Heard k := by
  obtain ⟨known, read⟩ := heard
  refine ⟨onward.knows k known, fun r' found => ?_⟩
  obtain ⟨r, before, keeps⟩ := onward.carrier k known r' found
  exact keeps (read r before)

theorem Once.onward (once : h.Once) (onward : Onward h h')
    (same : ∀ kind k, h'.tally kind k = h.tally kind k) : h'.Once where
  delete := fun k => (same .delete k).symm ▸ once.delete k
  mark := fun k => (same .markAsRead k).symm ▸ once.mark k
  gone := fun k deleted => onward.gone (once.gone k (by rwa [← same]))
  heard := fun k marked => onward.heard (once.heard k (by rwa [← same]))

theorem Shows.of_tally (shows : h.Shows s) (same : ∀ kind k, h'.tally kind k = h.tally kind k) : h'.Shows s where
  deleted := fun k deleted => shows.deleted k (by rwa [← same])
  marked := fun k marked => shows.marked k (by rwa [← same])

theorem Fresh.calm (fresh : h.Fresh a) (calm : Calm h h') : h'.Fresh a where
  delete := fun kind =>
    ⟨(calm.tally .delete a.id).trans (fresh.delete kind).1, calm.knows _ (fresh.delete kind).2⟩
  mark := fun kind => (calm.tally .markAsRead a.id).trans (fresh.mark kind)

/-- Whatever was done by commands a listing of the carrier shows. -/
theorem Once.shows_listing (once : h.Once) : h.Shows h.now.carrier.snapshot where
  deleted := by
    intro k deleted
    have away := (once.gone k deleted).2
    rw [OnCarrier, Shelf.contains_eq_isSome, Option.not_isSome_iff_eq_none] at away
    rw [Carrier.get?_snapshot, away]
    rfl
  marked := by
    intro k marked i found
    rw [Carrier.get?_snapshot] at found
    obtain ⟨r, held, rfl⟩ := Option.map_eq_some_iff.mp (Option.filter_eq_some_iff.mp found).1
    exact (once.heard k marked).2 r held

theorem Shows.retain (shows : h.Shows s) (f : Family) : h.Shows (s.retain f) where
  deleted := by
    intro k deleted
    rw [Snapshot.get?_retain, shows.deleted k deleted]
    rfl
  marked := by
    intro k marked i found
    rw [Snapshot.get?_retain] at found
    exact shows.marked k marked i (Option.filter_eq_some_iff.mp found).1

/-- What a policy asks for was not done before, if what it goes by shows what was done. -/
theorem fresh_of_planned {p : Policy} {d c m : Snapshot} (voicemail : p.family = .voicemail)
    (carrier : h.Shows c) (mirror : h.Shows m) (known : ∀ k, m.contains k = true → h.knows k = true)
    (mem : a ∈ (p.planned d c m).carrier.toList) : h.Fresh a := by
  have farther := carrier.retain p.family
  have older := mirror.retain p.family
  rw [Policy.planned, Policy.mem_carrier_plan_iff, Policy.carrier_planAt_of_voicemail _ _ _ voicemail] at mem
  · obtain ⟨remembered, behind⟩ := Policy.evidence_of_mem_messageCommands mem
    refine ⟨?_, ?_⟩
    · intro delete
      obtain ⟨i, present⟩ := Option.isSome_iff_exists.mp (remembered delete)
      refine ⟨?_, known a.id ?_⟩
      · by_contra deleted
        cases present.symm.trans (older.deleted a.id deleted)
      · rw [Snapshot.get?_retain] at present
        exact Snapshot.contains_eq_true_iff.mpr ⟨i, (Option.filter_eq_some_iff.mp present).1⟩
    · intro mark
      by_contra marked
      rcases behind mark with ⟨i, present, unread⟩ | ⟨i, present, unread⟩
      · exact Bool.false_ne_true (unread.symm.trans (farther.marked a.id marked i present))
      · exact Bool.false_ne_true (unread.symm.trans (older.marked a.id marked i present))
  · intro i found j other
    rw [Snapshot.id_of_get? found, Snapshot.id_of_get? other]

/-! What a command does that is carried out. -/

section

variable (reply : replies (.applyCarrier a) h (.ok ()) h')

include reply

theorem tally_of_command (kind : ActionKind) (k : String) :
    h'.tally kind k = h.tally kind k + if a.kind = kind ∧ a.id = k then 1 else 0 := by
  rw [tally_of_replies reply]
  simp [Exchange.fulfils, Exchange.failed, Except.isOk, Except.toBool]

theorem tally_cases (done : h'.tally kind k ≠ 0) : (a.kind = kind ∧ a.id = k) ∨ h.tally kind k ≠ 0 := by
  by_cases own : a.kind = kind ∧ a.id = k
  · exact Or.inl own
  · rw [tally_of_command reply, if_neg own] at done
    exact Or.inr done

theorem tally_le_one (fresh : a.kind = kind → h.tally kind a.id = 0) (once : h.tally kind k ≤ 1) :
    h'.tally kind k ≤ 1 := by
  rw [tally_of_command reply]
  split
  · next own =>
    have none := fresh own.1
    rw [own.2] at none
    omega
  · exact once

theorem command_cases :
    (a.kind = .delete ∧ ¬h'.OnCarrier a.id) ∨ (a.kind = .markAsRead ∧ h'.Heard a.id) := by
  have onward := onward_of_replies reply
  rcases reply with ⟨answer, rfl⟩ | ⟨e, failed, _⟩
  rotate_left
  · cases failed
  have after : ((h.note (.answered (.applyCarrier a)) (h.now.answer (.applyCarrier a)).2).now.carrier) =
    (h.now.carrier.apply a).2 := rfl
  rcases h.now.carrier.apply_ok answer.symm with ⟨kind, same⟩ | ⟨kind, held, same⟩
  · refine Or.inl ⟨kind, ?_⟩
    rw [OnCarrier, after, same, Shelf.contains_eq_isSome, h.now.carrier.get?_remove, if_pos rfl]
    exact Bool.false_ne_true
  · refine Or.inr ⟨kind, onward.knows _ (OnCarrier.knows held), ?_⟩
    intro r found
    rw [after, same, h.now.carrier.get?_markRead, if_pos rfl] at found
    obtain ⟨r, _, rfl⟩ := Option.map_eq_some_iff.mp found
    rfl

theorem Once.command (once : h.Once) (fresh : h.Fresh a) : h'.Once where
  delete := fun k => tally_le_one reply (fun kind => (fresh.delete kind).1) (once.delete k)
  mark := fun k => tally_le_one reply fresh.mark (once.mark k)
  gone := by
    intro k deleted
    rcases tally_cases reply deleted with ⟨kind, rfl⟩ | before
    · rcases command_cases reply with ⟨_, away⟩ | ⟨other, _⟩
      · exact ⟨(onward_of_replies reply).knows _ (fresh.delete kind).2, away⟩
      · rw [kind] at other
        cases other
    · exact (onward_of_replies reply).gone (once.gone k before)
  heard := by
    intro k marked
    rcases tally_cases reply marked with ⟨kind, rfl⟩ | before
    · rcases command_cases reply with ⟨other, _⟩ | ⟨_, heard⟩
      · rw [kind] at other
        cases other
      · exact heard
    · exact (onward_of_replies reply).heard (once.heard k before)

/-- What was shown before is shown with the command folded in. -/
theorem Shows.command (shows : h.Shows s) : h'.Shows (s.observe a) where
  deleted := by
    intro k deleted
    rw [Snapshot.get?_observe]
    rcases tally_cases reply deleted with ⟨kind, own⟩ | before
    · rw [if_pos own, Action.observe, kind]
    · rw [shows.deleted k before]
      split
      · unfold Action.observe
        split <;> rfl
      · rfl
  marked := by
    intro k marked i found
    rw [Snapshot.get?_observe] at found
    rcases tally_cases reply marked with ⟨kind, own⟩ | before
    · rw [if_pos own, Action.observe, kind] at found
      obtain ⟨j, _, rfl⟩ := Option.map_eq_some_iff.mp found
      rfl
    · have read := shows.marked k before
      split at found
      · unfold Action.observe at found
        split at found
        · cases found
        · obtain ⟨j, _, rfl⟩ := Option.map_eq_some_iff.mp found
          rfl
        · exact read i found
        · exact read i found
      · exact read i found

/-- The commands that are still to be carried out are others. -/
theorem Fresh.command {b : Action} (fresh : h.Fresh b) (other : a.kind = b.kind → a.id ≠ b.id) : h'.Fresh b where
  delete := by
    intro kind
    refine ⟨?_, (onward_of_replies reply).knows _ (fresh.delete kind).2⟩
    rw [tally_of_command reply, (fresh.delete kind).1, if_neg fun same => other (same.1.trans kind.symm) same.2]
  mark := by
    intro kind
    rw [tally_of_command reply, fresh.mark kind, if_neg fun same => other (same.1.trans kind.symm) same.2]

end

/-! What holds in the course of a cycle, as long as no transaction and no renewal of the mirror fails. -/

/-- Between the cycles the mirror shows all that was done by commands. -/
structure Recorded (h : History) : Prop where
  once : h.Once
  mirror : h.Shows h.now.mirror.snapshot

/-- While the commands are tried, the mirror as it will be shows all that was done. -/
structure Sending (listing : Snapshot) (done rest : List Action) (h : History) : Prop where
  once : h.Once
  shows : h.Shows (listing.observeAll done)
  fresh : ∀ a ∈ rest, h.Fresh a
  distinct : rest.Pairwise fun a b => a.kind = b.kind → a.id ≠ b.id

theorem Recorded.calm (recorded : h.Recorded) (calm : Calm h h') : h'.Recorded where
  once := recorded.once.onward calm.toOnward calm.tally
  mirror := calm.mirror ▸ recorded.mirror.of_tally calm.tally

theorem Sending.calm {listing : Snapshot} {done rest : List Action} (sending : h.Sending listing done rest)
    (calm : Calm h h') : h'.Sending listing done rest where
  once := sending.once.onward calm.toOnward calm.tally
  shows := sending.shows.of_tally calm.tally
  fresh := fun a mem => (sending.fresh a mem).calm calm
  distinct := sending.distinct

theorem Sending.tail {listing : Snapshot} {done rest : List Action}
    (sending : h.Sending listing done (a :: rest)) : h.Sending listing done rest where
  once := sending.once
  shows := sending.shows
  fresh := fun b mem => sending.fresh b (List.mem_cons_of_mem _ mem)
  distinct := (List.pairwise_cons.mp sending.distinct).2

theorem Sending.command {listing : Snapshot} {done rest : List Action}
    (sending : h.Sending listing done (a :: rest)) (reply : replies (.applyCarrier a) h (.ok ()) h') :
    h'.Sending listing (done ++ [a]) rest where
  once := sending.once.command reply (sending.fresh a List.mem_cons_self)
  shows := by
    rw [Snapshot.observeAll, List.foldl_append]
    exact sending.shows.command reply
  fresh := fun b mem => (sending.fresh b (List.mem_cons_of_mem _ mem)).command reply
    ((List.pairwise_cons.mp sending.distinct).1 b mem)
  distinct := (List.pairwise_cons.mp sending.distinct).2

theorem Sending.fetched {listing : Snapshot} {done rest : List Action} (sending : h.Sending listing done rest)
    (kind : a.kind = .fetchContent) : h.Sending listing (done ++ [a]) rest := by
  have same : listing.observeAll (done ++ [a]) = listing.observeAll done := by
    simp [Snapshot.observeAll, Snapshot.observe, kind]
  exact { sending with shows := same ▸ sending.shows }

/-- What the mirror lists shows what was done, and is known. -/
theorem Recorded.listMirror {m : Snapshot} (recorded : h.Recorded) (calm : Calm h h')
    (reply : replies .listMirror h (.ok m) h') : h'.Shows m ∧ ∀ k, m.contains k = true → h'.knows k = true := by
  rcases reply with ⟨answer, _⟩ | ⟨e, failed, _⟩
  rotate_left
  · cases failed
  obtain rfl : m = h.now.mirror.snapshot := Except.ok.inj answer
  refine ⟨recorded.mirror.of_tally calm.tally, fun k present => ?_⟩
  have held : h.InMirror k := present
  exact calm.knows k (knows_iff.mpr (Or.inl (by simp [Memory.names, held])))

/-- Once it is renewed, the mirror shows what was done. -/
theorem Sending.renewed {listing : Snapshot} {done rest : List Action} {x : Except Failure Unit}
    (sending : h.Sending listing done rest) (reply : replies (.replaceMirror (listing.observeAll done)) h x h')
    (ok : x.isOk = true) : h'.Recorded := by
  have tally : ∀ kind k, h'.tally kind k = h.tally kind k := fun kind k =>
    tally_of_unfulfilled reply (Exchange.fulfils_of_ne (by simp [Exchange.method, Request.method]))
  refine ⟨sending.once.onward (onward_of_replies reply) tally, ?_⟩
  rcases reply with ⟨rfl, rfl⟩ | ⟨e, rfl, _⟩
  · cases answer : (h.now.answer (.replaceMirror (listing.observeAll done))).1 with
    | error e =>
      rw [answer] at ok
      cases ok
    | ok _ =>
      have renewed := h.now.mirror.replaceWith_ok _ answer
      exact renewed.symm ▸ sending.shows.of_tally tally
  · cases ok

/-- The outline of a cycle. While a transaction or a renewal fails nothing is claimed. -/
def onceOutline (f : Family) : Outline History where
  start h := h.Reliable → h.Recorded
  afterDevice _ h := h.Reliable → h.Recorded
  afterCarrier _ c h := h.Reliable → h.Recorded ∧ h.Shows c
  afterMirror _ c m h :=
    h.Reliable → h.Recorded ∧ h.Shows c ∧ h.Shows m ∧ ∀ k, m.contains k = true → h.knows k = true
  trying _ c _ settled done rest h := h.Reliable → settled = true ∧ h.Sending (c.retain f) done rest
  finish h := h.Reliable → h.Recorded

section

variable {p : Policy} {d c m : Snapshot} {settled : Bool} {done rest : List Action}

theorem keeps_calm {A : History → Prop} {Q : r.Answer → History → Prop}
    (calm : ∀ {h h'}, Calm h h' → A h → A h') (holds : A h) (once : ∀ h, A h → h.Reliable → h.Once)
    (renewal : r.method ≠ .replaceMirror) (command : r.method ≠ .applyCarrier)
    (after : ∀ h x h', A h → Calm h h' → replies r h x h' → Q x h') :
    (Program.ask r).Keeps (replies.after drifts) (fun h => h.Reliable → h.Once) Q h := by
  refine keeps_ask A (fun h h' drift => calm (calm_of_drifts drift)) holds once ?_
  intro h x h' before reply
  have quiet := calm_of_replies reply (fun same => absurd same renewal) fun same => absurd same command
  exact ⟨once h' (calm quiet before), after h x h' before quiet reply⟩

theorem recorded_calm (calm : Calm h h') (recorded : h.Reliable → h.Recorded) : h'.Reliable → h'.Recorded :=
  fun reliable => (recorded (calm.reliable reliable)).calm calm

theorem trying_calm (f : Family) (calm : Calm h h')
    (sending : (onceOutline f).trying d c m settled done rest h) :
    (onceOutline f).trying d c m settled done rest h' := by
  intro reliable
  obtain ⟨same, sending⟩ := sending (calm.reliable reliable)
  exact ⟨same, sending.calm calm⟩

theorem listed_calm {f : Family} (calm : Calm h h') (listed : (onceOutline f).afterMirror d c m h) :
    (onceOutline f).afterMirror d c m h' := by
  intro reliable
  obtain ⟨recorded, carrier, mirror, known⟩ := listed (calm.reliable reliable)
  exact ⟨recorded.calm calm, carrier.of_tally calm.tally, mirror.of_tally calm.tally,
    fun k present => calm.knows k (known k present)⟩

/-- The commands of a plan can be sent. -/
theorem sending_of_planned (voicemail : p.family = .voicemail) (recorded : h.Recorded) (carrier : h.Shows c)
    (mirror : h.Shows m) (known : ∀ k, m.contains k = true → h.knows k = true) :
    h.Sending (c.retain p.family) [] (p.planned d c m).carrier.toList where
  once := recorded.once
  shows := carrier.retain p.family
  fresh := fun _ mem => fresh_of_planned voicemail carrier mirror known mem
  distinct := by
    refine (p.planned d c m).carrier.distinct.imp_of_mem ?_
    intro a b memA memB distinct kind
    exact Action.id_ne_of_kind (Policy.isValidFor_carrier_of_planned a memA)
      (Policy.isValidFor_carrier_of_planned b memB) kind distinct

theorem once_valid (voicemail : p.family = .voicemail) :
    (onceOutline p.family).Valid (replies.after drifts) (fun h => h.Reliable → h.Once) p where
  listDevice := by
    intro h recorded
    refine keeps_calm recorded_calm recorded (fun _ holds reliable => (holds reliable).once) (by decide)
      (by decide) ?_
    rintro h (e | d) h' before calm _ <;> exact recorded_calm calm before
  listCarrier := by
    intro d h recorded
    refine keeps_calm recorded_calm recorded (fun _ holds reliable => (holds reliable).once) (by decide)
      (by decide) ?_
    rintro h (e | c) h' before calm reply
    · exact recorded_calm calm before
    · intro reliable
      refine ⟨recorded_calm calm before reliable, ?_⟩
      have once := (before (calm.reliable reliable)).once
      rcases reply with ⟨answer, _⟩ | ⟨e, failed, _⟩
      · rw [(h.now.carrier.list_ok answer.symm).1]
        exact once.shows_listing.of_tally calm.tally
      · cases failed
  listMirror := by
    intro d c h listed
    have stable : ∀ {h h' : History}, Calm h h' → (h.Reliable → h.Recorded ∧ h.Shows c) →
        h'.Reliable → h'.Recorded ∧ h'.Shows c := fun calm listed reliable =>
      ⟨(listed (calm.reliable reliable)).1.calm calm, (listed (calm.reliable reliable)).2.of_tally calm.tally⟩
    refine keeps_calm stable listed (fun _ holds reliable => (holds reliable).1.once) (by decide) (by decide) ?_
    rintro h (e | m) h' before calm reply
    · exact fun reliable => (stable calm before reliable).1
    · intro reliable
      obtain ⟨recorded, carrier⟩ := before (calm.reliable reliable)
      exact ⟨recorded.calm calm, carrier.of_tally calm.tally, recorded.listMirror calm reply⟩
  idle := by
    intro d c m h listed nothing reliable
    obtain ⟨recorded, carrier, mirror, known⟩ := listed reliable
    exact ⟨rfl, sending_of_planned voicemail recorded carrier mirror known⟩
  transact := by
    intro d c m h listed
    refine keeps_calm listed_calm listed (fun _ holds reliable => (holds reliable).1.once) (by simp [Request.method])
      (by simp [Request.method]) ?_
    intro h x h' before calm reply reliable
    obtain ⟨recorded, carrier, mirror, known⟩ := listed_calm calm before reliable
    exact ⟨reliable.isOk reply (Or.inl rfl), sending_of_planned voicemail recorded carrier mirror known⟩
  command := by
    intro d c m settled done a rest h mem kind sending
    refine keeps_ask _ (fun h h' drift => trying_calm _ (calm_of_drifts drift)) sending
      (fun h holds reliable => (holds reliable).2.once) ?_
    rintro h (e | _) h' before reply
    · have calm := calm_of_replies reply (by simp [Request.method]) fun _ => rfl
      have after := trying_calm _ calm before
      exact ⟨fun reliable => (after reliable).2.once, fun reliable => ⟨(after reliable).1, (after reliable).2.tail⟩⟩
    · have after : (onceOutline p.family).trying d c m settled (done ++ [a]) rest h' := by
        intro reliable
        obtain ⟨same, sending⟩ := before (Reliable.of_replies reply reliable)
        exact ⟨same, sending.command reply⟩
      exact ⟨fun reliable => (after reliable).2.once, after⟩
  fetch := by
    intro d c m settled done a rest h mem kind sending
    have once : ∀ h, (onceOutline p.family).trying d c m settled done (a :: rest) h → h.Reliable → h.Once :=
      fun h holds reliable => (holds reliable).2.once
    refine keeps_calm (trying_calm _) sending once (by simp [Request.method]) (by simp [Request.method]) ?_
    rintro h (e | payload) h' before calm _
    · exact fun reliable => ⟨(trying_calm _ calm before reliable).1, (trying_calm _ calm before reliable).2.tail⟩
    · refine keeps_calm (trying_calm _) (trying_calm _ calm before) once (by simp [Request.method])
        (by simp [Request.method]) ?_
      intro h x h' before calm _ reliable
      obtain ⟨same, sending⟩ := trying_calm _ calm before reliable
      refine ⟨same, ?_⟩
      split
      · exact sending.tail.fetched kind
      · exact sending.tail
  giveUp := by
    intro d c m done h sending reliable
    cases (sending reliable).1
  renew := by
    intro d c m done h sending
    refine keeps_ask _ (fun h h' drift => trying_calm _ (calm_of_drifts drift)) sending
      (fun h holds reliable => (holds reliable).2.once) ?_
    intro h x h' before reply
    have after : h'.Reliable → h'.Recorded := by
      intro reliable
      obtain ⟨_, sending⟩ := before (Reliable.of_replies reply reliable)
      exact sending.renewed reply (reliable.isOk reply (Or.inr rfl))
    exact ⟨fun reliable => (after reliable).once, after⟩
  trying_within := fun sending reliable => (sending reliable).2.once
  finish_within := fun recorded reliable => (recorded reliable).once

end

end History

namespace System

open History

variable {p : Policy} {s : System}

/-- Every change that is sent upstream takes effect once at the most. As long as no transaction and no
renewal of the mirror fails, the carrier marks a message as read once at the most at the wish of a cycle,
and deletes it once at the most, all through a run. -/
theorem upstream_once (voicemail : p.family = .voicemail) (run : Reaches p {} s)
    (reliable : s.history.Reliable) (k : String) :
    s.history.tally .markAsRead k ≤ 1 ∧ s.history.tally .delete k ≤ 1 := by
  have start : Steady drifts (fun h => h.Reliable → h.Once) (fun h => h.Reliable → h.Recorded) {} := by
    intro _
    exact ⟨⟨fun _ => Nat.zero_le 1, fun _ => Nat.zero_le 1, fun _ none => absurd rfl none,
      fun _ none => absurd rfl none⟩, fun _ none => absurd rfl none, fun _ none => absurd rfl none⟩
  have stable : ∀ h h', drifts h h' → (h.Reliable → h.Once) → h'.Reliable → h'.Once :=
    fun h h' drift once reliable =>
      (once ((calm_of_drifts drift).reliable reliable)).onward (onward_of_drifts drift) (calm_of_drifts drift).tally
  have steady := start.reaches (p := p) stable (fun h h' drift => recorded_calm (calm_of_drifts drift))
    (fun h recorded => (once_valid voicemail).cycle recorded) (run.lift id fun _ _ step => step.goes)
  have once := steady.now (fun h recorded reliable => (recorded reliable).once) reliable
  exact ⟨once.mark k, once.delete k⟩

/-- A message arrives and is listened to. The first command to mark it fails, the second does not. Then the
user takes it off. -/
def hesitant : List Move :=
  [.event (.carrier (.arrive (.voicemail "a") ⟨#[], ""⟩)), .start, .answer, .answer, .answer, .answer, .answer,
    .finish, .event (.device (.read "a")), .start, .answer, .answer, .answer, .answer, .answer, .fail (.other ""),
    .answer, .finish, .start, .answer, .answer, .answer, .answer, .answer, .finish,
    .event (.device (.remove "a")), .start, .answer, .answer, .answer, .answer, .answer, .finish,
    .start, .answer, .answer, .answer, .answer, .finish]

theorem hesitant_once : ∃ s, Reaches .fullSync {} s ∧ s.history.Reliable ∧
    s.history.tally .markAsRead "a" = 1 ∧ s.history.tally .delete "a" = 1 := by
  have run := reaches_getD (p := .fullSync) (s := {}) hesitant (by decide +kernel)
  have reliable : ((moves .fullSync {} hesitant).getD {}).history.Reliable := by decide +kernel
  obtain ⟨mark, delete⟩ := upstream_once rfl run reliable "a"
  exact ⟨_, run, reliable, Nat.le_antisymm mark (by decide +kernel), Nat.le_antisymm delete (by decide +kernel)⟩

end System

end MailboxSync
