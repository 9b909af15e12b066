import MailboxSync.Proofs.RetoldOutcome
import MailboxSync.Proofs.TidyTables
import MailboxSync.Proofs.Transcript

namespace MailboxSync

open Program (ask)
open Table (Scope Database)

/-! The calls of cycles, where the device and the mirror are kept in a database. -/

/-- A database, and the calls that were made so far, the latest first. -/
structure Docket where
  database : Database
  calls : List Exchange := []

namespace Docket

variable {s : Scope} {b b' : Docket} {r : Request} {x : r.Answer} {l : Snapshot}

/-- What a call may be answered. The carrier lists, and carries out and hands out what it likes. Otherwise the stores
on the database answer. -/
def Answers (s : Scope) (r : Request) (db : Database) (x : r.Answer) (db' : Database) : Prop :=
  match r.method with
  | .listCarrier => x.isOk = true ∧ db' = db
  | .applyCarrier | .fetchContent => db' = db
  | _ => ∃ c, x = ((Tables.mk s db c).answer r).1 ∧ db' = ((Tables.mk s db c).answer r).2.database

def replies (s : Scope) : Reaction Docket :=
  fun r b x b' => Answers s r b.database x b'.database ∧ b'.calls = ⟨r, x⟩ :: b.calls

/-- Between two calls the user may do something on the device, and stores of other mailboxes or of the other family
may do anything. -/
def drifts (s : Scope) (b b' : Docket) : Prop :=
  b'.calls = b.calls ∧
    ((∃ e, b'.database = b.database.happen s e) ∨ ∃ s', s' ≠ s ∧ s'.Writes b.database b'.database)

/-- Only stores have written to the database, and no call has failed but such as carry out commands. -/
structure Sound (b : Docket) : Prop where
  tidy : b.database.Tidy
  granted : ∀ x ∈ b.calls, x.method.isErrand = false → x.failed = false

/-- The device was listed, and has no items with a name but those that were listed. -/
structure Listed (s : Scope) (l : Snapshot) (b : Docket) : Prop extends Sound b where
  known : ∀ i : Item, i.isKeyed = true → b.database.has s i.id = true → ((l.retain s.family).get? i.id).isSome = true

theorem Sound.of_drifts (sound : b.Sound) (drift : drifts s b b') : b'.Sound := by
  obtain ⟨calls, ⟨e, happened⟩ | ⟨s', -, writes⟩⟩ := drift
  · exact ⟨happened ▸ sound.tidy.happen s e, calls ▸ sound.granted⟩
  · exact ⟨sound.tidy.writes writes, calls ▸ sound.granted⟩

theorem Listed.of_drifts (listed : b.Listed s l) (drift : drifts s b b') : b'.Listed s l := by
  refine ⟨listed.toSound.of_drifts drift, fun i keyed held => listed.known i keyed ?_⟩
  obtain ⟨-, ⟨e, happened⟩ | ⟨s', other, writes⟩⟩ := drift
  · rw [happened] at held
    exact Database.has_happen e held
  · exact Database.has_writes other writes held

/-- Every call is answered. -/
theorem exists_reply (s : Scope) (r : Request) (b : Docket) : ∃ x b', replies s r b x b' := by
  have answer : ∃ x db', Answers s r b.database x db' := by
    cases r with
    | listCarrier => exact ⟨.ok .empty, b.database, rfl, rfl⟩
    | applyCarrier a => exact ⟨.ok (), b.database, rfl⟩
    | fetchContent i => exact ⟨.error (.itemNotFound i.id), b.database, rfl⟩
    | listDevice | listMirror | applyDevice | storeContent | replaceMirror => exact ⟨_, _, {}, rfl, rfl⟩
  obtain ⟨x, db', answered⟩ := answer
  exact ⟨x, ⟨db', ⟨r, x⟩ :: b.calls⟩, answered, rfl⟩

theorem answers_tidy {db db' : Database} (tidy : db.Tidy) (answered : Answers s r db x db') : db'.Tidy := by
  unfold Answers at answered
  split at answered
  · rw [answered.2]
    exact tidy
  · rw [answered]
    exact tidy
  · rw [answered]
    exact tidy
  · obtain ⟨c, -, rfl⟩ := answered
    exact tidy.answer s r c

theorem Sound.of_replies (sound : b.Sound) (reply : replies s r b x b')
    (granted : r.method.isErrand = false → x.isOk = true) : b'.Sound := by
  refine ⟨answers_tidy sound.tidy reply.1, fun y mem errand => ?_⟩
  rw [reply.2] at mem
  rcases List.mem_cons.mp mem with rfl | earlier
  · rw [Exchange.failed, granted errand]
    rfl
  · exact sound.granted y earlier errand

theorem listDevice_ok (sound : b.Sound) {x : Except Failure Snapshot} (reply : replies s .listDevice b x b') :
    ∃ d, x = .ok d ∧ b'.Listed s d := by
  obtain ⟨d, listed, known⟩ := sound.tidy.listDevice s
  obtain ⟨c, rfl, same⟩ := reply.1
  have answer : ((Tables.mk s b.database c).answer .listDevice).1 = .ok d := listed
  refine ⟨d, answer, sound.of_replies reply fun _ => by rw [answer]; rfl, ?_⟩
  rw [same]
  exact known

/-- Nothing but a transaction can be refused by the stores, or an errand. -/
theorem granted_of_ne (tidy : b.database.Tidy) (reply : replies s r b x b') (other : r.method ≠ .applyDevice)
    (errand : r.method.isErrand = false) : x.isOk = true := by
  obtain ⟨answered, -⟩ := reply
  cases r with
  | listDevice =>
    obtain ⟨d, listed, -⟩ := tidy.listDevice s
    obtain ⟨c, rfl, -⟩ := answered
    rw [show ((Tables.mk s b.database c).answer .listDevice).1 = .ok d from listed]
    rfl
  | listCarrier => exact answered.1
  | listMirror =>
    obtain ⟨m, listed⟩ := tidy.listMirror s
    obtain ⟨c, rfl, -⟩ := answered
    rw [show ((Tables.mk s b.database c).answer .listMirror).1 = .ok m from listed]
    rfl
  | replaceMirror m =>
    obtain ⟨c, rfl, -⟩ := answered
    rfl
  | applyDevice as => exact absurd rfl other
  | storeContent | applyCarrier | fetchContent => cases errand

theorem Sound.of_other (sound : b.Sound) (reply : replies s r b x b') (other : r.method ≠ .applyDevice) :
    b'.Sound := sound.of_replies reply (granted_of_ne sound.tidy reply other)

/-- A listing of another store leaves the database alone. -/
theorem Listed.of_replies {d : Snapshot} (listed : b.Listed s d) (reply : replies s r b x b')
    (other : r.method ≠ .applyDevice) (same : b'.database = b.database) : b'.Listed s d :=
  ⟨listed.toSound.of_other reply other, same ▸ listed.known⟩

variable {p : Policy} {d c m : Snapshot}

/-- No action of a transaction is out of place in the store, and none puts in what the store has. -/
theorem Listed.accepts (listed : b.Listed s d) (family : s.family = p.family) :
    ∃ db, b.database.apply s (p.planned d c m).device.toList = .ok db := by
  refine listed.tidy.apply_of_fits ?_ (ActionList.distinct _) fun a mem insert => ?_
  · intro a mem
    exact ⟨Policy.isValidFor_device_of_planned a mem, (Policy.family_of_planned (Or.inl mem)).trans family.symm⟩
  · rw [← Bool.not_eq_true]
    intro held
    have keyed : a.item.isKeyed = true := by
      rcases p.item_of_actions _ _ _ (Plan.mem_of_ofList (Or.inl mem)) with held | held | held <;>
        exact Snapshot.keyed _ _ held
    have known := listed.known a.item keyed held
    have absent : (d.retain p.family).get? a.id = none := Policy.get?_eq_none_of_insert _ _ _ mem insert
    rw [family, show (d.retain p.family).get? a.item.id = none from absent] at known
    cases known

/-! A cycle goes through -/

section

variable {α : Type} {Q : r.Answer → Docket → Prop}

theorem Sound.keeps_ask (sound : b.Sound)
    (after : ∀ b x b', b.Sound → replies s r b x b' → b'.Sound ∧ Q x b') :
    (ask r).Keeps ((replies s).after (drifts s)) Sound Q b :=
  .call Sound (fun _ _ drift sound => sound.of_drifts drift) sound (fun _ => id) after

theorem Listed.keeps_ask (listed : b.Listed s d)
    (after : ∀ b x b', b.Listed s d → replies s r b x b' → b'.Sound ∧ Q x b') :
    (ask r).Keeps ((replies s).after (drifts s)) Sound Q b :=
  .call (Listed s d) (fun _ _ drift listed => listed.of_drifts drift) listed (fun _ => Listed.toSound) after

theorem keeps_of_asks {q : Program α} (asks : q.Asks fun r => r.method ≠ .applyDevice) (sound : b.Sound) :
    q.Keeps ((replies s).after (drifts s)) Sound (fun _ => Sound) b := by
  induction q generalizing b with
  | done a => exact ⟨sound, sound⟩
  | call r next ih =>
    refine .call Sound (fun _ _ drift sound => sound.of_drifts drift) sound (fun _ => id) ?_
    intro b x b' sound reply
    exact ih x (asks.2 x) (sound.of_other reply asks.1)

end

theorem keeps_commit (listed : b.Listed s d) (family : s.family = p.family) :
    (p.planned d c m).device.commit.Keeps ((replies s).after (drifts s)) Sound
      (fun o b => o.isSettled = true ∧ b.Sound) b := by
  unfold ActionList.commit
  split
  · exact ⟨listed.toSound, rfl, listed.toSound⟩
  split
  · next bad found =>
    have refused := List.find?_some found
    rw [Policy.isValidFor_device_of_planned bad (List.mem_of_find?_eq_some found)] at refused
    cases refused
  refine .bind (Q := fun x b => x = .ok () ∧ b.Sound) ?_ ?_
  · refine listed.keeps_ask fun b x b' listed reply => ?_
    obtain ⟨db, accepted⟩ := listed.accepts family (c := c) (m := m)
    obtain ⟨c, answered, -⟩ := reply.1
    have granted : x = .ok () := by
      rw [answered]
      show ((Tables.mk s b.database c).change (b.database.apply s (p.planned d _ m).device.toList)).1 = _
      rw [accepted]
      rfl
    have sound := listed.toSound.of_replies reply fun _ => by rw [granted]; rfl
    exact ⟨sound, granted, sound⟩
  · rintro _ b ⟨rfl, sound⟩
    exact ⟨sound, rfl, sound⟩

theorem keeps_carryOut (listed : b.Listed s d) (family : s.family = p.family) :
    (p.planned d c m).carryOut.Keeps ((replies s).after (drifts s)) Sound
      (fun applied b => applied.device.isSettled = true ∧ b.Sound) b := by
  have commits := keeps_commit (c := c) (m := m) listed family
  generalize p.planned d c m = plan at commits ⊢
  refine .bind commits ?_
  rintro o b ⟨settled, sound⟩
  exact .bind (keeps_of_asks (Action.attemptAll_asks (fun _ other => other) _) sound)
    fun sent b sound => ⟨sound, settled, sound⟩

theorem keeps_conclude {plan : Plan} {applied : Applied} (settled : applied.device.isSettled = true) (sound : b.Sound) :
    (p.conclude c plan applied).Keeps ((replies s).after (drifts s)) Sound (fun x _ => ∃ r, x = .ok r) b := by
  have renew : ∀ l, (ask (.replaceMirror l)).Keeps ((replies s).after (drifts s)) Sound
      (fun x b => x = .ok () ∧ b.Sound) b := by
    intro l
    refine sound.keeps_ask fun b x b' sound reply => ?_
    have after := sound.of_other reply nofun
    obtain ⟨c, answered, -⟩ := reply.1
    exact ⟨after, answered, after⟩
  unfold Policy.conclude
  cases outcome : applied.device with
  | rolledBack e =>
    rw [outcome] at settled
    cases settled
  | skipped | committed n =>
    refine .bind (renew _) ?_
    rintro _ b ⟨rfl, sound⟩
    exact ⟨sound, _, rfl⟩

/-- Whatever the carrier lists and whichever of its calls fail, a cycle that works on the rows of its own family
completes. -/
theorem keeps_cycle (family : s.family = p.family) (sound : b.Sound) :
    p.cycle.Keeps ((replies s).after (drifts s)) Sound (fun x _ => ∃ r, x = .ok r) b := by
  unfold Policy.cycle
  refine .bind (Q := fun x b => ∃ d, x = .ok d ∧ b.Listed s d) ?_ ?_
  · refine sound.keeps_ask fun b x b' sound reply => ?_
    obtain ⟨d, listed, after⟩ := listDevice_ok sound reply
    exact ⟨after.toSound, d, listed, after⟩
  rintro _ b ⟨d, rfl, listed⟩
  -- Up to the transaction nothing comes to the rows of this store: what was listed covers all that it has.
  refine .bind (Q := fun x b => ∃ c, x = .ok c ∧ b.Listed s d) ?_ ?_
  · refine listed.keeps_ask fun b x b' listed reply => ?_
    obtain ⟨granted, same⟩ := reply.1
    have after := listed.of_replies reply nofun same
    cases x with
    | ok c => exact ⟨after.toSound, c, rfl, after⟩
    | error e => cases granted
  rintro _ b ⟨c, rfl, listed⟩
  refine .bind (Q := fun x b => ∃ m, x = .ok m ∧ b.Listed s d) ?_ ?_
  · refine listed.keeps_ask fun b x b' listed reply => ?_
    have granted := granted_of_ne listed.tidy reply nofun rfl
    obtain ⟨_, -, same⟩ := reply.1
    have after := listed.of_replies reply nofun same
    cases x with
    | ok m => exact ⟨after.toSound, m, rfl, after⟩
    | error e => cases granted
  rintro _ b ⟨m, rfl, listed⟩
  simp only [Policy.planFor_eq]
  refine .bind (keeps_carryOut listed family) fun applied b after => ?_
  exact keeps_conclude after.1 after.2

end Docket

end MailboxSync
