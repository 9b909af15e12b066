import MailboxSync.Config
import MailboxSync.Orchestrator
import MailboxSync.Proofs.TableCycle

namespace MailboxSync

open Table (Scope Database)

/-- One mailbox kept in a database: its orchestrator, the rest of the cycle under way if there is one, and what the
requests for cycles were answered. -/
structure Desk where
  docket : Docket
  orchestrator : Orchestrator
  cycle : Option (Program (Except Failure Report)) := none
  replies : List SyncReply := []

namespace Desk

/-- An orchestrator has been made for the stores of a mailbox. -/
def opening (p : Policy) (db : Database) : Desk := { docket := { database := db }, orchestrator := { policy := p } }

/-- A cycle is asked for. -/
def request (d : Desk) : Desk :=
  match d.orchestrator.enter with
  | (.running, o, _) => { d with orchestrator := o, cycle := some o.policy.cycle }
  | (_, o, _) => { d with orchestrator := o, replies := d.replies ++ [.coalesced] }

/-- The cycle under way has come to its end. -/
def conclude (d : Desk) (x : Except Failure Report) : Desk :=
  let (_, o, _) := d.orchestrator.leave (.ofResult x)
  { d with orchestrator := o, cycle := none, replies := d.replies ++ [.ended (.ofResult x)] }

/-- A step of the request that is under way. -/
inductive Works (s : Scope) : Desk → Desk → Prop
  | call {d r next x b} : d.cycle = some (.call r next) → Docket.replies s r d.docket x b →
      Works s d { d with docket := b, cycle := some (next x) }
  | finish {d x} : d.cycle = some (.done x) → Works s d (d.conclude x)

/-- Something happens beside it. -/
inductive Drifts (s : Scope) : Desk → Desk → Prop
  | drift {d b} : Docket.drifts s d.docket b → Drifts s d { d with docket := b }

/-- One request is made after the other. The user and other stores do not wait for them. -/
inductive Step (s : Scope) : Desk → Desk → Prop
  | drift {d e} : Drifts s d e → Step s d e
  | request {d} : d.cycle = none → Step s d d.request
  | work {d e} : Works s d e → Step s d e

abbrev Reaches (s : Scope) : Desk → Desk → Prop := Relation.ReflTransGen (Step s)

/-- The request under way, if there is one, comes to its end, whatever its calls are answered and whatever happens
meanwhile. -/
inductive Returns (s : Scope) : Desk → Prop
  | idle {d} : d.cycle = none → Returns s d
  | busy {d} : (∀ e, Relation.ReflTransGen (Drifts s) d e → ∃ f, Works s e f) →
      (∀ e f, Relation.ReflTransGen (Drifts s) d e → Works s e f → Returns s f) → Returns s d

variable {s : Scope} {p : Policy} {d e : Desk} {db : Database}

theorem cycle_of_drifts (drifts : Relation.ReflTransGen (Drifts s) d e) : e.cycle = d.cycle := by
  induction drifts with
  | refl => rfl
  | tail _ drift ih =>
    cases drift
    exact ih

theorem returns (s : Scope) (d : Desk) : Returns s d := by
  cases under : d.cycle with
  | none => exact .idle under
  | some q =>
    induction q generalizing d with
    | done x =>
      refine .busy (fun e drifts => ⟨_, .finish ((cycle_of_drifts drifts).trans under)⟩) fun e f drifts work => ?_
      have same := (cycle_of_drifts drifts).trans under
      cases work with
      | call busy => cases busy.symm.trans same
      | finish => exact .idle rfl
    | call r next ih =>
      refine .busy (fun e drifts => ?_) fun e f drifts work => ?_
      · obtain ⟨x, b, reply⟩ := Docket.exists_reply s r e.docket
        exact ⟨_, .call ((cycle_of_drifts drifts).trans under) reply⟩
      · have same := (cycle_of_drifts drifts).trans under
        cases work with
        | call busy reply =>
          cases busy.symm.trans same
          exact ih _ _ rfl
        | finish busy => cases busy.symm.trans same

/-- The requests so far have been completed, and the one under way will be. -/
structure Thriving (p : Policy) (s : Scope) (d : Desk) : Prop where
  policy : d.orchestrator.policy = p
  free : d.cycle = none → d.orchestrator.locked = false
  sound : d.docket.Sound
  course : ∀ q, d.cycle = some q → q.Keeps ((Docket.replies s).after (Docket.drifts s)) Docket.Sound
    (fun x _ => ∃ r, x = .ok r) d.docket
  completed : ∀ x ∈ d.replies, ∃ r, x = .ended (.completed r)

/-- A request that finds the lock free begins a cycle. -/
theorem request_eq (free : d.orchestrator.locked = false) : ∃ o, o.policy = d.orchestrator.policy ∧
    d.request = { d with orchestrator := o, cycle := some o.policy.cycle } := by
  obtain ⟨b, ⟨q, status, locked⟩, cycle, replies⟩ := d
  cases free
  exact ⟨{ policy := q, status := { status with state := .running }, locked := true }, rfl, rfl⟩

theorem leave_eq (o : Orchestrator) (y : Outcome) :
    (o.leave y).2.1.policy = o.policy ∧ (o.leave y).2.1.locked = false := by
  have left : (o.leave y).2.1 = if (o.status.record y).state = y.state then
      Orchestrator.setState { o with status := o.status.record y, locked := false } .idle
    else { o with status := o.status.record y, locked := false } := rfl
  rw [left]
  split <;> exact ⟨rfl, rfl⟩

namespace Thriving

theorem opening (p : Policy) (written : db.Written) (s : Scope) : Thriving p s (opening p db) where
  policy := rfl
  free := fun _ => rfl
  sound := ⟨written.tidy, fun _ mem => absurd mem List.not_mem_nil⟩
  course := fun _ under => nomatch under
  completed := fun _ mem => absurd mem List.not_mem_nil

theorem drift (thriving : Thriving p s d) (drift : Drifts s d e) : Thriving p s e := by
  obtain ⟨policy, free, sound, course, completed⟩ := thriving
  obtain ⟨drift⟩ := drift
  refine ⟨policy, free, sound.of_drifts drift, fun q under => ?_, completed⟩
  exact (course q under).drift (fun _ _ drift sound => sound.of_drifts drift) (fun _ _ _ _ => id) drift

theorem request (thriving : Thriving p s d) (family : s.family = p.family) (idle : d.cycle = none) :
    Thriving p s d.request := by
  obtain ⟨policy, free, sound, -, completed⟩ := thriving
  obtain ⟨o, same, requested⟩ := request_eq (free idle)
  rw [requested]
  refine ⟨same.trans policy, nofun, sound, ?_, completed⟩
  intro q under
  obtain rfl := Option.some.inj under
  rw [same, policy]
  exact Docket.keeps_cycle family sound

theorem work (thriving : Thriving p s d) (work : Works s d e) : Thriving p s e := by
  obtain ⟨policy, free, sound, course, completed⟩ := thriving
  cases work with
  | @call r next x b under reply =>
    have rest := (course _ under).2 x b ⟨d.docket, .refl, reply⟩
    refine ⟨policy, nofun, rest.now, ?_, completed⟩
    intro q later
    obtain rfl := Option.some.inj later
    exact rest
  | @finish x under =>
    obtain ⟨r, rfl⟩ := (course _ under).2
    obtain ⟨same, unlocked⟩ := leave_eq d.orchestrator (.ofResult (.ok r))
    refine ⟨same.trans policy, fun _ => unlocked, sound, nofun, fun x mem => ?_⟩
    rcases List.mem_append.mp mem with earlier | last
    · exact completed x earlier
    · exact ⟨r, List.mem_singleton.mp last⟩

theorem reaches (thriving : Thriving p s d) (family : s.family = p.family) (run : Reaches s d e) : Thriving p s e := by
  induction run with
  | refl => exact thriving
  | tail _ step ih =>
    cases step with
    | drift drift => exact ih.drift drift
    | request idle => exact ih.request family idle
    | work work => exact ih.work work

end Thriving

/-- Nothing stands in the way of cycles: all requests so far were completed, and none is left without an answer.
The database can be listed, and no transaction and no renewal of the mirror was refused. -/
structure Unhindered (s : Scope) (d : Desk) : Prop where
  completed : ∀ x ∈ d.replies, ∃ r, x = .ended (.completed r)
  returns : Returns s d
  granted : ∀ x ∈ d.docket.calls, x.method.isErrand = false → x.failed = false
  device : ∃ l, d.docket.database.listDevice s = .ok l
  mirror : ∃ l, d.docket.database.listMirror s = .ok l

theorem Thriving.unhindered (thriving : Thriving p s d) : Unhindered s d where
  completed := thriving.completed
  returns := returns s d
  granted := thriving.sound.granted
  device := (thriving.sound.tidy.listDevice s).imp fun _ listed => listed.1
  mirror := thriving.sound.tidy.listMirror s

theorem reaches_of_drifts {b b' : Docket} (d : Desk) (drifts : Relation.ReflTransGen (Docket.drifts s) b b') :
    Reaches s { d with docket := b } { d with docket := b' } := by
  induction drifts with
  | refl => exact .refl
  | tail _ drift ih => exact ih.tail (.drift (.drift drift))

/-- In whatever way a cycle can end it is brought to its end. -/
theorem reaches_of_ends {q : Program (Except Failure Report)} {b b' : Docket} {x : Except Failure Report} (d : Desk)
    (ends : Program.Ends ((Docket.replies s).after (Docket.drifts s)) q b x b') :
    Reaches s { d with docket := b, cycle := some q } (conclude { d with docket := b' } x) := by
  induction ends with
  | done => exact .single (.work (.finish rfl))
  | @call r next b x b' a t reply _ ih =>
    obtain ⟨b₁, drifts, answered⟩ := reply
    exact ((reaches_of_drifts { d with cycle := some (.call r next) } drifts).tail
      (.work (.call rfl answered))).trans ih

end Desk

theorem Config.openStores_ok {c : Config} (valid : c.validate = .ok ()) : c.openStores = .ok ⟨c.mailbox, c.family⟩ := by
  unfold validate at valid
  split at valid
  · cases valid
  · next named => rw [openStores, Scope.named, if_neg named]

theorem Config.family_syncPolicy (c : Config) : c.syncPolicy.family = c.family := by
  obtain ⟨mailbox, path, policy, bytes, pool⟩ := c
  cases policy <;> rfl

/-- With a configuration that is valid the stores can be opened, and whatever is on the carrier, whichever of its
calls fail and whatever happens meanwhile, no cycle of the mailbox is blocked, as long as only stores write to the
database. -/
theorem Config.cycles_unhindered {c : Config} (valid : c.validate = .ok ()) : ∃ s, c.openStores = .ok s ∧
    ∀ db d, Database.Written db → Desk.Reaches s (.opening c.syncPolicy db) d → d.Unhindered s := by
  refine ⟨_, c.openStores_ok valid, fun db d written run => ?_⟩
  exact ((Desk.Thriving.opening c.syncPolicy written _).reaches c.family_syncPolicy.symm run).unhindered

/-- The settings of a mailbox whose greetings are copied. -/
def Config.greetings : Config := { mailbox := "main", policy := .greetingSync }

/-- The voicemail stores of the mailbox have an item of the same name as one of the greetings on the carrier. -/
def strayVoicemail : Database :=
  let s : Scope := ⟨"main", .voicemail⟩
  let inserted := ((Tables.mk s {} {}).answer (.applyDevice [⟨.insert, .device, .voicemail "g"⟩])).2.database
  ((Tables.mk s inserted {}).answer (.replaceMirror (.ofList [.voicemail "g"]))).2.database

/-- There are two greetings on the carrier, an item without a name and a message. The content of the first greeting
cannot be fetched, and the user takes the second one off the device while its content is fetched. -/
def fumble (r : Request) (b : Docket) : r.Answer × Docket :=
  let s : Scope := ⟨"main", .greeting⟩
  let greeting (id : String) : Item := ⟨id, .greeting .normal true, false, false, none, none⟩
  let carrier := ({ fetchFaults := .ofList ["g"] } : Carrier).seed
    [greeting "g", greeting "h", greeting " ", .voicemail "v"]
  let db := match r with
    | .storeContent i _ => b.database.remove s i.id
    | _ => b.database
  let (x, t) := (Tables.mk s db carrier).answer r
  (x, ⟨t.database, ⟨r, x⟩ :: b.calls⟩)

theorem written_strayVoicemail : strayVoicemail.Written :=
  (Relation.ReflTransGen.refl.tail ⟨_, Or.inr ⟨_, _, rfl⟩⟩).tail ⟨_, Or.inr ⟨_, _, rfl⟩⟩

theorem fumble_possible (r : Request) (b : Docket) :
    ((Docket.replies ⟨"main", .greeting⟩).after (Docket.drifts ⟨"main", .greeting⟩)) r b (fumble r b).1
      (fumble r b).2 := by
  cases r with
  | storeContent i p =>
    exact ⟨⟨b.database.remove ⟨"main", .greeting⟩ i.id, b.calls⟩, .single ⟨rfl, Or.inl ⟨.remove i.id, rfl⟩⟩,
      ⟨_, rfl, rfl⟩, rfl⟩
  | listCarrier => exact ⟨b, .refl, ⟨rfl, rfl⟩, rfl⟩
  | applyCarrier | fetchContent => exact ⟨b, .refl, rfl, rfl⟩
  | listDevice | listMirror | applyDevice | replaceMirror => exact ⟨b, .refl, ⟨_, rfl, rfl⟩, rfl⟩

theorem strayVoicemail_unhindered : Config.greetings.validate = .ok () ∧ strayVoicemail.Written ∧
    ∃ s d, Config.greetings.openStores = .ok s ∧
      Desk.Reaches s (.opening Config.greetings.syncPolicy strayVoicemail) d ∧ d.replies.length = 1 ∧
      d.docket.calls.countP Exchange.failed = 2 ∧ d.Unhindered s := by
  have valid : Config.greetings.validate = .ok () := by decide +kernel
  obtain ⟨s, opened, unhindered⟩ := Config.cycles_unhindered valid
  obtain rfl : s = ⟨"main", .greeting⟩ := Except.ok.inj (opened.symm.trans (Config.greetings.openStores_ok valid))
  have failures : (Config.greetings.syncPolicy.cycle.run fumble { database := strayVoicemail }).2.calls.countP
      Exchange.failed = 2 := by
    decide +kernel
  have ends := Program.ends_run fumble_possible Config.greetings.syncPolicy.cycle { database := strayVoicemail }
  obtain ⟨o, same, requested⟩ := Desk.request_eq (d := .opening Config.greetings.syncPolicy strayVoicemail) rfl
  have asked : Desk.Step ⟨"main", .greeting⟩ (.opening Config.greetings.syncPolicy strayVoicemail) _ := .request rfl
  rw [requested, same] at asked
  have run := Desk.reaches_of_ends ⟨{ database := strayVoicemail }, o, none, []⟩ ends
  exact ⟨valid, written_strayVoicemail, _, _, opened, .head asked run, rfl, failures,
    unhindered _ _ written_strayVoicemail (.head asked run)⟩

end MailboxSync
