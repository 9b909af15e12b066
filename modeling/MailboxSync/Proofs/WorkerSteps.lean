import MailboxSync.Proofs.RequestLock
import MailboxSync.Proofs.Transcript
import MailboxSync.Worker

namespace MailboxSync

namespace Worker

variable {w : Worker} {t : Trigger} {rest : List Command} {stop : Bool}

theorem phase_send (w : Worker) (c : Command) : (w.send c).phase = w.phase := by
  unfold send
  split <;> rfl

theorem queue_send (w : Worker) (c : Command) (live : w.phase ≠ .stopped) :
    (w.send c).queue = w.queue ++ [c] := by
  rw [send, if_neg live]

theorem receive_sync (waiting : w.phase = .waiting) (first : w.queue = .sync t :: rest) :
    w.receive = ⟨rest, .triggered⟩ := by
  simp only [receive, waiting, first]

theorem receive_shutdown (waiting : w.phase = .waiting) (first : w.queue = .shutdown :: rest) :
    w.receive = ⟨rest, .stopped⟩ := by
  simp only [receive, waiting, first]

theorem gather_eq (triggered : w.phase = .triggered) :
    w.gather = ⟨[], .serving (w.queue.contains .shutdown)⟩ := by
  simp only [gather, triggered]

theorem conclude_eq (serving : w.phase = .serving stop) :
    w.conclude = ⟨[], if stop || w.queue.contains .shutdown then .stopped else .waiting⟩ := by
  simp only [conclude, serving]

theorem arrived_send_sync (live : w.phase ≠ .stopped) : (w.send (.sync t)).arrived = w.arrived + 1 := by
  rw [arrived, queue_send _ _ live, List.filter_append, List.length_append]
  rfl

theorem arrived_send_shutdown (w : Worker) : (w.send .shutdown).arrived = w.arrived := by
  unfold send
  split
  · rfl
  · simp [arrived, List.filter_append, Command.isSync]

theorem arrived_sync (first : w.queue = .sync t :: rest) : w.arrived = (rest.filter Command.isSync).length + 1 := by
  rw [arrived, first]
  rfl

theorem arrived_shutdown (first : w.queue = .shutdown :: rest) :
    w.arrived = (rest.filter Command.isSync).length := by
  rw [arrived, first]
  rfl

end Worker

/-- The cycle of the request has come to its end. -/
def Stage.hasEnded : Stage → Bool
  | ended _ | recorded _ | released _ | notified _ | answered (.ended _) => true
  | asked | refused | admitted | running | answered .coalesced => false

/-- What a worker is busy with. -/
inductive Errand where
  | idle
  /-- It has asked for a cycle. -/
  | request (stage : Stage)
  /-- Its cycle is under way: the calls made so far, and what is left to do. -/
  | cycle (made : Transcript) (rest : Program (Except Failure Report))
  /-- It has dropped triggers, and is about to say how many. -/
  | report (dropped : List Nat)

namespace Errand

/-- A request whose cycle has begun gives way to the cycle. -/
def ofStage (p : Policy) : Stage → Errand
  | .running => .cycle [] p.cycle
  | stage => .request stage

@[simp] theorem ofStage_running (p : Policy) : ofStage p .running = .cycle [] p.cycle := rfl

@[simp] theorem ofStage_of_ne {stage : Stage} (p : Policy) (other : stage ≠ .running) :
    ofStage p stage = .request stage := by
  cases stage with
  | running => exact absurd rfl other
  | _ => rfl

/-- The lock is held for the worker. -/
def holds : Errand → Bool
  | request stage => stage.holds
  | cycle _ _ => true
  | idle | report _ => false

/-- It is not about a cycle. -/
def isAside : Errand → Bool
  | idle | report _ => true
  | request _ | cycle _ _ => false

end Errand

/-- Something that can be told of a worker afterwards. Triggers are numbered as they are sent, and turns as
the worker takes them: each turn is for one trigger that was received. -/
inductive Note where
  | sent (i : Nat)
  | received (i j : Nat)
  /-- The queue was emptied before the cycle, and whether a shutdown was in it. -/
  | drained (j : Nat) (folded : List Nat) (stop : Bool)
  /-- The request made for this trigger found the lock taken. -/
  | refused (i j : Nat)
  | started (j : Nat)
  | ended (j : Nat) (made : Transcript) (result : Except Failure Report)
  /-- The queue was emptied after the cycle. -/
  | swept (j : Nat) (dropped : List Nat) (stop : Bool)
  /-- These triggers were counted as coalesced. -/
  | counted (is : List Nat)
  /-- The worker was waiting and received the shutdown. -/
  | closed
  /-- A request that was not the worker's found the lock taken, and was counted as coalesced. -/
  | turnedAway

namespace Note

/-- The triggers that were taken from the queue. -/
def takes : Note → List Nat
  | received i _ => [i]
  | drained _ is _ | swept _ is _ => is
  | sent _ | refused _ _ | started _ | ended _ _ _ | counted _ | closed | turnedAway => []

def sends? : Note → Option Nat
  | sent i => some i
  | received _ _ | drained _ _ _ | refused _ _ | started _ | ended _ _ _ | swept _ _ _ | counted _ | closed
  | turnedAway => none

/-- The turn it belongs to. -/
def turn? : Note → Option Nat
  | received _ j | drained j _ _ | refused _ j | started j | ended j _ _ | swept j _ _ => some j
  | sent _ | counted _ | closed | turnedAway => none

/-- The worker has seen a shutdown. -/
def halts : Note → Bool
  | drained _ _ stop | swept _ _ stop => stop
  | closed => true
  | sent _ | received _ _ | refused _ _ | started _ | ended _ _ _ | counted _ | turnedAway => false

end Note

/-- An orchestrator, a worker that has been started for it, and requests that others make at it, with all
that is to be told of the worker, the latest last. -/
structure Shift where
  orchestrator : Orchestrator
  others : List Stage := []
  worker : Worker := {}
  errand : Errand := .idle
  /-- A shutdown has been sent. Nothing can be sent after it. -/
  dismissed : Bool := false
  /-- How many triggers were taken from the queue. -/
  taken : Nat := 0
  /-- The trigger that was received last. -/
  hand : Nat := 0
  turn : Nat := 0
  log : List Note := []

/-- What there is to tell when a worker's request comes from one stage to another. It was made for this
trigger in this turn. -/
def Note.ofStages (i j : Nat) : Stage → Stage → List Note
  | .asked, .refused => [.refused i j]
  | .refused, _ => [.counted [i]]
  | .admitted, _ => [.started j]
  | _, _ => []

theorem Note.turn?_ofStages {i j k : Nat} {a b : Stage} {x : Note} (mem : x ∈ ofStages i j a b)
    (turn : x.turn? = some k) : k = j := by
  unfold ofStages at mem
  split at mem <;> simp only [List.mem_singleton, List.not_mem_nil] at mem <;> subst mem <;> cases turn <;> rfl

theorem Note.aside_ofStages {i j : Nat} {a b : Stage} {x : Note} (mem : x ∈ ofStages i j a b) :
    x.sends? = none ∧ x.takes = [] ∧ x.halts = false := by
  unfold ofStages at mem
  split at mem <;> simp only [List.mem_singleton, List.not_mem_nil] at mem <;> subst mem <;>
    exact ⟨rfl, rfl, rfl⟩

namespace Shift

def opening (policy : Policy) : Shift := { orchestrator := { policy } }

/-- How many triggers were sent. -/
def sent (s : Shift) : Nat := s.taken + s.worker.arrived

/-- The triggers in the queue. -/
def pending (s : Shift) : List Nat := List.range' s.taken s.worker.arrived

/-- A shutdown is in the queue. -/
def summoned (s : Shift) : Bool := s.worker.queue.contains .shutdown

/-- What is told of a turn. -/
def round (s : Shift) (j : Nat) : List Note := s.log.filter fun x => x.turn? = some j

/-- The worker has stopped, and nothing is left to be said. -/
def IsOver (s : Shift) : Prop := s.worker.phase = .stopped ∧ s.errand = .idle

/-- The worker has taken the trigger from the queue before its cycle, for that cycle. -/
def TakesUp (s : Shift) (j i : Nat) : Prop :=
  .received i j ∈ s.log ∨ ∃ is stop, .drained j is stop ∈ s.log ∧ i ∈ is

section

variable (s : Shift)

def sends (t : Trigger) : Shift :=
  { s with worker := s.worker.send (.sync t), log := s.log ++ [.sent s.sent] }

def dismisses : Shift := { s with worker := s.worker.send .shutdown, dismissed := true }

def receives : Shift :=
  { s with
    worker := s.worker.receive, hand := s.taken, taken := s.taken + 1
    log := s.log ++ [.received s.taken s.turn] }

def closes : Shift := { s with worker := s.worker.receive, log := s.log ++ [.closed] }

def gathers : Shift :=
  { s with
    worker := s.worker.gather, errand := .request .asked, taken := s.sent
    log := s.log ++ [.drained s.turn s.pending s.summoned] }

def proceeds (stage : Stage) : Shift :=
  let (stage', o, _) := s.orchestrator.step stage
  { s with
    orchestrator := o, errand := .ofStage s.orchestrator.policy stage'
    log := s.log ++ Note.ofStages s.hand s.turn stage stage' }

def finishes (made : Transcript) (y : Except Failure Report) : Shift :=
  { s with errand := .request (.ended (.ofResult y)), log := s.log ++ [.ended s.turn made y] }

def sweeps : Shift :=
  { s with
    worker := s.worker.conclude, errand := .report s.pending, taken := s.sent, turn := s.turn + 1
    log := s.log ++ [.swept s.turn s.pending s.summoned] }

def reports (is : List Nat) : Shift :=
  { s with
    orchestrator := s.orchestrator.recordCoalesced is.length.toUInt64, errand := .idle
    log := s.log ++ [.counted is] }

end

/-- What can come next when the worker is the only one that makes requests: something is sent to it, or it
goes on. A call of its cycle may be answered in any way. -/
inductive Step (s : Shift) : Shift → Prop
  | send (t : Trigger) : s.dismissed = false → Step s (s.sends t)
  | dismiss : s.dismissed = false → Step s s.dismisses
  | receive {t rest} : s.worker.phase = .waiting → s.errand = .idle → s.worker.queue = .sync t :: rest →
      Step s s.receives
  | close {rest} : s.worker.phase = .waiting → s.errand = .idle → s.worker.queue = .shutdown :: rest →
      Step s s.closes
  | gather : s.worker.phase = .triggered → Step s s.gathers
  | proceed {stage} : s.errand = .request stage → stage.isAnswered = false → Step s (s.proceeds stage)
  | answer {made r next} (x : r.Answer) : s.errand = .cycle made (.call r next) →
      Step s { s with errand := .cycle (made ++ [⟨r, x⟩]) (next x) }
  | finish {made y} : s.errand = .cycle made (.done y) → Step s (s.finishes made y)
  | sweep {r} : s.errand = .request (.answered r) → Step s s.sweeps
  | report {is} : s.errand = .report is → Step s (s.reports is)

/-- A request of someone else comes to its next stage. -/
def advances (s : Shift) (k : Nat) (stage : Stage) : Shift :=
  let (stage', o, _) := s.orchestrator.step stage
  { s with
    orchestrator := o, others := s.others.set k stage'
    log := s.log ++ if stage = .refused then [.turnedAway] else [] }

/-- What others can do: a request comes in, or one of those that are there makes a step, or its cycle ends. -/
inductive Crowd (s : Shift) : Shift → Prop
  | arrive : Crowd s { s with others := s.others ++ [.asked] }
  | advance {k stage} : s.others[k]? = some stage → Crowd s (s.advances k stage)
  | finish {k} (o : Outcome) : s.others[k]? = some .running →
      Crowd s { s with others := s.others.set k (.ended o) }

/-- With others about. -/
def Mixed (s s' : Shift) : Prop := Step s s' ∨ Crowd s s'

/-- A run of the worker alone. -/
abbrev Reaches : Shift → Shift → Prop := Relation.ReflTransGen Step

/-- A run with others about. -/
abbrev Mixes : Shift → Shift → Prop := Relation.ReflTransGen Mixed

variable {s s' : Shift}

theorem policy_step (o : Orchestrator) (stage : Stage) : (o.step stage).2.1.policy = o.policy := by
  cases stage with
  | asked | notified =>
    simp only [Orchestrator.step]
    split <;> rfl
  | _ => rfl

theorem coalesced_step (o : Orchestrator) {stage : Stage} (other : stage ≠ .refused) :
    (o.step stage).2.1.status.coalesced = o.status.coalesced := by
  cases stage with
  | refused => exact absurd rfl other
  | asked | notified =>
    simp only [Orchestrator.step]
    split <;> rfl
  | ended e => cases e <;> rfl
  | _ => rfl

/-- What others do touches the orchestrator, and adds at most one thing to be told. -/
theorem Crowd.cases (step : Crowd s s') : ∃ o others ns,
    s' = { s with orchestrator := o, others := others, log := s.log ++ ns } ∧
      o.policy = s.orchestrator.policy ∧
      (ns = [] ∧ o.status.coalesced = s.orchestrator.status.coalesced ∨
        ns = [.turnedAway] ∧ o.status.coalesced = s.orchestrator.status.coalesced + 1) := by
  cases step with
  | arrive => exact ⟨_, _, [], by rw [List.append_nil], rfl, Or.inl ⟨rfl, rfl⟩⟩
  | finish o here => exact ⟨_, _, [], by rw [List.append_nil], rfl, Or.inl ⟨rfl, rfl⟩⟩
  | @advance k stage here =>
    refine ⟨_, _, _, rfl, policy_step _ _, ?_⟩
    by_cases refused : stage = .refused
    · cases refused
      exact Or.inr ⟨rfl, rfl⟩
    · exact Or.inl ⟨if_neg refused, coalesced_step _ refused⟩

theorem worker_gathers (triggered : s.worker.phase = .triggered) :
    s.gathers.worker = ⟨[], .serving s.summoned⟩ := Worker.gather_eq triggered

theorem worker_sweeps {stop : Bool} (serving : s.worker.phase = .serving stop) :
    s.sweeps.worker = ⟨[], if stop || s.summoned then .stopped else .waiting⟩ :=
  Worker.conclude_eq serving

theorem log_proceeds (s : Shift) (stage : Stage) :
    (s.proceeds stage).log = s.log ++ Note.ofStages s.hand s.turn stage (s.orchestrator.step stage).1 := rfl

/-- Between these the queue is left alone, and what is told is not about the queue. -/
structure Aside (s s' : Shift) : Prop where
  worker : s'.worker = s.worker
  dismissed : s'.dismissed = s.dismissed
  taken : s'.taken = s.taken
  turn : s'.turn = s.turn
  told : ∃ ns, s'.log = s.log ++ ns ∧ ∀ x ∈ ns, x.sends? = none ∧ x.takes = [] ∧ x.halts = false

end Shift

end MailboxSync
