import MailboxSync.Cycle.Report

namespace MailboxSync

/-- How a cycle ended. -/
inductive Outcome where
  | completed (report : Report)
  | failed (failure : Failure)
deriving DecidableEq, Repr

def Outcome.ofResult : Except Failure Report → Outcome
  | .ok r => .completed r
  | .error e => .failed e

/-- Where an orchestrator stands. -/
inductive SyncState where
  | idle
  | running
  | completed
  | failed
deriving DecidableEq, Repr

namespace SyncState

def name : SyncState → String
  | idle => "Idle"
  | running => "Running"
  | completed => "Completed"
  | failed => "Failed"

def all : List SyncState := [idle, running, completed, failed]

def ofName? (s : String) : Option SyncState := all.find? fun x => x.name = s

end SyncState

/-- The state a cycle that ended so leaves behind, until it is put back to idle. -/
def Outcome.state : Outcome → SyncState
  | .completed _ => .completed
  | .failed _ => .failed

/-- What observers are shown. The counters wrap at 2^64. -/
structure Status where
  state : SyncState := .idle
  lastError : Option String := none
  completed : UInt64 := 0
  failed : UInt64 := 0
  coalesced : UInt64 := 0
  lastReport : Option Report := none
deriving DecidableEq, Repr

/-- Enters the end of a cycle. A completion clears the last error; a failure keeps the last
report. -/
def Status.record (s : Status) : Outcome → Status
  | .completed r =>
    { s with state := .completed, lastError := none, completed := s.completed + 1, lastReport := some r }
  | .failed e => { s with state := .failed, lastError := some e.message, failed := s.failed + 1 }

/-- One mailbox's cycles. The lock is held for a whole cycle, so that there is one at a time. -/
structure Orchestrator where
  policy : Policy
  status : Status := {}
  locked : Bool := false

/-- What a request for a cycle is answered with. A request that finds a cycle running is dropped,
since that cycle serves it too. -/
inductive SyncReply where
  | coalesced
  | ended (o : Outcome)
deriving DecidableEq, Repr

/-- How far a request has come. Requests may be at different stages at the same time, and each
goes from stage to stage in single steps. -/
inductive Stage where
  /-- Nothing has been done yet. -/
  | asked
  /-- The lock was found taken. -/
  | refused
  /-- The lock is taken. -/
  | admitted
  /-- The cycle is under way. -/
  | running
  /-- The cycle has ended. -/
  | ended (o : Outcome)
  /-- The end is entered in the status. -/
  | recorded (o : Outcome)
  /-- The lock is given back. -/
  | released (o : Outcome)
  /-- Observers have been told. -/
  | notified (o : Outcome)
  | answered (r : SyncReply)
deriving DecidableEq, Repr

namespace Orchestrator

/-- Counts requests that a cycle under way has served. -/
def recordCoalesced (o : Orchestrator) (n : UInt64) : Orchestrator :=
  { o with status := { o.status with coalesced := o.status.coalesced + n } }

def setState (o : Orchestrator) (s : SyncState) : Orchestrator :=
  { o with status := { o.status with state := s } }

/-- One step of a request, and what observers are told in it. While the cycle is under way there is
no step: its end comes from the stores. The state goes back to idle only from this request's own
outcome, since by then the next cycle may be running. -/
def step (o : Orchestrator) : Stage → Stage × Orchestrator × Option Outcome
  | .asked =>
    if o.locked then (.refused, o, none) else (.admitted, { o with locked := true }, none)
  | .refused => (.answered .coalesced, o.recordCoalesced 1, none)
  | .admitted => (.running, o.setState .running, none)
  | .running => (.running, o, none)
  | .ended e => (.recorded e, { o with status := o.status.record e }, none)
  | .recorded e => (.released e, { o with locked := false }, none)
  | .released e => (.notified e, o, some e)
  | .notified e =>
    (.answered (.ended e), if o.status.state = e.state then o.setState .idle else o, none)
  | .answered r => (.answered r, o, none)

/-- Several steps of one request with nothing in between. -/
def steps (o : Orchestrator) (s : Stage) : Nat → Stage × Orchestrator × List Outcome
  | 0 => (s, o, [])
  | n + 1 =>
    let (s, o, told) := o.step s
    let (s, o, more) := o.steps s n
    (s, o, told.toList ++ more)

/-- From the request up to the cycle, or to the answer that one is under way. Two steps either way. -/
def enter (o : Orchestrator) : Stage × Orchestrator × List Outcome := o.steps .asked 2

/-- From the end of the cycle up to the answer. -/
def leave (o : Orchestrator) (e : Outcome) : Stage × Orchestrator × List Outcome := o.steps (.ended e) 4

end Orchestrator

end MailboxSync
