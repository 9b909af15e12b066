namespace MailboxSync

/-- Why a cycle was asked for. -/
inductive Trigger where
  | notification
  | manual
  | retry
deriving DecidableEq, Repr

namespace Trigger

def name : Trigger → String
  | notification => "notification"
  | manual => "manual"
  | retry => "retry"

def all : List Trigger := [notification, manual, retry]

def ofName? (s : String) : Option Trigger := all.find? fun t => t.name = s

end Trigger

/-- What can be sent to a worker. -/
inductive Command where
  | sync (trigger : Trigger)
  | shutdown
deriving DecidableEq, Repr

def Command.isSync : Command → Bool
  | .sync _ => true
  | .shutdown => false

/-- Where a worker stands in its loop. -/
inductive Worker.Phase where
  | waiting
  /-- A trigger has been taken. -/
  | triggered
  /-- A cycle has been asked for. If `stopping`, a shutdown was among the commands taken before. -/
  | serving (stopping : Bool)
  | stopped
deriving DecidableEq, Repr

/-- A worker asks for one cycle at a time. Commands wait in a queue. -/
structure Worker where
  queue : List Command := []
  phase : Worker.Phase := .waiting
deriving DecidableEq, Repr

namespace Worker

/-- A command to a worker that has stopped is lost. -/
def send (w : Worker) (c : Command) : Worker :=
  if w.phase = .stopped then w else { w with queue := w.queue ++ [c] }

/-- Takes the next command. A worker that has none waits on. -/
def receive (w : Worker) : Worker :=
  match w.phase, w.queue with
  | .waiting, .shutdown :: rest => ⟨rest, .stopped⟩
  | .waiting, .sync _ :: rest => ⟨rest, .triggered⟩
  | _, _ => w

/-- With a trigger in hand, takes all that is queued behind it: the cycle to come serves those
triggers too. A shutdown among them takes effect after it. -/
def gather (w : Worker) : Worker :=
  match w.phase with
  | .triggered => ⟨[], .serving (w.queue.contains .shutdown)⟩
  | _ => w

/-- The triggers that came while the cycle ran. They are dropped, and counted as coalesced. -/
def arrived (w : Worker) : Nat := (w.queue.filter Command.isSync).length

/-- After the cycle everything queued is taken once more. The worker stops if it has seen a
shutdown, before or after. -/
def conclude (w : Worker) : Worker :=
  match w.phase with
  | .serving stopping => ⟨[], if stopping || w.queue.contains .shutdown then .stopped else .waiting⟩
  | _ => w

end Worker

end MailboxSync
