import MailboxSync.Failure
import MailboxSync.Policy

namespace MailboxSync

/-- What became of the device's transaction. -/
inductive DeviceOutcome where
  | skipped
  | committed (actions : Nat)
  | rolledBack (failure : Failure)
deriving DecidableEq, Repr

def DeviceOutcome.isCommitted : DeviceOutcome → Bool
  | committed _ => true
  | _ => false

/-- The device is as the plan asked, be it that the plan asked for nothing. -/
def DeviceOutcome.isSettled : DeviceOutcome → Bool
  | rolledBack _ => false
  | _ => true

/-- What became of the commands for the carrier. Each is counted when it is tried, and is found
afterwards among those that went through or among those that failed. -/
structure CarrierOutcome where
  attempted : Nat := 0
  succeeded : Nat := 0
  completed : List Action := []
  failures : List (Action × Failure) := []
deriving DecidableEq, Repr

namespace CarrierOutcome

/-- Takes down what became of one more command. -/
def record (o : CarrierOutcome) (a : Action) : Except Failure Unit → CarrierOutcome
  | .ok () => { o with
      attempted := o.attempted + 1
      succeeded := o.succeeded + 1
      completed := o.completed ++ [a] }
  | .error e => { o with
      attempted := o.attempted + 1
      failures := o.failures ++ [(a, e.asRemoteAction a.kind.name a.id)] }

def isClean (o : CarrierOutcome) : Bool := o.failures.isEmpty

def count (o : CarrierOutcome) (k : ActionKind) : Nat := (o.completed.filter fun a => a.kind = k).length

end CarrierOutcome

/-- What became of a plan. -/
structure Applied where
  device : DeviceOutcome
  carrier : CarrierOutcome
deriving DecidableEq, Repr

/-- How many actions of a kind took effect. The device's actions count together or not at all. -/
def Applied.count (a : Applied) (p : Plan) (k : ActionKind) : Nat :=
  (if a.device.isCommitted then p.device.count k else 0) + a.carrier.count k

/-- The account of a cycle that went through. -/
structure Report where
  policy : PolicyKind
  inserted : Nat
  deleted : Nat
  markedRead : Nat
  fetched : Nat
  device : DeviceOutcome
  carrier : CarrierOutcome
deriving DecidableEq, Repr

namespace Report

def ofApplied (policy : PolicyKind) (p : Plan) (a : Applied) : Report where
  policy := policy
  inserted := a.count p .insert
  deleted := a.count p .delete
  markedRead := a.count p .markAsRead
  fetched := a.count p .fetchContent
  device := a.device
  carrier := a.carrier

/-- Commands that failed. The next cycle tries again. -/
def warnings (r : Report) : List (Action × Failure) := r.carrier.failures

/-- Nothing was called for. -/
def isNoop (r : Report) : Bool := r.device = .skipped && r.carrier.attempted = 0

end Report

end MailboxSync
