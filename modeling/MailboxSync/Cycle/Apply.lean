import MailboxSync.Cycle.Report
import MailboxSync.Program

namespace MailboxSync

open Program (ask)

/-- Hands the actions to the device as one transaction. An action that has no place there stops
the transaction before the device hears of it. -/
def ActionList.commit (l : ActionList) : Program DeviceOutcome :=
  if l.isEmpty then pure .skipped
  else
    match l.toList.find? fun a => !a.isValidFor .device with
    | some bad => pure (.rolledBack (.invalidAction (bad.render ++ " in local list")))
    | none => do
      match ← ask (.applyDevice l.toList) with
      | .ok () => pure (.committed l.size)
      | .error e => pure (.rolledBack e.asLocalTransaction)

namespace Action

/-- Carries out one command. Content is fetched from the carrier and then kept on the device. -/
def execute (a : Action) : Program (Except Failure Unit) :=
  if !a.isValidFor .carrier then pure (.error (.invalidAction (a.render ++ " in remote list")))
  else
    match a.kind with
    | .fetchContent => do
      match ← ask (.fetchContent a.item) with
      | .ok p => ask (.storeContent a.item p)
      | .error e => pure (.error e)
    | .insert | .delete | .markAsRead => ask (.applyCarrier a)

end Action

/-- Tries a command, and takes down what became of it. -/
def CarrierOutcome.attempt (o : CarrierOutcome) (a : Action) : Program CarrierOutcome := do
  return o.record a (← a.execute)

/-- Tries one command after the other. One that fails does not stop those after it. -/
def Action.attemptAll (as : List Action) : Program CarrierOutcome := as.foldlM CarrierOutcome.attempt {}

def ActionList.send (l : ActionList) : Program CarrierOutcome := Action.attemptAll l.toList

/-- Carries out a plan. The device comes first, because content that is fetched afterwards belongs
to items the transaction may have brought in. -/
def Plan.carryOut (p : Plan) : Program Applied := do
  let device ← p.device.commit
  let carrier ← p.carrier.send
  return ⟨device, carrier⟩

end MailboxSync
