import MailboxSync.Cycle.Apply

namespace MailboxSync

open Program (ask)

namespace Snapshot

/-- What a completed command changes in a listing of the carrier. -/
def observe (s : Snapshot) (a : Action) : Snapshot :=
  match a.kind with
  | .markAsRead => s.markRead a.id
  | .delete => s.remove a.id
  | .insert | .fetchContent => s

/-- The listing as the completed commands leave it. -/
def observeAll (s : Snapshot) (completed : List Action) : Snapshot := completed.foldl observe s

end Snapshot

namespace Policy

/-- What the policy calls for, given the listings of the three stores. Items of the other family
are left out of them first. A classification that does not check out is a defect and stops all. -/
def planFor (p : Policy) (device carrier mirror : Snapshot) : Except Failure Plan :=
  let d := device.retain p.family
  let c := carrier.retain p.family
  let m := mirror.retain p.family
  let classification := classify d c m
  match classification.verify d c m with
  | .error v => .error (.invariant v.message)
  | .ok () => .ok (p.plan classification)

/-- The end of a cycle. If the device's transaction was rolled back the mirror stays as it is.
Otherwise it takes over what the carrier holds now. -/
def conclude (p : Policy) (carrier : Snapshot) (plan : Plan) (applied : Applied) :
    Program (Except Failure Report) :=
  match applied.device with
  | .rolledBack e => pure (.error e)
  | .skipped | .committed _ => do
    match ← ask (.replaceMirror ((carrier.retain p.family).observeAll applied.carrier.completed)) with
    | .ok () => pure (.ok (.ofApplied p.kind plan applied))
    | .error e => pure (.error (.mirrorUpdate e.message))

/-- One cycle: list the three stores, decide, carry out, and remember what the carrier holds. -/
def cycle (p : Policy) : Program (Except Failure Report) := do
  match ← ask .listDevice with
  | .error e => pure (.error (e.asSnapshotFetch "local"))
  | .ok device =>
    match ← ask .listCarrier with
    | .error e => pure (.error (e.asSnapshotFetch "remote"))
    | .ok carrier =>
      match ← ask .listMirror with
      | .error e => pure (.error (e.asSnapshotFetch "mirror"))
      | .ok mirror =>
        match p.planFor device carrier mirror with
        | .error e => pure (.error e)
        | .ok plan => do
          let applied ← plan.carryOut
          p.conclude carrier plan applied

end Policy

end MailboxSync
