import MailboxSync.Orchestrator
import MailboxSync.Session.Script

namespace MailboxSync.Session

/-- The stores an orchestrator works on. The carrier is the same for all. -/
inductive Home where
  | memory
  | tables (file : Path) (scope : Table.Scope)
deriving DecidableEq, Repr

/-- What a step is answered with. -/
inductive Result where
  | done
  | failed (e : Failure)
  | flag (b : Bool)
  | written (rows : Nat)
  | content (p : Option Payload)
  | status (s : Status)
  | opened (policy : PolicyKind) (home : Home)
  | reply (r : SyncReply)
  | answered (r : Request) (x : r.Answer)
  | applied (a : Applied)
  | stopped (s : Status)

/-- A step done within a store call, and its result. -/
structure Hooked where
  method : Method
  step : Step
  result : Result

end MailboxSync.Session
