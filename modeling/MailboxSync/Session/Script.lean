import MailboxSync.Policy
import MailboxSync.Program
import MailboxSync.Session.Disk
import MailboxSync.Store.Event
import MailboxSync.Table.Draft
import MailboxSync.Worker

namespace MailboxSync.Session

/-- What an orchestrator and its stores are made from. Each backend uses what it has a use for. -/
structure Opening where
  policy : Policy
  mailbox : String
  /-- The family of the tables, if it is not the policy's. -/
  family : Option Family
  file : Path

/-- The faults that can be armed in the stores in memory. A reason is for the next call, a name
for the next one on that item. -/
inductive Trap where
  | deviceList (reason : String)
  | deviceApply (reason : String)
  | mirrorReplace (reason : String)
  | carrierList (reason : String)
  | carrierAction (id : String)
  | carrierFetch (id : String)
deriving DecidableEq, Repr

inductive StoreName where
  | device
  | carrier
  | mirror
deriving DecidableEq, Repr

/-- The stores that have a table. -/
inductive TableName where
  | device
  | mirror
deriving DecidableEq, Repr

/-- What a script can ask for. -/
inductive Step where
  | state
  | status
  | reopen (o : Opening)
  | recordCoalesced (n : UInt64)
  | dropEvents
  | sync
  | happen (e : Event)
  /-- Items put in a store in memory as they are. -/
  | seed (store : StoreName) (items : List Item)
  | content (id : String)
  | writeRow (table : TableName) (row : Table.Draft)
  | arm (t : Trap)
  /-- The next call of this method fails so. -/
  | fault (m : Method) (e : Failure)
  /-- The next call of this method has these steps done before it. -/
  | hook (m : Method) (steps : List Step)
  /-- A store call from outside, past faults and hooks. -/
  | call (r : Request)
  | carryOut (p : Plan)
  | startWorker
  | request (t : Trigger) (times : Nat)
  | yieldToWorker
  | stopWorker

namespace Step

/-- Steps after which the stores are not looked over. -/
def isQuiet : Step → Bool
  | status | dropEvents | content _ | arm _ | fault _ _ | hook _ _ | startWorker | request _ _ => true
  | call r => r.method.isListing
  | _ => false

mutual

/-- How many steps a step is, those counted that it hangs on calls. -/
def size : Step → Nat
  | hook _ steps => sizeAll steps + 1
  | _ => 1

def sizeAll : List Step → Nat
  | [] => 0
  | s :: rest => s.size + sizeAll rest

end

end Step

end MailboxSync.Session
