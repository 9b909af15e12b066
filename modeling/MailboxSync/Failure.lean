namespace MailboxSync

/-- Why a cycle, a store call or a configuration did not go through. -/
inductive Failure where
  /-- A store could not be listed. -/
  | snapshotFetch (store message : String)
  /-- The device's transaction was taken back as a whole. -/
  | localTransaction (message : String)
  /-- One command to the carrier failed. -/
  | remoteAction (action id message : String)
  /-- A key was classified into no category, or into several. -/
  | invariant (message : String)
  | mirrorUpdate (message : String)
  | invalidAction (message : String)
  | itemNotFound (id : String)
  | database (message : String)
  | config (message : String)
  | io (message : String)
  | other (message : String)
deriving DecidableEq, Repr

namespace Failure

/-- The text shown for a failure. -/
def message : Failure → String
  | snapshotFetch store m => "Snapshot fetch failed (" ++ store ++ "): " ++ m
  | localTransaction m => "Local transaction failed: " ++ m
  | remoteAction action id m => "Remote action " ++ action ++ " on " ++ id ++ " failed: " ++ m
  | invariant m => "Reconciliation invariant violated: " ++ m
  | mirrorUpdate m => "Mirror update failed: " ++ m
  | invalidAction m => "Invalid action: " ++ m
  | itemNotFound id => "Item not found: " ++ id
  | database m => "Database error: " ++ m
  | config m => "Configuration error: " ++ m
  | io m => "IO error: " ++ m
  | other m => m

/-- A failed listing, told as one of the named store unless it already is one. -/
def asSnapshotFetch (store : String) : Failure → Failure
  | e@(snapshotFetch _ _) => e
  | e => .snapshotFetch store e.message

/-- A failed transaction, told as such whatever the store called it. -/
def asLocalTransaction : Failure → Failure
  | e@(localTransaction _) => e
  | e => .localTransaction e.message

/-- A failed command, told as one on this item unless it already is one. -/
def asRemoteAction (action id : String) : Failure → Failure
  | e@(remoteAction _ _ _) => e
  | e => .remoteAction action id e.message

end Failure

end MailboxSync
