import MailboxSync.Policy
import MailboxSync.Table.Database

namespace MailboxSync

/-- The settings of one mailbox. Without a path the database lies in the user's data directory. -/
structure Config where
  mailbox : String := "default"
  dbPath : Option String := none
  policy : PolicyKind := .fullSync
  minContentBytes : UInt64 := 1
  poolSize : UInt32 := 4
deriving DecidableEq, Repr

namespace Config

/-- Settings that can be read and cannot be used. A mailbox without a name is reported before a
pool without connections. -/
def validate (c : Config) : Except Failure Unit :=
  if Text.isBlank c.mailbox then .error (.config "mailbox must not be empty")
  else if c.poolSize = 0 then .error (.config "pool_size must be at least 1")
  else .ok ()

def family (c : Config) : Family := c.policy.family

def syncPolicy (c : Config) : Policy := .ofKind c.policy ⟨c.minContentBytes⟩

/-- The rows that the stores of this mailbox work on, device and mirror alike. -/
def openStores (c : Config) : Except Failure Table.Scope := Table.Scope.named c.mailbox c.family

end Config

end MailboxSync
