import MailboxSync.Failure
import MailboxSync.Snapshot

namespace MailboxSync

/-- What the carrier held when it was last seen, kept in memory. -/
structure Mirror where
  snapshot : Snapshot := .empty
  replaceFault : Option String := none

namespace Mirror

/-- Adds items that are not there yet. -/
def seed (m : Mirror) (items : List Item) : Mirror :=
  { m with snapshot := items.foldl Snapshot.insert m.snapshot }

def list (m : Mirror) : Except Failure Snapshot := .ok m.snapshot

/-- Forgets what was there and keeps this instead. -/
def replaceWith (m : Mirror) (s : Snapshot) : Except Failure Unit × Mirror :=
  match m.replaceFault with
  | some reason => (.error (.database reason), { m with replaceFault := none })
  | none => (.ok (), { m with snapshot := s })

end Mirror

end MailboxSync
