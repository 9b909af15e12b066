import MailboxSync.Item

namespace MailboxSync

/-- What the user does on the device. -/
inductive DeviceEvent where
  | read (id : String)
  | remove (id : String)
deriving DecidableEq, Repr

/-- What callers, other devices and the carrier itself do to the mailbox at the carrier. -/
inductive CarrierEvent where
  | arrive (item : Item) (payload : Payload)
  | read (id : String)
  | remove (id : String)
deriving DecidableEq

/-- Something that happens to the stores and is no part of a cycle. It may come at any time, also
between two calls of a cycle under way. -/
inductive Event where
  | device (e : DeviceEvent)
  | carrier (e : CarrierEvent)
deriving DecidableEq

end MailboxSync
