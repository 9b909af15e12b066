import MailboxSync.Program
import MailboxSync.Store.Carrier
import MailboxSync.Table.Database

namespace MailboxSync

/-- A carrier beside a database, where one mailbox's items of one family are kept. -/
structure Tables where
  scope : Table.Scope
  database : Table.Database := {}
  carrier : Carrier := {}

namespace Tables

variable {α : Type}

def happen (t : Tables) : Event → Tables
  | .device e => { t with database := t.database.happen t.scope e }
  | .carrier e => { t with carrier := t.carrier.happen e }

/-- A change of the database takes effect when it succeeds. -/
def change (t : Tables) (x : Except Failure Table.Database) : Except Failure Unit × Tables :=
  match x with
  | .ok database => (.ok (), { t with database })
  | .error e => (.error e, t)

def onCarrier (t : Tables) (f : Carrier → Except Failure α × Carrier) : Except Failure α × Tables :=
  let (x, carrier) := f t.carrier
  (x, { t with carrier })

def answer (r : Request) (t : Tables) : r.Answer × Tables :=
  match r with
  | .listDevice => (t.database.listDevice t.scope, t)
  | .listCarrier => t.onCarrier Carrier.list
  | .listMirror => (t.database.listMirror t.scope, t)
  | .applyDevice actions => t.change (t.database.apply t.scope actions)
  | .storeContent i p => t.change (t.database.storeContent t.scope i p)
  | .applyCarrier a => t.onCarrier fun c => c.apply a
  | .fetchContent i => t.onCarrier fun c => c.fetchContent i
  | .replaceMirror s => t.change (.ok (t.database.replaceMirror t.scope s))

end Tables

end MailboxSync
