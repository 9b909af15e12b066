import MailboxSync.Action
import MailboxSync.Failure
import MailboxSync.Snapshot
import MailboxSync.Store.Event
import MailboxSync.Table.Row

namespace MailboxSync.Table

/-- The two tables of a database. Rows are in no order of their own. -/
structure Database where
  device : List DeviceRow := []
  mirror : List Row := []
  /-- The largest id that the device's table has given out or taken in, or 0. -/
  lastId : Int := 0
  /-- Some row came with an id of its own. -/
  hasForeignIds : Bool := false

/-- Stores are made for a mailbox that has a name. -/
def Scope.named (mailbox : String) (family : Family) : Except Failure Scope :=
  if Text.isBlank mailbox then .error (.config "Mailbox name must not be empty")
  else .ok ⟨mailbox, family⟩

def Fault.failure (f : Fault) : Failure := .database f.message

namespace Database

def deviceTable : String := "local_items"

def mirrorTable : String := "mirror_items"

/-- Reads rows in the order of their names, as the index has them. -/
def readAll {ρ : Type} (name : ρ → Cell) (read : ρ → Except Fault Item) (rows : List ρ) :
    Except Failure Snapshot :=
  match (rows.mergeSort fun a b => (name a).precedes (name b)).mapM read with
  | .ok items => .ok (.ofList items)
  | .error f => .error f.failure

/-! The device's table -/

/-- Rows without a name are not listed. -/
def listDevice (db : Database) (s : Scope) : Except Failure Snapshot :=
  readAll (fun r => r.sourceId) (fun r => r.readItem s.family)
    (db.device.filter fun r => s.covers r.toRow && r.sourceId ≠ .null)

/-- The content of an item. A row has content when its flag is exactly 1. -/
def content (db : Database) (s : Scope) (id : String) : Except Failure (Option Payload) :=
  match db.device.find? fun r => s.names id r.toRow && r.hasContent = .integer 1 with
  | none => .ok none
  | some r => r.readContent.mapError Fault.failure

def updateDevice (db : Database) (p : DeviceRow → Bool) (f : DeviceRow → DeviceRow) : Database :=
  { db with device := db.device.map fun r => if p r then f r else r }

def deleteDevice (db : Database) (p : DeviceRow → Bool) : Database :=
  { db with device := db.device.filter fun r => !p r }

def insertDevice (db : Database) (r : DeviceRow) : Except Fault Database :=
  if db.device.any fun x => x.toRow.sameKey r.toRow then .error (.notUnique deviceTable)
  else .ok { db with device := db.device ++ [r], lastId := max db.lastId r.id }

/-- The id for a new row: above all there have been, so that none is used twice. They end with the
largest 64-bit number. Counting does not get there, but a row with an id of its own can. -/
def nextId (db : Database) : Except Fault Int :=
  if db.hasForeignIds && db.lastId = Int64.maxValue.toInt then .error .full else .ok (db.lastId + 1)

/-- Puts in a row that has no id yet. -/
def addDevice (db : Database) (row : Int → DeviceRow) : Except Fault Database := do
  db.insertDevice (row (← db.nextId))

def has (db : Database) (s : Scope) (id : String) : Bool := db.device.any fun r => s.names id r.toRow

/-- The user takes a message off the device. -/
def remove (db : Database) (s : Scope) (id : String) : Database :=
  db.deleteDevice fun r => s.names id r.toRow

/-- The user listens to a message. -/
def markRead (db : Database) (s : Scope) (id : String) : Database :=
  db.updateDevice (fun r => s.names id r.toRow) DeviceRow.markRead

def happen (db : Database) (s : Scope) : DeviceEvent → Database
  | .read id => db.markRead s id
  | .remove id => db.remove s id

/-- The rows of greetings played for a type. -/
def isActiveOf (s : Scope) (t : GreetingType) (r : DeviceRow) : Bool :=
  (Scope.mk s.mailbox .greeting).covers r.toRow && r.greetingType = .text t.name &&
    r.isActive = .integer 1

/-- A greeting that comes in as the one played for its type ends the turn of the others. -/
def demote (db : Database) (s : Scope) (k : ItemKind) : Database :=
  match k with
  | .greeting t true => db.updateDevice (isActiveOf s t) DeviceRow.deactivate
  | _ => db

/-- An action has a place in a transaction of this store when it is one for devices and its item
is of the store's family. -/
def admits (s : Scope) (a : Action) : Except Failure Unit :=
  if !a.isValidFor .device then .error (.invalidAction (a.render ++ " in local transaction"))
  else if a.item.family ≠ s.family then
    .error (.invalidAction (a.render ++ " does not belong to the " ++ s.family.name ++ " store"))
  else .ok ()

/-- Carries out one action of a transaction. -/
def perform (db : Database) (s : Scope) (a : Action) : Except Failure Database :=
  match a.kind with
  | .insert =>
    ((db.demote s a.item.kind).addDevice fun id => .ofItem id s a.item).mapError fun f =>
      .localTransaction (a.render ++ ": " ++ f.message)
  | .delete => .ok (db.remove s a.id)
  | .markAsRead => .ok (db.markRead s a.id)
  | .fetchContent => .ok db

/-- All actions take effect, or none does. They are looked over before the first is carried out. -/
def apply (db : Database) (s : Scope) (actions : List Action) : Except Failure Database := do
  actions.forM (admits s)
  actions.foldlM (fun db a => db.perform s a) db

/-- Keeps content for an item the table has. -/
def storeContent (db : Database) (s : Scope) (i : Item) (p : Payload) : Except Failure Database :=
  if db.has s i.id then
    .ok (db.updateDevice (fun r => s.names i.id r.toRow) fun r => r.hold (s.locator i.id) p)
  else .error (.itemNotFound i.id)

/-! The mirror's table -/

def listMirror (db : Database) (s : Scope) : Except Failure Snapshot :=
  readAll Row.sourceId (Row.readItem s.family) (db.mirror.filter s.covers)

/-- Forgets what was there and keeps the items of the store's family instead. -/
def replaceMirror (db : Database) (s : Scope) (snapshot : Snapshot) : Database :=
  { db with mirror := db.mirror.filter (fun r => !s.covers r) ++
      (snapshot.retain s.family).toList.map (Row.ofItem s) }

end Database

end MailboxSync.Table
