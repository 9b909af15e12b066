import MailboxSync.Action
import MailboxSync.Failure
import MailboxSync.Snapshot
import MailboxSync.Store.Event

namespace MailboxSync

/-- The items on a device, one per name. A blank name is a name here. -/
abbrev Folder := Shelf Item.id

namespace Folder

/-- Takes a new item in, without content. A greeting that comes in as the one played for its type
ends the turn of the one played so far. -/
def add (f : Folder) (i : Item) : Folder :=
  let others := match i.kind with
    | .greeting t true => f.map (Item.demote t) (Item.demote_id t)
    | _ => f
  others.put i.bare

/-- Carries out one action of a transaction. To delete or to mark what is not there is no error. -/
def perform (f : Folder) (a : Action) : Except Failure Folder :=
  match a.kind with
  | .insert =>
    if f.contains a.id then .error (.localTransaction (a.id ++ " already exists"))
    else .ok (f.add a.item)
  | .delete => .ok (f.erase a.id)
  | .markAsRead => .ok (f.adjust a.id Item.markRead Item.markRead_id)
  | .fetchContent => .error (.invalidAction (a.render ++ " in local transaction"))

/-- Carries out the actions in their order, up to the first that fails. -/
def performAll (f : Folder) (actions : List Action) : Except Failure Folder := actions.foldlM perform f

end Folder

/-- Contents by the name of their item. -/
abbrev Contents := Shelf (Prod.fst : String × Payload → String)

/-- A device that keeps everything in memory. An armed fault makes the next call of its kind fail,
and is used up by it. -/
structure Device where
  items : Folder := .empty
  contents : Contents := .empty
  listFault : Option String := none
  applyFault : Option String := none

namespace Device

def snapshot (d : Device) : Snapshot := .ofList d.items.toList

def content (d : Device) (id : String) : Option Payload := (d.contents.get? id).map Prod.snd

/-- Puts items in place as they are, over those of the same name. -/
def seed (d : Device) (items : List Item) : Device := { d with items := items.foldl Shelf.put d.items }

/-- The user takes a message off the device. -/
def remove (d : Device) (id : String) : Device :=
  { d with items := d.items.erase id, contents := d.contents.erase id }

/-- The user listens to a message. -/
def markRead (d : Device) (id : String) : Device :=
  { d with items := d.items.adjust id Item.markRead Item.markRead_id }

def happen (d : Device) : DeviceEvent → Device
  | .read id => d.markRead id
  | .remove id => d.remove id

def list (d : Device) : Except Failure Snapshot × Device :=
  match d.listFault with
  | some reason => (.error (.database reason), { d with listFault := none })
  | none => (.ok d.snapshot, d)

/-- The contents left after a transaction: an item that it made disappear takes its content along. -/
def keptContents (d : Device) (items : Folder) : Contents :=
  d.contents.filter fun p => !(d.items.contains p.1 && !items.contains p.1)

/-- All actions take effect, or none does. -/
def apply (d : Device) (actions : List Action) : Except Failure Unit × Device :=
  match d.applyFault with
  | some reason => (.error (.localTransaction reason), { d with applyFault := none })
  | none =>
    match d.items.performAll actions with
    | .error e => (.error e, d)
    | .ok items => (.ok (), { d with items, contents := d.keptContents items })

/-- Where the content of an item can be found. -/
def locator (f : Family) (id : String) : String := "memory://" ++ f.name ++ "/" ++ id

/-- Keeps content for an item the device has. -/
def storeContent (d : Device) (i : Item) (p : Payload) : Except Failure Unit × Device :=
  if d.items.contains i.id then
    let hold (x : Item) : Item :=
      { x with hasContent := true, contentLen := some p.length, uri := some (locator i.family i.id) }
    (.ok (), { d with
      items := d.items.adjust i.id hold fun _ => rfl
      contents := d.contents.put (i.id, p) })
  else (.error (.itemNotFound i.id), d)

end Device

end MailboxSync
