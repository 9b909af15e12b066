import MailboxSync.Action
import MailboxSync.Failure
import MailboxSync.Snapshot
import MailboxSync.Store.Event

namespace MailboxSync

/-- An item on the carrier with its audio. -/
structure Recording where
  item : Item
  payload : Payload
deriving DecidableEq

def Recording.id (r : Recording) : String := r.item.id

def Recording.markRead (r : Recording) : Recording := { r with item := r.item.markRead }

/-- What the carrier holds. -/
abbrev Voicebox := Shelf Recording.id

/-- The mailbox at the carrier. It logs what was done to it from the device's side. An armed fault
makes the next call of its kind fail, for commands and fetches the next one on that item. -/
structure Carrier where
  recordings : Voicebox := .empty
  applied : List String := []
  listFault : Option String := none
  actionFaults : KeySet := .empty
  fetchFaults : KeySet := .empty

namespace Carrier

def snapshot (c : Carrier) : Snapshot := .ofList (c.recordings.toList.map Recording.item)

/-- The length of the silence that stands for a message nobody gave audio for. -/
def silenceLength : Nat := 32

/-- A message arrives. The carrier tells whether it has audio, and nothing more about content. -/
def put (c : Carrier) (i : Item) (p : Payload) : Carrier :=
  { c with recordings := c.recordings.put ⟨{ i.bare with hasContent := !p.isEmpty }, p⟩ }

def seed (c : Carrier) (items : List Item) : Carrier :=
  items.foldl (fun c i => c.put i (.silence silenceLength "audio/amr")) c

def remove (c : Carrier) (id : String) : Carrier := { c with recordings := c.recordings.erase id }

def markRead (c : Carrier) (id : String) : Carrier :=
  { c with recordings := c.recordings.adjust id Recording.markRead fun _ => rfl }

def happen (c : Carrier) : CarrierEvent → Carrier
  | .arrive i p => c.put i p
  | .read id => c.markRead id
  | .remove id => c.remove id

def log (c : Carrier) (line : String) : Carrier := { c with applied := c.applied ++ [line] }

def list (c : Carrier) : Except Failure Snapshot × Carrier :=
  match c.listFault with
  | some reason => (.error (.snapshotFetch "remote" reason), { c with listFault := none })
  | none => (.ok c.snapshot, c)

/-- Carries out one command. To delete what is gone already is a success. -/
def apply (c : Carrier) (a : Action) : Except Failure Unit × Carrier :=
  if c.actionFaults.contains a.id then
    (.error (.remoteAction a.kind.name a.id "server rejected the command"),
      { c with actionFaults := c.actionFaults.erase a.id })
  else
    match a.kind with
    | .delete => (.ok (), (c.remove a.id).log a.render)
    | .markAsRead =>
      if c.recordings.contains a.id then (.ok (), (c.markRead a.id).log a.render)
      else (.error (.itemNotFound a.id), c)
    | .insert | .fetchContent => (.error (.invalidAction a.render), c)

/-- Hands out the audio of an item. -/
def fetchContent (c : Carrier) (i : Item) : Except Failure Payload × Carrier :=
  if c.fetchFaults.contains i.id then
    (.error (.remoteAction ActionKind.fetchContent.name i.id "fetch timed out"),
      { c with fetchFaults := c.fetchFaults.erase i.id })
  else
    match c.recordings.get? i.id with
    | some r => (.ok r.payload, c.log (Action.render ⟨.fetchContent, .carrier, i⟩))
    | none => (.error (.itemNotFound i.id), c)

end Carrier

end MailboxSync
