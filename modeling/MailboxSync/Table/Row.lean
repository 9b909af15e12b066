import MailboxSync.Item
import MailboxSync.Table.Cell

namespace MailboxSync.Table

/-- What both tables keep of an item. The cells may hold anything, since not all rows are written
by the stores here. -/
structure Row where
  mailbox : Cell
  kind : Cell
  sourceId : Cell
  isRead : Cell
  hasContent : Cell
  greetingType : Cell
  isActive : Cell

/-- A row of the device's table, which has an id and content too. -/
structure DeviceRow extends Row where
  id : Int
  uri : Cell
  content : Cell
  contentLen : Cell
  mimeType : Cell

/-- The rows a store works on: those of one mailbox and one family. -/
structure Scope where
  mailbox : String
  family : Family
deriving DecidableEq, Repr

namespace Scope

def covers (s : Scope) (r : Row) : Bool := r.mailbox = .text s.mailbox && r.kind = .text s.family.name

def names (s : Scope) (id : String) (r : Row) : Bool := s.covers r && r.sourceId = .text id

/-- Where the content of an item of this mailbox can be found. -/
def locator (s : Scope) (id : String) : String :=
  "vvm://" ++ s.mailbox ++ "/" ++ s.family.name ++ "/" ++ id

end Scope

namespace Row

/-- The cells of an item, under a scope. -/
def ofItem (s : Scope) (i : Item) : Row :=
  let (type, active) := match i.kind with
    | .voicemail => (Cell.null, false)
    | .greeting t a => (Cell.text t.name, a)
  { mailbox := .text s.mailbox
    kind := .text s.family.name
    sourceId := .text i.id
    isRead := .ofBool i.isRead
    hasContent := .ofBool i.hasContent
    greetingType := type
    isActive := .ofBool active }

/-- The kind of an item in a store of this family. Only a greeting's columns are looked at. -/
def readKind (f : Family) (r : Row) : Except Fault ItemKind :=
  match f with
  | .voicemail => .ok .voicemail
  | .greeting => do
    match (← r.greetingType.readOptionalText 3 "greeting_type").bind GreetingType.ofName? with
    | none => .error (.wrongText 3 "greeting_type")
    | some t => return .greeting t (← r.isActive.readFlag 4 "is_active")

/-- The item in a row. The columns are read in this order, and the first one that cannot be read
is reported. -/
def readItem (f : Family) (r : Row) : Except Fault Item := do
  let id ← r.sourceId.readText 0 "source_id"
  let kind ← r.readKind f
  let isRead ← r.isRead.readFlag 1 "is_read"
  let hasContent ← r.hasContent.readFlag 2 "has_content"
  return { id, kind, isRead, hasContent }

/-- Both rows name the same item. A row without a name is like no other. -/
def sameKey (a b : Row) : Bool :=
  a.mailbox = b.mailbox && a.kind = b.kind && a.sourceId = b.sourceId && a.sourceId ≠ .null

end Row

namespace DeviceRow

/-- An item that comes in has no content yet. -/
def ofItem (id : Int) (s : Scope) (i : Item) : DeviceRow :=
  { Row.ofItem s i.bare with
    id, uri := .null, content := .null, contentLen := .null, mimeType := .null }

/-- A negative length is read as zero. -/
def readItem (f : Family) (r : DeviceRow) : Except Fault Item := do
  let i ← r.toRow.readItem f
  let uri ← r.uri.readOptionalText 5 "uri"
  let len ← r.contentLen.readOptionalInteger 6 "content_len"
  return { i with uri, contentLen := len.map fun n => n.toNat.toUInt64 }

/-- The content in a row. Without bytes there is none, whatever else the row says. -/
def readContent (r : DeviceRow) : Except Fault (Option Payload) := do
  let bytes ← r.content.readOptionalBlob 0 "content"
  let mime ← r.mimeType.readOptionalText 1 "mime_type"
  return bytes.map fun b => ⟨b, mime.getD ""⟩

def markRead (r : DeviceRow) : DeviceRow := { r with isRead := .integer 1 }

def deactivate (r : DeviceRow) : DeviceRow := { r with isActive := .integer 0 }

def hold (r : DeviceRow) (uri : String) (p : Payload) : DeviceRow :=
  { r with
    content := .blob p.bytes
    contentLen := .integer p.length.toNat
    mimeType := .text p.mime
    hasContent := .integer 1
    uri := .text uri }

end DeviceRow

end MailboxSync.Table
