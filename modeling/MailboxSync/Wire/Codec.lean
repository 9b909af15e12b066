import MailboxSync.Action
import MailboxSync.Config
import MailboxSync.Failure
import MailboxSync.Wire.Value

namespace MailboxSync

open Wire (Value)

def GreetingType.toValue (t : GreetingType) : Value := .string t.name

namespace ItemKind

/-- The kind is told by a tag among the fields that only this kind has. -/
def toValue : ItemKind → Value
  | voicemail => .object [("kind", .string "voicemail")]
  | greeting t a =>
    .object [("kind", .string "greeting"), ("greeting_type", t.toValue), ("is_active", .bool a)]

def readGreeting? (type active : Option Value) : Option ItemKind := do
  let t ← GreetingType.ofName? (← (← type).nameBesideTag?)
  let a ← (← active).bool?
  return greeting t a

/-- Reads by the tag, which is the field `kind` of an object or the head of an array. Fields that
the kind does not have are not looked at. -/
def ofValue? : Value → Option ItemKind
  | .object fields =>
    match fields.lookup "kind" with
    | some (.string "voicemail") => some voicemail
    | some (.string "greeting") =>
      readGreeting? (fields.lookup "greeting_type") (fields.lookup "is_active")
    | _ => none
  | .array [.string "voicemail"] => some voicemail
  | .array [.string "greeting", t, a] => readGreeting? (some t) (some a)
  | _ => none

end ItemKind

namespace Item

def fieldNames : List String := ["source_id", "kind", "is_read", "has_content", "uri", "content_len"]

def toValue (i : Item) : Value :=
  .object [("source_id", .string i.id), ("kind", i.kind.toValue), ("is_read", .bool i.isRead),
    ("has_content", .bool i.hasContent), ("uri", i.uri.elim .null .string),
    ("content_len", i.contentLen.elim .null fun n => .integer n.toNat)]

def ofValue? (v : Value) : Option Item := do
  match ← v.record? fieldNames with
  | [id, kind, isRead, hasContent, uri, contentLen] =>
    return {
      id := ← (← id).string?
      kind := ← ItemKind.ofValue? (← kind)
      isRead := ← (← isRead).bool?
      hasContent := ← (← hasContent).bool?
      uri := ← Value.optional? Value.string? uri
      contentLen := ← Value.optional? Value.word64? contentLen }
  | _ => none

end Item

namespace ActionKind

def wireName : ActionKind → String
  | insert => "Insert"
  | delete => "Delete"
  | markAsRead => "MarkAsRead"
  | fetchContent => "FetchContent"

def all : List ActionKind := [insert, delete, markAsRead, fetchContent]

def ofValue? (v : Value) : Option ActionKind := do
  let s ← v.name?
  all.find? fun k => k.wireName = s

end ActionKind

namespace Target

def wireName : Target → String
  | device => "LOCAL"
  | carrier => "REMOTE"

def ofValue? (v : Value) : Option Target := do
  let s ← v.name?
  [device, carrier].find? fun t => t.wireName = s

end Target

namespace Action

def toValue (a : Action) : Value :=
  .object [("kind", .string a.kind.wireName), ("target", .string a.target.wireName), ("item", a.item.toValue)]

def ofValue? (v : Value) : Option Action := do
  match ← v.record? ["kind", "target", "item"] with
  | [kind, target, item] =>
    return {
      kind := ← ActionKind.ofValue? (← kind)
      target := ← Target.ofValue? (← target)
      item := ← Item.ofValue? (← item) }
  | _ => none

end Action

namespace Failure

/-- The name of a cause on the wire. -/
def tag : Failure → String
  | snapshotFetch _ _ => "SnapshotFetch"
  | localTransaction _ => "LocalTransaction"
  | remoteAction _ _ _ => "RemoteAction"
  | invariant _ => "ReconciliationInvariant"
  | mirrorUpdate _ => "MirrorUpdate"
  | invalidAction _ => "InvalidAction"
  | itemNotFound _ => "ItemNotFound"
  | database _ => "Database"
  | config _ => "Config"
  | io _ => "Io"
  | other _ => "Other"

/-- What a cause carries: a text, or a record where it has several. -/
def content : Failure → Value
  | snapshotFetch store m => .object [("store", .string store), ("message", .string m)]
  | remoteAction action id m =>
    .object [("action", .string action), ("source_id", .string id), ("message", .string m)]
  | localTransaction m | invariant m | mirrorUpdate m | invalidAction m | itemNotFound m
  | database m | config m | io m | other m => .string m

/-- Tag and content stand side by side. -/
def toValue (e : Failure) : Value := .object [("type", .string e.tag), ("message", e.content)]

/-- The causes that carry a text and nothing else. -/
def ofText? (tag text : String) : Option Failure :=
  match tag with
  | "LocalTransaction" => some (localTransaction text)
  | "ReconciliationInvariant" => some (invariant text)
  | "MirrorUpdate" => some (mirrorUpdate text)
  | "InvalidAction" => some (invalidAction text)
  | "ItemNotFound" => some (itemNotFound text)
  | "Database" => some (database text)
  | "Config" => some (config text)
  | "Io" => some (io text)
  | "Other" => some (other text)
  | _ => none

/-- A record is read from its fields by name, and from nothing else. -/
def ofContent? (tag : String) (v : Value) : Option Failure := do
  let text (k : String) : Option String := do (← v.field? k).string?
  match tag with
  | "SnapshotFetch" => return snapshotFetch (← text "store") (← text "message")
  | "RemoteAction" =>
    return remoteAction (← text "action") (← text "source_id") (← text "message")
  | _ => ofText? tag (← v.string?)

/-- Reads tag and content as the fields of an object or as the two values of an array. In an array
the tag is a text. -/
def ofValue? (v : Value) : Option Failure := do
  match v with
  | .array [.string tag, content] => ofContent? tag content
  | _ => ofContent? (← (← v.field? "type").name?) (← v.field? "message")

end Failure

namespace Config

def fieldNames : List String :=
  ["mailbox", "db_path", "policy", "greeting_min_content_bytes", "pool_size"]

/-- Every field may be left out, and none may be null. -/
def ofValue? (v : Value) : Option Config := do
  match ← v.defaultedRecord? fieldNames with
  | [mailbox, dbPath, policy, minBytes, poolSize] =>
    let read {α : Type} (f : Option Value) (default : α) (r : Value → Option α) : Option α :=
      f.elim (some default) r
    return {
      mailbox := ← read mailbox "default" Value.string?
      dbPath := ← read dbPath none fun v => v.string?.map some
      policy := ← read policy .fullSync fun v => v.name?.bind PolicyKind.ofName?
      minContentBytes := ← read minBytes 1 Value.word64?
      poolSize := ← read poolSize 4 Value.word32? }
  | _ => none

end Config

end MailboxSync
