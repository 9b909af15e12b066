import MailboxSync.Table.Database

/-! Rows that are written into the tables from elsewhere. -/

namespace MailboxSync.Table

/-- A column takes a default where a row leaves it out. -/
structure Column where
  name : String
  affinity : Affinity
  required : Bool := false
  default : Cell := .null

/-- The columns of the device's table but its id. -/
def deviceColumns : List Column := [
  { name := "mailbox", affinity := .text, required := true },
  { name := "kind", affinity := .text, required := true },
  { name := "source_id", affinity := .text },
  { name := "is_read", affinity := .integer, required := true, default := .integer 0 },
  { name := "has_content", affinity := .integer, required := true, default := .integer 0 },
  { name := "uri", affinity := .text },
  { name := "content", affinity := .blob },
  { name := "content_len", affinity := .integer },
  { name := "mime_type", affinity := .text },
  { name := "greeting_type", affinity := .text },
  { name := "is_active", affinity := .integer, required := true, default := .integer 0 },
  { name := "updated_at", affinity := .integer, required := true, default := .integer 0 }]

def mirrorColumns : List Column := [
  { name := "mailbox", affinity := .text, required := true },
  { name := "kind", affinity := .text, required := true },
  { name := "source_id", affinity := .text, required := true },
  { name := "is_read", affinity := .integer, required := true, default := .integer 0 },
  { name := "has_content", affinity := .integer, required := true, default := .integer 0 },
  { name := "greeting_type", affinity := .text },
  { name := "is_active", affinity := .integer, required := true, default := .integer 0 },
  { name := "mirrored_at", affinity := .integer, required := true, default := .integer 0 }]

/-- What the id of the device's table may be called. -/
def idNames : List String := ["id", "rowid", "oid", "_rowid_"]

/-- A row as it is written: some columns with their values. -/
abbrev Draft := List (String × Cell)

namespace Draft

/-- The value given for a column. Small and capital letters are the same in names. -/
def value? (d : Draft) (name : String) : Option Cell :=
  (d.find? fun p => p.1.toLower = name).map Prod.snd

/-- All names in a row have to be known. -/
def checkNames (d : Draft) (table : String) (names : List String) : Except Fault Unit :=
  match d.find? fun p => !names.contains p.1.toLower with
  | some (name, _) => .error (.noColumn table name)
  | none => .ok ()

/-- The id that a row brings, if any. -/
def ownId (d : Draft) : Except Fault (Option Int) :=
  match (idNames.firstM d.value?).map Affinity.integer.keep with
  | none | some .null => .ok none
  | some (.integer n) => .ok (some n)
  | some _ => .error .notAnId

/-- The values of all columns, as they will be kept. The first required column that stays empty is
reported. -/
def complete (d : Draft) (table : String) (columns : List Column) : Except Fault Draft :=
  columns.mapM fun c => do
    let v := c.affinity.keep ((d.value? c.name).getD c.default)
    if c.required && v = .null then .error (.missing table c.name) else .ok (c.name, v)

def toRow (d : Draft) : Row :=
  let cell (name : String) : Cell := (d.value? name).getD .null
  { mailbox := cell "mailbox", kind := cell "kind", sourceId := cell "source_id"
    isRead := cell "is_read", hasContent := cell "has_content"
    greetingType := cell "greeting_type", isActive := cell "is_active" }

def toDeviceRow (d : Draft) (id : Int) : DeviceRow :=
  let cell (name : String) : Cell := (d.value? name).getD .null
  { d.toRow with
    id
    uri := cell "uri", content := cell "content", contentLen := cell "content_len"
    mimeType := cell "mime_type" }

end Draft

namespace Database

/-- The id comes first, then the columns, then what has to be unique. -/
def writeDevice (db : Database) (d : Draft) : Except Fault Database := do
  d.checkNames deviceTable (idNames ++ deviceColumns.map Column.name)
  let own ← d.ownId
  let id ← own.elim db.nextId .ok
  let r := (← d.complete deviceTable deviceColumns).toDeviceRow id
  if own.isNone then db.insertDevice r
  else if db.device.any fun x => x.id = id then .error (.notUniqueId deviceTable)
  else ({ db with hasForeignIds := true } : Database).insertDevice r

def writeMirror (db : Database) (d : Draft) : Except Fault Database := do
  d.checkNames mirrorTable (mirrorColumns.map Column.name)
  let r := (← d.complete mirrorTable mirrorColumns).toRow
  if db.mirror.any fun x => x.sameKey r then .error (.notUnique mirrorTable)
  else return { db with mirror := db.mirror ++ [r] }

end Database

end MailboxSync.Table
