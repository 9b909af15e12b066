import MailboxSync.Table.Numeral

namespace MailboxSync.Table

/-- A value in a table. Of a real number only its sort matters here, so it is kept as written. -/
inductive Cell where
  | null
  | integer (n : Int)
  | real (text : String)
  | text (s : String)
  | blob (bytes : Array UInt8)
deriving DecidableEq

namespace Cell

/-- The name of a value's sort in messages. -/
def sortName : Cell → String
  | null => "Null"
  | integer _ => "Integer"
  | real _ => "Real"
  | text _ => "Text"
  | blob _ => "Blob"

def ofBool (b : Bool) : Cell := integer (if b then 1 else 0)

def ofOption {α : Type} (f : α → Cell) (o : Option α) : Cell := o.elim null f

/-- Sorts come in a fixed order: nothing, numbers, texts, blobs. -/
def rank : Cell → Nat
  | null => 0
  | integer _ | real _ => 1
  | text _ => 2
  | blob _ => 3

/-- The order in which an index keeps names, for the sorts a name can have. Texts and blobs compare
byte by byte. -/
def precedes (a b : Cell) : Bool :=
  match a, b with
  | text s, text t => s ≤ t
  | blob x, blob y => decide (x.toList ≤ y.toList)
  | a, b => a.rank ≤ b.rank

end Cell

/-- What a column prefers to hold. Values are turned into it where nothing is lost. -/
inductive Affinity where
  | text
  | integer
  | blob
deriving DecidableEq, Repr

/-- The value as a column keeps it. -/
def Affinity.keep : Affinity → Cell → Cell
  | .text, .integer n => .text (toString n)
  | .integer, .text s =>
    match Numeral.read? s with
    | none => .text s
    | some x => x.toInteger?.elim (.real s) .integer
  | _, c => c

/-- What can be wrong with a row. -/
inductive Fault where
  | wrongSort (found : Cell) (index : Nat) (column : String)
  | wrongText (index : Nat) (column : String)
  | outOfRange (n : Int) (index : Nat)
  | notUnique (table : String)
  | notUniqueId (table : String)
  /-- An id that is no number. -/
  | notAnId
  /-- No id is left for a new row. -/
  | full
  | missing (table column : String)
  | noColumn (table column : String)

namespace Fault

/-- The columns that name a row, as messages list them. -/
def keyColumns (table : String) : String :=
  ", ".intercalate (["mailbox", "kind", "source_id"].map fun c => table ++ "." ++ c)

def message : Fault → String
  | wrongSort c i n =>
    "Invalid column type " ++ c.sortName ++ " at index: " ++ toString i ++ ", name: " ++ n
  | wrongText i n => "Invalid column type Text at index: " ++ toString i ++ ", name: " ++ n
  | outOfRange n i => "Integer " ++ toString n ++ " out of range at index " ++ toString i
  | notUnique t => "UNIQUE constraint failed: " ++ keyColumns t
  | notUniqueId t => "UNIQUE constraint failed: " ++ t ++ ".id"
  | notAnId => "datatype mismatch"
  | full => "database or disk is full"
  | missing t c => "NOT NULL constraint failed: " ++ t ++ "." ++ c
  | noColumn t c => "table " ++ t ++ " has no column named " ++ c

end Fault

/-! Reading cells as values. The index and the name of the column are for messages. -/

namespace Cell

def readText (i : Nat) (column : String) : Cell → Except Fault String
  | text s => .ok s
  | c => .error (.wrongSort c i column)

def readOptionalText (i : Nat) (column : String) : Cell → Except Fault (Option String)
  | null => .ok none
  | c => (c.readText i column).map some

/-- A flag is a 32-bit integer, and set when it is not zero. -/
def readFlag (i : Nat) (column : String) : Cell → Except Fault Bool
  | integer n =>
    if Int32.minValue.toInt ≤ n ∧ n ≤ Int32.maxValue.toInt then .ok (n ≠ 0)
    else .error (.outOfRange n i)
  | c => .error (.wrongSort c i column)

def readOptionalInteger (i : Nat) (column : String) : Cell → Except Fault (Option Int)
  | null => .ok none
  | integer n => .ok (some n)
  | c => .error (.wrongSort c i column)

def readOptionalBlob (i : Nat) (column : String) : Cell → Except Fault (Option (Array UInt8))
  | null => .ok none
  | blob b => .ok (some b)
  | c => .error (.wrongSort c i column)

end Cell

end MailboxSync.Table
