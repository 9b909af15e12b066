namespace MailboxSync.Wire

/-- A value on the wire. A number written with a fraction or an exponent is kept as its text:
nothing that is read here takes one. -/
inductive Value where
  | null
  | bool (b : Bool)
  | integer (n : Int)
  | decimal (text : String)
  | string (s : String)
  | array (values : List Value)
  | object (fields : List (String × Value))

namespace Value

instance : Inhabited Value := ⟨null⟩

def string? : Value → Option String
  | string s => some s
  | _ => none

def bool? : Value → Option Bool
  | bool b => some b
  | _ => none

/-- A field of an object. -/
def field? (v : Value) (k : String) : Option Value :=
  match v with
  | object fields => fields.lookup k
  | _ => none

def word64? : Value → Option UInt64
  | integer n => if 0 ≤ n ∧ n < UInt64.size then some n.toNat.toUInt64 else none
  | _ => none

def word32? : Value → Option UInt32
  | integer n => if 0 ≤ n ∧ n < UInt32.size then some n.toNat.toUInt32 else none
  | _ => none

/-- Absent and null both mean that there is nothing; anything else has to be read. -/
def optional? {α : Type} (read : Value → Option α) : Option Value → Option (Option α)
  | none | some null => some none
  | some v => (read v).map some

/-- A bare name stands for itself. It may also be the only field of an object, with null. -/
def name? : Value → Option String
  | string s => some s
  | object [(s, null)] => some s
  | _ => none

/-- Beside a tag a bare name may also carry an empty object. -/
def nameBesideTag? : Value → Option String
  | string s => some s
  | object [(s, null)] | object [(s, object [])] => some s
  | _ => none

/-- The values of a record's fields, in the order of their names. Other fields are left out.
A record may also be an array of all its values. -/
def record? (names : List String) : Value → Option (List (Option Value))
  | object fields => some (names.map fun k => fields.lookup k)
  | array values => if values.length = names.length then some (values.map some) else none
  | _ => none

/-- As `record?`, for a record whose fields all have a default: an array may stop early. -/
def defaultedRecord? (names : List String) : Value → Option (List (Option Value))
  | object fields => some (names.map fun k => fields.lookup k)
  | array values =>
    if values.length ≤ names.length then
      some (values.map some ++ List.replicate (names.length - values.length) none)
    else none
  | _ => none

end Value

end MailboxSync.Wire
