import MailboxSync.Config
import MailboxSync.Toml.Document

namespace MailboxSync.Config

open Toml (Value Entries)

def string? : Value → Option String
  | .string s => some s
  | _ => none

/-- An integer from zero up to, not including, a bound. -/
def natBelow? (bound : Nat) : Value → Option Nat
  | .integer n => if 0 ≤ n ∧ n < bound then some n.toNat else none
  | _ => none

def isEmptyValue : Value → Bool
  | .array [] | .table _ [] => true
  | _ => false

/-- A policy is given by its name. The name may also be the only key of a table, with an empty
table or array under it. -/
def policy? : Value → Option PolicyKind
  | .string s => PolicyKind.ofName? s
  | .table _ [(s, v)] => if isEmptyValue v then PolicyKind.ofName? s else none
  | _ => none

/-- Takes the settings out of a document. Other keys and tables have no meaning here. -/
def ofEntries? (e : Entries) : Option Config := do
  let read {α : Type} (k : String) (default : α) (r : Value → Option α) : Option α :=
    (e.get? k).elim (some default) r
  return {
    mailbox := ← read "mailbox" "default" string?
    dbPath := ← read "db_path" none fun v => (string? v).map some
    policy := ← read "policy" .fullSync policy?
    minContentBytes := ← read "greeting_min_content_bytes" 1 fun v =>
      (natBelow? UInt64.size v).map Nat.toUInt64
    poolSize := ← read "pool_size" 4 fun v => (natBelow? UInt32.size v).map Nat.toUInt32 }

/-- Reads and checks a configuration text. -/
def ofText (text : String) : Except Failure Config := do
  match (Toml.parse? text).bind ofEntries? with
  | none => .error (.config "Failed to parse config")
  | some c =>
    c.validate
    return c

/-- What lies at the place a configuration is loaded from. -/
inductive File where
  | missing
  | directory
  | bytes (content : ByteArray)

/-- Reads a file. What the system or the encoding has against it is told in the system's words. -/
def File.text : File → Except String String
  | .missing => .error "No such file or directory (os error 2)"
  | .directory => .error "Is a directory (os error 21)"
  | .bytes content =>
    match String.fromUTF8? content with
    | some s => .ok s
    | none => .error "stream did not contain valid UTF-8"

def load (f : File) : Except Failure Config :=
  match f.text with
  | .error reason => .error (.config ("Failed to read config: " ++ reason))
  | .ok text => ofText text

end MailboxSync.Config
