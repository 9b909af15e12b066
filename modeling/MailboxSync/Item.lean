import MailboxSync.Text.Blank

namespace MailboxSync

/-- The two families of items a mailbox holds. A cycle works on one of them. -/
inductive Family where
  | voicemail
  | greeting
deriving DecidableEq, Repr

namespace Family

/-- The name under which a family is stored and shown. -/
def name : Family → String
  | voicemail => "voicemail"
  | greeting => "greeting"

def all : List Family := [voicemail, greeting]

def ofName? (s : String) : Option Family := all.find? fun f => f.name = s

end Family

/-- What a greeting is played for. -/
inductive GreetingType where
  | normal
  | voiceSignature
  | busyGreeting
  | noAnswerGreeting
  | extendedAbsence
deriving DecidableEq, Repr

namespace GreetingType

def name : GreetingType → String
  | normal => "normal"
  | voiceSignature => "voice_signature"
  | busyGreeting => "busy_greeting"
  | noAnswerGreeting => "no_answer_greeting"
  | extendedAbsence => "extended_absence"

def all : List GreetingType :=
  [normal, voiceSignature, busyGreeting, noAnswerGreeting, extendedAbsence]

/-- Reads a name back. Names match exactly, case included. -/
def ofName? (s : String) : Option GreetingType :=
  all.find? fun t => t.name = s

theorem ofName?_name (t : GreetingType) : ofName? t.name = some t := by
  cases t <;> decide +kernel

end GreetingType

/-- What only one family has: a greeting has a type, and is or is not the one played for it. -/
inductive ItemKind where
  | voicemail
  | greeting (type : GreetingType) (active : Bool)
deriving DecidableEq, Repr

def ItemKind.family : ItemKind → Family
  | .voicemail => .voicemail
  | .greeting _ _ => .greeting

/-- One message as a single store sees it. The identifier comes from the carrier. The locator and
the length describe content that the device holds, so other stores leave them out. -/
structure Item where
  id : String
  kind : ItemKind
  isRead : Bool := false
  hasContent : Bool := false
  uri : Option String := none
  contentLen : Option UInt64 := none
deriving DecidableEq, Repr

namespace Item

def voicemail (id : String) : Item := ⟨id, .voicemail, false, false, none, none⟩

def family (i : Item) : Family := i.kind.family

/-- A blank identifier names nothing: such an item takes no part in a cycle. -/
def isKeyed (i : Item) : Bool := !Text.isBlank i.id

def markRead (i : Item) : Item := { i with isRead := true }

/-- The item as a store has it that holds no content for it. -/
def bare (i : Item) : Item := { i with hasContent := false, uri := none, contentLen := none }

/-- The greeting no longer played, if it is one of this type. -/
def demote (t : GreetingType) (i : Item) : Item :=
  match i.kind with
  | .greeting t' _ => if t' = t then { i with kind := .greeting t' false } else i
  | .voicemail => i

@[simp] theorem markRead_id (i : Item) : i.markRead.id = i.id := rfl

@[simp] theorem bare_id (i : Item) : i.bare.id = i.id := rfl

@[simp] theorem demote_id (t : GreetingType) (i : Item) : (i.demote t).id = i.id := by
  unfold demote
  split
  · split <;> rfl
  · rfl

end Item

/-- The audio of one message, with its media type. -/
structure Payload where
  bytes : Array UInt8
  mime : String
deriving DecidableEq

namespace Payload

def length (p : Payload) : UInt64 := p.bytes.size.toUInt64

def isEmpty (p : Payload) : Bool := p.bytes.isEmpty

/-- What a carrier plays when nothing was recorded for an item: silence. -/
def silence (size : Nat) (mime : String) : Payload := ⟨Array.replicate size 0, mime⟩

end Payload

end MailboxSync
