import MailboxSync.Action
import MailboxSync.Classification

namespace MailboxSync

/-- The shortest content that is of use. What is there and is shorter counts as empty. -/
structure ContentProbe where
  minBytes : UInt64 := 1
deriving DecidableEq, Repr

/-- A length nobody recorded cannot be doubted. -/
def ContentProbe.findsEmpty (p : ContentProbe) (i : Item) : Bool :=
  i.hasContent && i.contentLen.any (· < p.minBytes)

/-- The names a configuration chooses a policy by. -/
inductive PolicyKind where
  | fullSync
  | noLocalDeletion
  | greetingSync
deriving DecidableEq, Repr

namespace PolicyKind

def name : PolicyKind → String
  | fullSync => "full-sync"
  | noLocalDeletion => "no-local-deletion"
  | greetingSync => "greeting-sync"

def all : List PolicyKind := [fullSync, noLocalDeletion, greetingSync]

def ofName? (s : String) : Option PolicyKind := all.find? fun k => k.name = s

/-- The family a policy of this kind works on. -/
def family : PolicyKind → Family
  | greetingSync => .greeting
  | fullSync | noLocalDeletion => .voicemail

end PolicyKind

/-- How differences between the stores are settled. A policy names the actions each category
calls for; the read mark only ever moves towards read.

Full sync carries deletions both ways. Without local deletion, what vanished from the carrier
stays on the device as a read message. Greetings belong to the carrier: the device copies them,
content included, and content that a probe finds empty it copies again. -/
inductive Policy where
  | fullSync
  | noLocalDeletion
  | greetingSync (findsEmpty : Item → Bool)

namespace Policy

/-- The policy of a kind, with a probe that goes by length. -/
def ofKind (kind : PolicyKind) (probe : ContentProbe) : Policy :=
  match kind with
  | .fullSync => fullSync
  | .noLocalDeletion => noLocalDeletion
  | .greetingSync => greetingSync probe.findsEmpty

def kind : Policy → PolicyKind
  | fullSync => .fullSync
  | noLocalDeletion => .noLocalDeletion
  | greetingSync _ => .greetingSync

def name (p : Policy) : String := p.kind.name

def family (p : Policy) : Family := p.kind.family

/-- On the device, not on the carrier. -/
def onDeviceOnly (p : Policy) (i : Item) : List Action :=
  match p with
  | fullSync | greetingSync _ => [⟨.delete, .device, i⟩]
  | noLocalDeletion => if i.isRead then [] else [⟨.markAsRead, .device, i⟩]

/-- On the carrier, not on the device. If the mirror knows it, the user took it off the device;
otherwise it is new. A greeting is copied either way, and its content with it. -/
def onCarrierOnly (p : Policy) (e : CarrierOnly) : List Action :=
  match p with
  | fullSync | noLocalDeletion =>
    if e.inMirror then [⟨.delete, .carrier, e.carrier⟩] else [⟨.insert, .device, e.carrier⟩]
  | greetingSync _ => [⟨.insert, .device, e.carrier⟩, ⟨.fetchContent, .carrier, e.carrier⟩]

/-- On both: content the device lacks is fetched, and a read mark on one side goes to the other. -/
def onBoth (p : Policy) (s : Shared) : List Action :=
  match p with
  | fullSync | noLocalDeletion =>
    (if s.device.hasContent then [] else [⟨.fetchContent, .carrier, s.carrier⟩]) ++
      match s.device.isRead, s.carrier.isRead with
      | true, false => [⟨.markAsRead, .carrier, s.carrier⟩]
      | false, true => [⟨.markAsRead, .device, s.device⟩]
      | _, _ => []
  | greetingSync findsEmpty =>
    if s.device.hasContent && !findsEmpty s.device then []
    else [⟨.fetchContent, .carrier, s.carrier⟩]

/-- On the device and in the mirror. The mirror tells what the carrier held and is never written
to here, so only the carrier is marked. -/
def onRemembered (p : Policy) (r : Remembered) : List Action :=
  match p with
  | fullSync | noLocalDeletion =>
    if r.device.isRead && !r.mirror.isRead then [⟨.markAsRead, .carrier, r.device⟩] else []
  | greetingSync _ => []

/-- In the mirror alone. -/
def onMirrorOnly (p : Policy) (i : Item) : List Action :=
  match p with
  | fullSync | noLocalDeletion => [⟨.delete, .carrier, i⟩]
  | greetingSync _ => []

/-- All that a classification calls for, category by category. -/
def actions (p : Policy) (c : Classification) : List Action :=
  c.deviceOnly.flatMap p.onDeviceOnly ++ c.carrierOnly.flatMap p.onCarrierOnly ++
    c.both.flatMap p.onBoth ++ c.remembered.flatMap p.onRemembered ++
    c.mirrorOnly.flatMap p.onMirrorOnly

def plan (p : Policy) (c : Classification) : Plan := .ofList (p.actions c)

end Policy

end MailboxSync
