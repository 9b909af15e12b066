import MailboxSync.Snapshot

namespace MailboxSync

/-- An item on the carrier that the device lacks, with what the mirror remembers of it. -/
structure CarrierOnly where
  carrier : Item
  mirror : Option Item
deriving DecidableEq, Repr

namespace CarrierOnly

def id (e : CarrierOnly) : String := e.carrier.id

/-- The carrier held it when last seen, so the device has had it and lost it. -/
def inMirror (e : CarrierOnly) : Bool := e.mirror.isSome

end CarrierOnly

/-- An item on the device and on the carrier. -/
structure Shared where
  device : Item
  carrier : Item
deriving DecidableEq, Repr

/-- An item on the device and in the mirror, wherever else it is. -/
structure Remembered where
  device : Item
  mirror : Item
deriving DecidableEq, Repr

/-- The four categories that divide the keys of the three stores. -/
inductive Category where
  | deviceOnly
  | carrierOnly
  | both
  | mirrorOnly
deriving DecidableEq, Repr

def Category.name : Category → String
  | .deviceOnly => "local-only"
  | .carrierOnly => "remote-only"
  | .both => "both"
  | .mirrorOnly => "mirror-only"

/-- Every key of the three stores in its category, and beside that division the keys that device
and mirror share. A classification may be written down by hand; `classify` makes the right one. -/
structure Classification where
  deviceOnly : List Item := []
  carrierOnly : List CarrierOnly := []
  both : List Shared := []
  mirrorOnly : List Item := []
  remembered : List Remembered := []
deriving DecidableEq, Repr

/-- Classifies three snapshots by membership. Each category is in ascending order of keys. -/
def classify (device carrier mirror : Snapshot) : Classification where
  deviceOnly := device.toList.filter fun i => !carrier.contains i.id
  carrierOnly :=
    (carrier.toList.filter fun i => !device.contains i.id).map fun i => ⟨i, mirror.get? i.id⟩
  both := device.toList.filterMap fun i => (carrier.get? i.id).map fun c => ⟨i, c⟩
  mirrorOnly := mirror.toList.filter fun i => !carrier.contains i.id && !device.contains i.id
  remembered := device.toList.filterMap fun i => (mirror.get? i.id).map fun m => ⟨i, m⟩

/-- What may be wrong with a classification. -/
inductive Violation where
  | unclassified (key : String)
  | classifiedRepeatedly (key : String) (categories : List Category)
  | stray (key : String)
  | rememberedMismatch
deriving DecidableEq, Repr

def Violation.message : Violation → String
  | .unclassified k => k ++ " was not classified"
  | .classifiedRepeatedly k cs => k ++ " classified as " ++ " and ".intercalate (cs.map Category.name)
  | .stray k => k ++ " is not present in any snapshot"
  | .rememberedMismatch => "local-and-mirror does not match the local/mirror intersection"

namespace Classification

def isEmpty (c : Classification) : Bool :=
  c.deviceOnly.isEmpty && c.carrierOnly.isEmpty && c.both.isEmpty && c.mirrorOnly.isEmpty &&
    c.remembered.isEmpty

/-- The keys of the four categories, with repetition, category by category. -/
def entries (c : Classification) : List (String × Category) :=
  c.deviceOnly.map (fun i => (i.id, .deviceOnly)) ++
    c.carrierOnly.map (fun e => (e.id, .carrierOnly)) ++
    c.both.map (fun p => (p.device.id, .both)) ++
    c.mirrorOnly.map (fun i => (i.id, .mirrorOnly))

/-- The categories that hold a key. -/
def categoriesOf (c : Classification) (k : String) : List Category :=
  (c.entries.filter fun e => e.1 = k).map Prod.snd

/-- A key of the three stores belongs to exactly one category. -/
def violationAt (c : Classification) (k : String) : Option Violation :=
  match c.categoriesOf k with
  | [] => some (.unclassified k)
  | [_] => none
  | cs => some (.classifiedRepeatedly k cs)

/-- The keys held in common are those of device and mirror, each named once. -/
def remembersExactly (c : Classification) (device mirror : Snapshot) : Bool :=
  let named := KeySet.ofList (c.remembered.map fun p => p.device.id)
  named.toList = device.keys.filter mirror.contains && named.size = c.remembered.length

/-- Checks a classification against the snapshots. The smallest key that is wrong is reported;
keys of the snapshots come before stray ones, and those before the keys held in common. -/
def verify (c : Classification) (device carrier mirror : Snapshot) : Except Violation Unit :=
  let known := KeySet.ofList (device.keys ++ carrier.keys ++ mirror.keys)
  match known.toList.findSome? c.violationAt with
  | some v => .error v
  | none =>
    match (KeySet.ofList (c.entries.map Prod.fst)).toList.find? (fun k => !known.contains k) with
    | some k => .error (.stray k)
    | none => if c.remembersExactly device mirror then .ok () else .error .rememberedMismatch

end Classification

end MailboxSync
