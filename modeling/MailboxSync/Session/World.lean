import MailboxSync.Cycle.Run
import MailboxSync.Notice
import MailboxSync.Orchestrator
import MailboxSync.Session.Result
import MailboxSync.Store.Memory
import MailboxSync.Store.Tables

namespace MailboxSync.Session

/-- Where the device's items and the mirror are kept. -/
inductive Backend where
  | memory
  /-- One database, whatever is opened. -/
  | database
  | files
deriving DecidableEq, Repr

/-- An orchestrator with its stores. -/
structure Seat where
  orchestrator : Orchestrator
  home : Home

/-- All that a session acts on. Of the seats the last one is in use. Those before it may have
cycles under way, or a worker, which go on. -/
structure World where
  backend : Backend
  observer : Observer
  memory : Memory := {}
  disk : Disk := {}
  /-- Databases that hold something, by their direct paths. -/
  databases : List (Path × Table.Database) := []
  seats : List Seat := []
  /-- All workers there have been, the oldest first, with the number of their seat. -/
  workers : List (Nat × Worker) := []
  /-- The worker that can be spoken to. -/
  reachable : Option Nat := none
  faults : List (Method × Failure) := []
  hooks : List (Method × List Step) := []
  /-- What the observer of the last seat was told and has not looked at. -/
  told : List Outcome := []
  isObserved : Bool := true
  hooked : List Hooked := []

namespace World

def current (w : World) : Nat := w.seats.length - 1

def seat? (w : World) : Option Seat := w.seats.getLast?

def home (w : World) : Home := w.seat?.elim .memory Seat.home

def status (w : World) : Status := w.seat?.elim {} fun s => s.orchestrator.status

def setOrchestrator (w : World) (i : Nat) (o : Orchestrator) : World :=
  { w with seats := w.seats.modify i fun s => { s with orchestrator := o } }

/-- Observers of seats that are no longer in use are gone. -/
def tell (w : World) (i : Nat) (outcomes : List Outcome) : World :=
  if i = w.current && w.isObserved then { w with told := w.told ++ outcomes } else w

def setWorker (w : World) (k : Nat) (x : Worker) : World :=
  { w with workers := w.workers.modify k fun p => (p.1, x) }

/-! Stores -/

def database (w : World) (file : Path) : Table.Database := (w.databases.lookup file).getD {}

def setDatabase (w : World) (file : Path) (db : Table.Database) : World :=
  { w with databases := (file, db) :: w.databases.filter fun p => p.1 ≠ file }

def tables (w : World) (file : Path) (scope : Table.Scope) : Tables :=
  ⟨scope, w.database file, w.memory.carrier⟩

def setTables (w : World) (file : Path) (t : Tables) : World :=
  { w.setDatabase file t.database with memory := { w.memory with carrier := t.carrier } }

/-- What the stores of a home answer to a call. -/
def answer (h : Home) (r : Request) (w : World) : r.Answer × World :=
  match h with
  | .memory =>
    let (x, memory) := w.memory.answer r
    (x, { w with memory })
  | .tables file scope =>
    let (x, t) := (w.tables file scope).answer r
    (x, w.setTables file t)

def happen (w : World) (e : Event) : World :=
  match w.home with
  | .memory => { w with memory := w.memory.happen e }
  | .tables file scope => w.setTables file ((w.tables file scope).happen e)

def seed (w : World) (store : StoreName) (items : List Item) : World :=
  let m := w.memory
  { w with memory := match store with
    | .device => { m with device := m.device.seed items }
    | .carrier => { m with carrier := m.carrier.seed items }
    | .mirror => { m with mirror := m.mirror.seed items } }

/-- The content the device has for an item. -/
def content (w : World) (id : String) : Except Failure (Option Payload) :=
  match w.home with
  | .memory => .ok (w.memory.device.content id)
  | .tables file scope => (w.database file).content scope id

def arm (w : World) (t : Trap) : World :=
  let m := w.memory
  { w with memory := match t with
    | .deviceList reason => { m with device := { m.device with listFault := some reason } }
    | .deviceApply reason => { m with device := { m.device with applyFault := some reason } }
    | .mirrorReplace reason => { m with mirror := { m.mirror with replaceFault := some reason } }
    | .carrierList reason => { m with carrier := { m.carrier with listFault := some reason } }
    | .carrierAction id =>
      { m with carrier := { m.carrier with actionFaults := m.carrier.actionFaults.put id } }
    | .carrierFetch id =>
      { m with carrier := { m.carrier with fetchFaults := m.carrier.fetchFaults.put id } } }

/-- A row from elsewhere. Without tables there is no place for it. -/
def writeRow (w : World) (table : TableName) (row : Table.Draft) :
    Except Failure World :=
  match w.home with
  | .memory => .error (.database "no tables")
  | .tables file _ =>
    let written := match table with
      | .device => (w.database file).writeDevice row
      | .mirror => (w.database file).writeMirror row
    match written with
    | .ok db => .ok (w.setDatabase file db)
    | .error f => .error f.failure

/-! Opening -/

/-- The place of the database for an opening, which is made if need be. -/
def openDatabase (w : World) (file : Path) : Except Failure Path × World :=
  match w.disk.makeDirectory file.dropLast with
  | (.error e, disk) => (.error (.io e.message), { w with disk })
  | (.ok (), disk) => (.ok file.direct, { w with disk := disk.addFile file.direct })

def homeIn (file : Path) (o : Opening) (family : Family) : Except Failure Home :=
  (Table.Scope.named o.mailbox family).map fun scope => .tables file scope

/-- The stores for an opening. A file is made even if the stores on it cannot be. -/
def openHome (w : World) (o : Opening) : Except Failure Home × World :=
  match w.backend with
  | .memory => (.ok .memory, w)
  | .database => (homeIn [] o (o.family.getD o.policy.family), w)
  | .files =>
    match w.openDatabase o.file with
    | (.error e, w) => (.error e, w)
    | (.ok file, w) => (homeIn file o o.policy.family, w)

/-- A new orchestrator takes over, with an observer of its own. If it cannot be made all stays. -/
def reopen (w : World) (o : Opening) : Except Failure Home × World :=
  match w.openHome o with
  | (.error e, w) => (.error e, w)
  | (.ok home, w) =>
    (.ok home, { w with
      seats := w.seats ++ [⟨{ policy := o.policy }, home⟩]
      told := []
      isObserved := true })

end World

end MailboxSync.Session
