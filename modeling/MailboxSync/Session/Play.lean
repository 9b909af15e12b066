import MailboxSync.Session.World

namespace MailboxSync.Session

/-- Steps to be done within a call of this method. -/
abbrev Interlude := Method → List Step → World → World

namespace World

/-- A call made by a cycle: the steps that hang on it come first, then a fault if one waits, and
the stores only if none does. -/
def intercept (play : Interlude) (h : Home) (r : Request) (w : World) : r.Answer × World :=
  let w := match w.hooks.lookup r.method with
    | some steps =>
      play r.method steps { w with hooks := w.hooks.eraseP fun p => p.1 = r.method }
    | none => w
  match w.faults.lookup r.method with
  | some e => (.error e, { w with faults := w.faults.eraseP fun p => p.1 = r.method })
  | none => w.answer h r

/-- A request for a cycle, from its first stage to its answer. Whatever happens to the orchestrator
while the cycle is under way is kept. -/
def requestSync (play : Interlude) (w : World) (i : Nat) : SyncReply × World :=
  match w.seats[i]? with
  | none => (.coalesced, w)
  | some seat =>
    let (stage, o, told) := seat.orchestrator.enter
    let w := (w.setOrchestrator i o).tell i told
    match stage with
    | .running =>
      let (x, w) := o.policy.cycle.run (intercept play seat.home) w
      let e := Outcome.ofResult x
      match w.seats[i]? with
      | none => (.ended e, w)
      | some seat =>
        let (_, o, told) := seat.orchestrator.leave e
        (.ended e, (w.setOrchestrator i o).tell i told)
    | _ => (.coalesced, w)

def recordCoalesced (w : World) (i : Nat) (n : UInt64) : World :=
  match w.seats[i]? with
  | none => w
  | some seat => w.setOrchestrator i (seat.orchestrator.recordCoalesced n)

/-- A worker goes on until it waits again. It cannot while a cycle of its own is under way. -/
def turn (play : Interlude) (w : World) (k : Nat) : World :=
  match w.workers[k]? with
  | none => w
  | some (i, x) =>
    if x.phase ≠ .waiting then w
    else
      let x := x.receive.gather
      let w := w.setWorker k x
      match x.phase with
      | .serving _ =>
        let (_, w) := w.requestSync play i
        match w.workers[k]? with
        | none => w
        | some (_, x) => (w.recordCoalesced i x.arrived.toUInt64).setWorker k x.conclude
      | _ => w

/-- The workers from the `k`-th on take their turns. -/
def turnsFrom (play : Interlude) : Nat → Nat → World → World
  | 0, _, w => w
  | n + 1, k, w => if k < w.workers.length then turnsFrom play n (k + 1) (w.turn play k) else w

/-- All workers take their turns, the oldest first. One that is started within a turn is the last.
Only the steps that wait on calls can start one there, so that there are no more than these. -/
def turns (play : Interlude) (w : World) : World :=
  w.turnsFrom play (w.workers.length + Step.sizeAll (w.hooks.flatMap Prod.snd)) 0

/-- Sends commands to the worker that can be spoken to. Without one they are lost. -/
def send (w : World) (cs : List Command) : World :=
  match w.reachable with
  | none => w
  | some k => { w with workers := w.workers.modify k fun p => (p.1, cs.foldl Worker.send p.2) }

/-- A new worker takes the place of the one before, which ends when it has served what it was
sent. -/
def startWorker (w : World) : World :=
  let w := w.send [.shutdown]
  { w with workers := w.workers ++ [(w.current, {})], reachable := some w.workers.length }

/-- The worker is sent away and seen out. Nobody can speak to it from then on, but to a worker that
is started before it has ended. -/
def stopWorker (play : Interlude) (w : World) : World :=
  match w.reachable with
  | none => w
  | some _ => ({ w.send [.shutdown] with reachable := none } : World).turns play

/-- The result of an event. Tables tell whether they have the item it is about. -/
def eventResult (w : World) (e : Event) : Result :=
  match w.home, e with
  | .tables file scope, .device (.read id) | .tables file scope, .device (.remove id) =>
    .flag ((w.database file).has scope id)
  | _, _ => .done

/-- Does one step. -/
def perform (play : Interlude) (w : World) (s : Step) : Result × World :=
  match s with
  | .state => (.done, w)
  | .status => (.status w.status, w)
  | .reopen o =>
    match w.reopen o with
    | (.ok home, w) => (.opened o.policy.kind home, w)
    | (.error e, w) => (.failed e, w)
  | .recordCoalesced n =>
    let w := w.recordCoalesced w.current n
    (.status w.status, w)
  | .dropEvents =>
    match w.observer with
    | .channel => (.done, { w with told := [], isObserved := false })
    | .log => (.done, w)
  | .sync =>
    let (x, w) := w.requestSync play w.current
    (.reply x, w)
  | .happen e => (w.eventResult e, w.happen e)
  | .seed store items => (.done, w.seed store items)
  | .content id =>
    match w.content id with
    | .ok p => (.content p, w)
    | .error e => (.failed e, w)
  | .writeRow table row =>
    match w.writeRow table row with
    | .ok w => (.written 1, w)
    | .error e => (.failed e, w)
  | .arm t => (.done, w.arm t)
  | .fault m e => (.done, { w with faults := w.faults ++ [(m, e)] })
  | .hook m steps => (.done, { w with hooks := w.hooks ++ [(m, steps)] })
  | .call r =>
    let (x, w) := w.answer w.home r
    (.answered r x, w)
  | .carryOut p =>
    let (x, w) := p.carryOut.run (intercept play w.home) w
    (.applied x, w)
  | .startWorker => (.done, w.startWorker)
  | .request t n => (.done, w.send (List.replicate n (.sync t)))
  | .yieldToWorker =>
    let w := w.turns play
    (.status w.status, w)
  | .stopWorker =>
    let w := w.stopWorker play
    (.stopped w.status, w)

/-- Does the steps that hang on a call, to a depth of calls within calls. -/
def interlude : Nat → Interlude
  | 0, _, _, w => w
  | n + 1, m, steps, w => steps.foldl (fun w s =>
      let (result, w) := w.perform (interlude n) s
      { w with hooked := w.hooked ++ [⟨m, s, result⟩] }) w

end World

/-- The stores looked over. -/
structure View where
  device : Except Failure Snapshot
  contents : List (String × Except Failure Payload)
  carrier : Except Failure Snapshot
  mirror : Except Failure Snapshot
  applied : List String

/-- Lists the stores, which uses up the faults armed for that. -/
def World.view (w : World) : View × World :=
  let (device, w) := w.answer w.home .listDevice
  let (carrier, w) := w.answer w.home .listCarrier
  let (mirror, w) := w.answer w.home .listMirror
  let ids := match device with
    | .ok s => s.keys
    | .error _ => []
  let contents := ids.filterMap fun id =>
    match w.content id with
    | .ok none => none
    | .ok (some p) => some (id, .ok p)
    | .error e => some (id, .error e)
  (⟨device, contents, carrier, mirror, w.memory.carrier.applied⟩, w)

/-- A step done, and all that can be seen after it. -/
structure Entry where
  step : Step
  result : Result
  hooked : List (Hooked)
  notices : List Notice
  view : Option View

namespace World

/-- Does a step and takes down what was seen since the one before. Calls can nest as deep as the
script has steps. -/
def record (depth : Nat) (w : World) (s : Step) : Entry × World :=
  let (result, w) := w.perform (interlude depth) s
  let notices := w.told.flatMap w.observer.notices
  let hooked := w.hooked
  let w := { w with told := [], hooked := [] }
  if s.isQuiet then (⟨s, result, hooked, notices, none⟩, w)
  else
    let (view, w) := w.view
    (⟨s, result, hooked, notices, some view⟩, w)

def recordAll (depth : Nat) (w : World) : List Step → List Entry
  | [] => []
  | s :: rest =>
    let (e, w) := w.record depth s
    e :: w.recordAll depth rest

end World

/-- Plays a script from its opening on. If that fails there is nothing to play on. -/
def play (b : Backend) (x : Observer) (o : Opening) (script : List Step) : Result × List Entry :=
  match World.perform (fun _ _ w => w) { backend := b, observer := x } (.reopen o) with
  | (.opened policy home, w) => (.opened policy home, w.recordAll (Step.sizeAll script) script)
  | (r, _) => (r, [])

end MailboxSync.Session
