import MailboxSync.Program
import MailboxSync.Store.Carrier
import MailboxSync.Store.Device
import MailboxSync.Store.Mirror

namespace MailboxSync

/-- The three stores in memory, as the calls of a cycle find them. -/
structure Memory where
  device : Device := {}
  carrier : Carrier := {}
  mirror : Mirror := {}

namespace Memory

variable {α : Type}

def happen (m : Memory) : Event → Memory
  | .device e => { m with device := m.device.happen e }
  | .carrier e => { m with carrier := m.carrier.happen e }

def onDevice (m : Memory) (f : Device → Except Failure α × Device) : Except Failure α × Memory :=
  let (x, device) := f m.device
  (x, { m with device })

def onCarrier (m : Memory) (f : Carrier → Except Failure α × Carrier) : Except Failure α × Memory :=
  let (x, carrier) := f m.carrier
  (x, { m with carrier })

def onMirror (m : Memory) (f : Mirror → Except Failure α × Mirror) : Except Failure α × Memory :=
  let (x, mirror) := f m.mirror
  (x, { m with mirror })

def answer (r : Request) (m : Memory) : r.Answer × Memory :=
  match r with
  | .listDevice => m.onDevice Device.list
  | .listCarrier => m.onCarrier Carrier.list
  | .listMirror => (m.mirror.list, m)
  | .applyDevice actions => m.onDevice fun d => d.apply actions
  | .storeContent i p => m.onDevice fun d => d.storeContent i p
  | .applyCarrier a => m.onCarrier fun c => c.apply a
  | .fetchContent i => m.onCarrier fun c => c.fetchContent i
  | .replaceMirror s => m.onMirror fun x => x.replaceWith s

end Memory

end MailboxSync
