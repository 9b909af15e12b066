import MailboxSync.Action
import MailboxSync.Failure
import MailboxSync.Snapshot

namespace MailboxSync

/-- The calls a cycle makes on its three stores. -/
inductive Request where
  | listDevice
  | listCarrier
  | listMirror
  | applyDevice (actions : List Action)
  | storeContent (item : Item) (payload : Payload)
  | applyCarrier (action : Action)
  | fetchContent (item : Item)
  | replaceMirror (snapshot : Snapshot)

namespace Request

/-- What a call is answered with when it succeeds. -/
abbrev Reply : Request → Type
  | listDevice | listCarrier | listMirror => Snapshot
  | applyDevice _ | storeContent _ _ | applyCarrier _ | replaceMirror _ => Unit
  | fetchContent _ => Payload

/-- A call may also fail, for any reason. -/
abbrev Answer (r : Request) : Type := Except Failure r.Reply

end Request

/-- The store calls by their name alone. -/
inductive Method where
  | listDevice
  | listCarrier
  | listMirror
  | applyDevice
  | storeContent
  | applyCarrier
  | fetchContent
  | replaceMirror
deriving DecidableEq, Repr

def Request.method : Request → Method
  | .listDevice => .listDevice
  | .listCarrier => .listCarrier
  | .listMirror => .listMirror
  | .applyDevice _ => .applyDevice
  | .storeContent _ _ => .storeContent
  | .applyCarrier _ => .applyCarrier
  | .fetchContent _ => .fetchContent
  | .replaceMirror _ => .replaceMirror

/-- The calls that only look. -/
def Method.isListing : Method → Bool
  | listDevice | listCarrier | listMirror => true
  | _ => false

/-- A program over store calls: it is finished, or it makes a call and goes on with the answer.
What the stores do, what happens between two calls, and which calls fail is for the one who runs
the program to say. -/
inductive Program (α : Type) where
  | done (a : α)
  | call (r : Request) (next : r.Answer → Program α)

namespace Program

variable {α β σ : Type}

def bind : Program α → (α → Program β) → Program β
  | done a, k => k a
  | call r next, k => call r fun x => (next x).bind k

instance : Monad Program where
  pure := done
  bind := bind

/-- Makes one call. -/
def ask (r : Request) : Program r.Answer := call r done

/-- Runs a program. The handler answers each call, and carries a state along. -/
def run (handle : (r : Request) → σ → r.Answer × σ) : Program α → σ → α × σ
  | done a, s => (a, s)
  | call r next, s =>
    let (x, s) := handle r s
    (next x).run handle s

@[simp] theorem run_pure (handle : (r : Request) → σ → r.Answer × σ) (a : α) (s : σ) :
    (pure a : Program α).run handle s = (a, s) := rfl

theorem run_call (handle : (r : Request) → σ → r.Answer × σ) (r : Request)
    (next : r.Answer → Program α) (s : σ) :
    (call r next).run handle s = (next (handle r s).1).run handle (handle r s).2 := rfl

@[simp] theorem run_ask (handle : (r : Request) → σ → r.Answer × σ) (r : Request) (s : σ) :
    (ask r).run handle s = handle r s := rfl

/-- To run one program after another, run the second from where the first ended. -/
@[simp] theorem run_bind (handle : (r : Request) → σ → r.Answer × σ) (p : Program α)
    (k : α → Program β) (s : σ) :
    (p >>= k).run handle s = (k (p.run handle s).1).run handle (p.run handle s).2 := by
  show (p.bind k).run handle s = _
  induction p generalizing s with
  | done a => rfl
  | call r next ih => exact ih (handle r s).1 (handle r s).2

end Program

end MailboxSync
