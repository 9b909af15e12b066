import MailboxSync.Cycle.Run
import MailboxSync.Proofs.Reaction
import MailboxSync.Store.Memory

namespace MailboxSync

/-- What happened to the stores at one moment. -/
inductive Occurrence where
  | event (e : Event)
  /-- The stores answered a call of a cycle. -/
  | answered (r : Request)
  /-- A call of a cycle failed. It changed nothing. -/
  | failed (r : Request) (e : Failure)

/-- Something that happened, and the stores as they were just before it. -/
structure Moment where
  before : Memory
  what : Occurrence

/-- Some store has something under this name. -/
def Memory.names (m : Memory) (id : String) : Bool :=
  m.device.items.contains id || m.carrier.recordings.contains id || m.mirror.snapshot.contains id

/-- The stores as they are, and all that happened to them so far, the latest first. -/
structure History where
  now : Memory := {}
  past : List Moment := []

namespace History

/-- The name has been in use in one of the stores, now or before. -/
def knows (h : History) (id : String) : Bool :=
  h.now.names id || h.past.any fun x => x.before.names id

/-- The carrier never gives a name out twice. -/
def admits (h : History) : Event → Bool
  | .carrier (.arrive i _) => !h.knows i.id
  | _ => true

def note (h : History) (what : Occurrence) (now : Memory) : History := ⟨now, ⟨h.now, what⟩ :: h.past⟩

def happen (h : History) (e : Event) : History := h.note (.event e) (h.now.happen e)

/-- A call is answered by the stores, or it fails and changes nothing. -/
def replies : Reaction History := fun r h x h' =>
  (x = (h.now.answer r).1 ∧ h' = h.note (.answered r) (h.now.answer r).2) ∨
    ∃ e, x = .error e ∧ h' = h.note (.failed r e) h.now

theorem ends_ask {h : History} {r : Request} {x : r.Answer} {m : Memory}
    (answer : h.now.answer r = (x, m)) :
    Program.Ends replies (Program.ask r) h x (h.note (.answered r) m) := by
  rw [Program.ends_ask_iff]
  left
  rw [answer]
  exact ⟨rfl, rfl⟩

/-- What may happen from outside. -/
def drifts (h h' : History) : Prop := ∃ e, h.admits e = true ∧ h' = h.happen e

end History

/-- The stores with their history, and the rest of the cycle under way if there is one. -/
structure System where
  history : History := {}
  cycle : Option (Program (Except Failure Report)) := none

/-- What can come next in a run. -/
inductive Move where
  | event (e : Event)
  | start
  | answer
  | fail (e : Failure)
  | finish

namespace System

/-- One step of a run. There is one cycle at a time. An event can come between any two calls. -/
def move (p : Policy) (s : System) : Move → Option System
  | .event e => if s.history.admits e then some { s with history := s.history.happen e } else none
  | .start =>
    match s.cycle with
    | none => some { s with cycle := some p.cycle }
    | some _ => none
  | .answer =>
    match s.cycle with
    | some (.call r next) =>
      let (x, now) := s.history.now.answer r
      some ⟨s.history.note (.answered r) now, some (next x)⟩
    | _ => none
  | .fail e =>
    match s.cycle with
    | some (.call r next) => some ⟨s.history.note (.failed r e) s.history.now, some (next (.error e))⟩
    | _ => none
  | .finish =>
    match s.cycle with
    | some (.done _) => some { s with cycle := none }
    | _ => none

def moves (p : Policy) (s : System) (ms : List Move) : Option System := ms.foldlM (move p) s

def Step (p : Policy) (s t : System) : Prop := ∃ a, s.move p a = some t

/-- There is a run from one system to the other. -/
abbrev Reaches (p : Policy) : System → System → Prop := Relation.ReflTransGen (Step p)

variable {p : Policy} {s t : System}

theorem reaches_of_moves {ms : List Move} (run : s.moves p ms = some t) : Reaches p s t := by
  induction ms generalizing s with
  | nil =>
    cases Option.some.inj run
    exact .refl
  | cons a rest ih =>
    obtain ⟨s', first, others⟩ := Option.bind_eq_some_iff.mp run
    exact .head ⟨a, first⟩ (ih others)

theorem reaches_getD (ms : List Move) (possible : (s.moves p ms).isSome = true) :
    Reaches p s ((s.moves p ms).getD s) := by
  obtain ⟨t, run⟩ := Option.isSome_iff_exists.mp possible
  rw [run]
  exact reaches_of_moves run

theorem Step.event {h : History} {e : Event} {c : Option (Program (Except Failure Report))}
    (admitted : h.admits e = true) : Step p ⟨h, c⟩ ⟨h.happen e, c⟩ :=
  ⟨.event e, by simp [move, admitted]⟩

theorem Step.start {h : History} : Step p ⟨h, none⟩ ⟨h, some p.cycle⟩ := ⟨.start, rfl⟩

theorem Step.call {h h' : History} {r : Request} {next : r.Answer → Program (Except Failure Report)}
    {x : r.Answer} (reply : History.replies r h x h') :
    Step p ⟨h, some (.call r next)⟩ ⟨h', some (next x)⟩ := by
  rcases reply with ⟨rfl, rfl⟩ | ⟨e, rfl, rfl⟩
  · exact ⟨.answer, rfl⟩
  · exact ⟨.fail e, rfl⟩

theorem Step.finish {h : History} {x : Except Failure Report} :
    Step p ⟨h, some (.done x)⟩ ⟨h, none⟩ := ⟨.finish, rfl⟩

/-- All that a step can be. -/
theorem Step.cases (step : Step p s t) :
    (s.history.drifts t.history ∧ t.cycle = s.cycle) ∨
    (s.cycle = none ∧ t = ⟨s.history, some p.cycle⟩) ∨
    (∃ r next x h, s.cycle = some (.call r next) ∧ History.replies r s.history x h ∧
      t = ⟨h, some (next x)⟩) ∨
    (∃ x, s.cycle = some (.done x) ∧ t = ⟨s.history, none⟩) := by
  obtain ⟨h, c⟩ := s
  obtain ⟨a, moved⟩ := step
  cases a with
  | event e =>
    simp only [move, Option.ite_none_right_eq_some, Option.some.injEq] at moved
    obtain ⟨admitted, rfl⟩ := moved
    exact Or.inl ⟨⟨e, admitted, rfl⟩, rfl⟩
  | start =>
    cases c with
    | none =>
      cases Option.some.inj moved
      exact Or.inr (Or.inl ⟨rfl, rfl⟩)
    | some q => cases moved
  | answer =>
    match c with
    | some (.call r next) =>
      cases Option.some.inj moved
      exact Or.inr (Or.inr (Or.inl ⟨r, next, _, _, rfl, Or.inl ⟨rfl, rfl⟩, rfl⟩))
    | some (.done x) => cases moved
    | none => cases moved
  | fail e =>
    match c with
    | some (.call r next) =>
      cases Option.some.inj moved
      exact Or.inr (Or.inr (Or.inl ⟨r, next, _, _, rfl, Or.inr ⟨e, rfl, rfl⟩, rfl⟩))
    | some (.done x) => cases moved
    | none => cases moved
  | finish =>
    match c with
    | some (.done x) =>
      cases Option.some.inj moved
      exact Or.inr (Or.inr (Or.inr ⟨x, rfl, rfl⟩))
    | some (.call r next) => cases moved
    | none => cases moved

theorem Step.history (step : Step p s t) :
    t.history = s.history ∨ ∃ what now, t.history = s.history.note what now := by
  rcases step.cases with ⟨⟨e, _, happened⟩, _⟩ | ⟨_, rfl⟩ | ⟨r, next, x, h, _, reply, rfl⟩ | ⟨x, _, rfl⟩
  · exact Or.inr ⟨_, _, happened⟩
  · exact Or.inl rfl
  · rcases reply with ⟨_, answered⟩ | ⟨e, _, failed⟩
    · exact Or.inr ⟨_, _, answered⟩
    · exact Or.inr ⟨_, _, failed⟩
  · exact Or.inl rfl

theorem reaches_of_meets {P : History → Prop} {q : Program (Except Failure Report)} {h : History}
    (meets : q.Meets History.replies P h) : ∃ t, Reaches p ⟨h, some q⟩ t ∧ P t.history := by
  induction q generalizing h with
  | done a => exact ⟨_, .refl, meets⟩
  | call r next ih =>
    rcases meets with now | ⟨x, h', reply, later⟩
    · exact ⟨_, .refl, now⟩
    · obtain ⟨t, run, holds⟩ := ih x later
      exact ⟨t, .head (.call reply) run, holds⟩

/-- A cycle under way can be cut short by having all its calls fail. -/
theorem reaches_idle (q : Program (Except Failure Report)) (h : History) :
    ∃ h', Reaches p ⟨h, some q⟩ ⟨h', none⟩ ∧ h'.now = h.now := by
  induction q generalizing h with
  | done x => exact ⟨h, .single .finish, rfl⟩
  | call r next ih =>
    obtain ⟨h', rest, same⟩ := ih (.error (.other "")) (h.note (.failed r (.other "")) h.now)
    exact ⟨h', .head (.call (Or.inr ⟨_, rfl, rfl⟩)) rest, same⟩

/-- The invariant holds now, and goes on to hold while the cycle under way takes its course. -/
def Sound (I : History → Prop) (s : System) : Prop :=
  match s.cycle with
  | none => I s.history
  | some q => q.Keeps (History.replies.after History.drifts) I (fun _ _ => True) s.history

theorem Sound.now {I : History → Prop} (sound : Sound I s) : I s.history := by
  obtain ⟨h, c⟩ := s
  cases c with
  | none => exact sound
  | some q => exact sound.now

theorem Sound.step {I : History → Prop} (stable : ∀ h h', History.drifts h h' → I h → I h')
    (cycle : ∀ h, I h →
      p.cycle.Keeps (History.replies.after History.drifts) I (fun _ _ => True) h)
    (sound : Sound I s) (step : Step p s t) : Sound I t := by
  obtain ⟨h, c⟩ := s
  obtain ⟨h', c'⟩ := t
  rcases step.cases with ⟨drift, same⟩ | ⟨idle, same⟩ | ⟨r, next, x, h₁, busy, reply, same⟩ |
    ⟨x, busy, same⟩
  · cases same
    cases c with
    | none => exact stable _ _ drift sound
    | some q => exact Program.Keeps.drift sound stable (fun _ _ _ _ _ => trivial) drift
  · cases same
    cases idle
    exact cycle h sound
  · cases same
    cases busy
    exact sound.2 x _ ⟨h, .refl, reply⟩
  · cases same
    cases busy
    exact sound.1

/-- What events cannot upset, and a cycle keeps between any two of its calls, holds all through a
run. -/
theorem Sound.reaches {I : History → Prop} (stable : ∀ h h', History.drifts h h' → I h → I h')
    (cycle : ∀ h, I h →
      p.cycle.Keeps (History.replies.after History.drifts) I (fun _ _ => True) h)
    (sound : Sound I s) (run : Reaches p s t) : Sound I t := by
  induction run with
  | refl => exact sound
  | tail _ step ih => exact ih.step stable cycle step

end System

end MailboxSync
