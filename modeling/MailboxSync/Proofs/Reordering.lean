import MailboxSync.Proofs.Families
import MailboxSync.Proofs.Listing

namespace MailboxSync

/-- What a command meets under its name: what the stores have there, and the faults armed for it. -/
structure Post where
  slot : Slot
  rejects : Bool
  stalls : Bool

namespace Post

/-- A fault is armed for commands like this one. -/
def refuses (a : Action) (s : Post) : Bool :=
  match a.kind with
  | .fetchContent => s.stalls
  | .insert | .delete | .markAsRead => s.rejects

/-- What a command is answered with. -/
def outcome (a : Action) (s : Post) : Except Failure Unit :=
  if s.refuses a then
    .error (.remoteAction a.kind.name a.id
      (if a.kind = .fetchContent then "fetch timed out" else "server rejected the command"))
  else if s.slot.grants a then .ok ()
  else .error (.itemNotFound a.id)

/-- What the carrier logs. Content it hands out is logged even if the device has no place for it. -/
def lines (a : Action) (s : Post) : List String :=
  if !s.refuses a && (a.kind = .delete || s.slot.recording.isSome) then [a.render] else []

/-- What a command leaves behind. A fault that it meets is used up. -/
def obey (a : Action) (s : Post) : Post :=
  if s.refuses a then
    match a.kind with
    | .fetchContent => { s with stalls := false }
    | .insert | .delete | .markAsRead => { s with rejects := false }
  else { s with slot := s.slot.obey a }

end Post

namespace Memory

def post (m : Memory) (k : String) : Post where
  slot := m.slot k
  rejects := m.carrier.actionFaults.contains k
  stalls := m.carrier.fetchFaults.contains k

/-- What has no name of an item. -/
def rest (m : Memory) : Option String × Option String × Option String × Mirror :=
  (m.device.listFault, m.device.applyFault, m.carrier.listFault, m.mirror)

/-- One command was tried. It leaves alone what goes by another name. -/
structure Tried (a : Action) (m m' : Memory) : Prop where
  post : ∀ k, m'.post k = if k = a.id then (m.post k).obey a else m.post k
  rest : m'.rest = m.rest
  applied : m'.carrier.applied = m.carrier.applied ++ (m.post a.id).lines a

end Memory

theorem KeySet.contains_erase (s : KeySet) (id k : String) :
    Shelf.contains (s.erase id) k = if k = id then false else Shelf.contains s k := by
  rw [Shelf.contains_eq_isSome, Shelf.get?_erase, Shelf.contains_eq_isSome]
  split <;> rfl

theorem KeySet.ext_contains {s t : KeySet} (same : ∀ k, Shelf.contains s k = Shelf.contains t k) : s = t :=
  Shelf.ext_mem fun k => by rw [KeySet.mem_iff_contains, KeySet.mem_iff_contains, same]

namespace Memory

variable {a : Action} {m m' : Memory} {k : String}

/-- A command that meets no fault does with its slot what it does with slots. -/
theorem tried_of_slots (accepted : (m.post a.id).refuses a = false)
    (slots : ∀ k, m'.slot k = if k = a.id then (m.slot k).obey a else m.slot k)
    (actions : m'.carrier.actionFaults = m.carrier.actionFaults)
    (fetches : m'.carrier.fetchFaults = m.carrier.fetchFaults) (rest : m'.rest = m.rest)
    (applied : m'.carrier.applied = m.carrier.applied ++
      if a.kind = .delete ∨ (m.slot a.id).recording.isSome = true then [a.render] else []) :
    m.Tried a m' := by
  refine ⟨?_, rest, ?_⟩
  · intro k
    have changed : m'.post k = { m.post k with slot := m'.slot k } := by
      rw [post, actions, fetches]
      rfl
    rw [changed, slots]
    by_cases own : k = a.id
    · subst own
      rw [if_pos rfl, if_pos rfl, Post.obey, accepted]
      rfl
    · rw [if_neg own, if_neg own]
      rfl
  · rw [applied, Post.lines, accepted]
    simp [post]

theorem rest_storeContent (i : Item) (p : Payload) : (m.answer (.storeContent i p)).2.rest = m.rest := by
  show ((m.device.storeContent i p).2.listFault, (m.device.storeContent i p).2.applyFault, _, _) = _
  rw [Device.storeContent]
  split <;> rfl

theorem rejects_of_command (kind : a.kind = .delete ∨ a.kind = .markAsRead) (s : Post) :
    s.refuses a = s.rejects := by
  rcases kind with kind | kind <;> simp only [Post.refuses, kind]

/-- A command that meets a fault. -/
theorem tried_of_rejected (kind : a.kind = .delete ∨ a.kind = .markAsRead)
    (armed : m.carrier.actionFaults.contains a.id = true) :
    (m.answer (.applyCarrier a)).1 = (m.post a.id).outcome a ∧ m.Tried a (m.answer (.applyCarrier a)).2 := by
  have refused : (m.post a.id).refuses a = true := by
    rw [rejects_of_command kind]
    exact armed
  have answer : m.carrier.apply a = (.error (.remoteAction a.kind.name a.id "server rejected the command"),
      { m.carrier with actionFaults := m.carrier.actionFaults.erase a.id }) := by
    rw [Carrier.apply, if_pos armed]
  simp only [Memory.answer, onCarrier, answer]
  refine ⟨?_, ?_, rfl, ?_⟩
  · rw [Post.outcome, if_pos refused, if_neg (by rcases kind with kind | kind <;> simp [kind])]
  · intro k
    show Post.mk (m.slot k) (Shelf.contains (m.carrier.actionFaults.erase a.id) k) (m.post k).stalls = _
    rw [KeySet.contains_erase]
    by_cases own : k = a.id
    · subst own
      rw [if_pos rfl, if_pos rfl, Post.obey, if_pos refused]
      rcases kind with kind | kind <;> simp only [kind] <;> rfl
    · rw [if_neg own, if_neg own]
      rfl
  · simp [Post.lines, refused]

/-- A command that meets none. -/
theorem tried_of_free (kind : a.kind = .delete ∨ a.kind = .markAsRead)
    (free : m.carrier.actionFaults.contains a.id = false) :
    (m.answer (.applyCarrier a)).1 = (m.post a.id).outcome a ∧ m.Tried a (m.answer (.applyCarrier a)).2 := by
  have accepted : (m.post a.id).refuses a = false := by
    rw [rejects_of_command kind]
    exact free
  have outcome : (m.post a.id).outcome a =
      if (m.slot a.id).grants a then .ok () else .error (.itemNotFound a.id) := by
    rw [Post.outcome, accepted]
    rfl
  rw [outcome]
  have other : a.kind ≠ .fetchContent := by rcases kind with kind | kind <;> simp [kind]
  have slots := fun k => (slot_applyCarrier free other k).2
  have answer : m.answer (.applyCarrier a) =
      ((m.carrier.apply a).1, { m with carrier := (m.carrier.apply a).2 }) := rfl
  rw [m.carrier.apply_of_free free] at answer
  rcases kind with kind | kind
  · simp only [kind] at answer
    rw [answer] at slots ⊢
    exact ⟨by simp [Slot.grants, kind], tried_of_slots accepted slots rfl rfl rfl (by simp [kind]; rfl)⟩
  · have held : m.carrier.recordings.contains a.id = (m.slot a.id).recording.isSome :=
      Shelf.contains_eq_isSome _ _
    simp only [kind, held] at answer
    cases found : (m.slot a.id).recording.isSome with
    | true =>
      simp only [found, if_true] at answer
      rw [answer] at slots ⊢
      exact ⟨by simp [Slot.grants, kind, found],
        tried_of_slots accepted slots rfl rfl rfl (by simp [found]; rfl)⟩
    | false =>
      simp only [found, Bool.false_eq_true, if_false] at answer
      rw [answer] at slots ⊢
      exact ⟨by simp [Slot.grants, kind, found],
        tried_of_slots accepted slots rfl rfl rfl (by simp [kind, found])⟩

/-- A fetch that meets a fault. -/
theorem tried_of_stalled (kind : a.kind = .fetchContent)
    (armed : m.carrier.fetchFaults.contains a.id = true) :
    ∃ e m₁, m.answer (.fetchContent a.item) = (.error e, m₁) ∧
      (m.post a.id).outcome a = .error e ∧ m.Tried a m₁ := by
  have refused : (m.post a.id).refuses a = true := by
    simp only [Post.refuses, kind]
    exact armed
  have answer : m.carrier.fetchContent a.item =
      (.error (.remoteAction ActionKind.fetchContent.name a.id "fetch timed out"),
        { m.carrier with fetchFaults := m.carrier.fetchFaults.erase a.id }) := if_pos armed
  refine ⟨.remoteAction ActionKind.fetchContent.name a.id "fetch timed out",
    { m with carrier := { m.carrier with fetchFaults := m.carrier.fetchFaults.erase a.id } },
    by rw [Memory.answer, onCarrier, answer], ?_, ?_, rfl, ?_⟩
  · rw [Post.outcome, if_pos refused, if_pos kind, kind]
  · intro k
    show Post.mk (m.slot k) (m.post k).rejects (Shelf.contains (m.carrier.fetchFaults.erase a.id) k) = _
    rw [KeySet.contains_erase]
    by_cases own : k = a.id
    · subst own
      rw [if_pos rfl, if_pos rfl, Post.obey, if_pos refused]
      simp only [kind]
      rfl
    · rw [if_neg own, if_neg own]
      rfl
  · simp [Post.lines, refused]

section

variable (kind : a.kind = .fetchContent) (free : m.carrier.fetchFaults.contains a.id = false)

include kind free

theorem refuses_of_free : (m.post a.id).refuses a = false := by
  simp only [Post.refuses, kind]
  exact free

/-- A fetch that meets none, from a carrier that has nothing to hand out. -/
theorem tried_of_missing (missing : m.carrier.recordings.get? a.id = none) :
    m.answer (.fetchContent a.item) = (.error (.itemNotFound a.id), m) ∧
      (m.post a.id).outcome a = .error (.itemNotFound a.id) ∧ m.Tried a m := by
  have accepted := refuses_of_free kind free
  have lacks : (m.slot a.id).recording = none := missing
  have refused : (m.slot a.id).grants a = false := by simp [Slot.grants, kind, lacks]
  refine ⟨?_, ?_, tried_of_slots accepted ?_ rfl rfl rfl ?_⟩
  · rw [answer, onCarrier, Carrier.fetchContent_of_free _ free, show a.item.id = a.id from rfl, missing]
  · rw [Post.outcome, accepted, show (m.post a.id).slot = m.slot a.id from rfl, refused]
    rfl
  · intro k
    by_cases own : k = a.id
    · subst own
      rw [if_pos rfl, Slot.obey_of_refused refused]
    · rw [if_neg own]
  · simp [kind, lacks]

/-- Content that was handed out is kept, if the device has the item it belongs to. -/
theorem tried_of_handed {r : Recording} (found : m.carrier.recordings.get? a.id = some r)
    (target : a.target = .carrier) :
    ∃ m₁, m.answer (.fetchContent a.item) = (.ok r.payload, m₁) ∧
      (m₁.answer (.storeContent a.item r.payload)).1 = (m.post a.id).outcome a ∧
      m.Tried a (m₁.answer (.storeContent a.item r.payload)).2 := by
  have accepted := refuses_of_free kind free
  have handed : (m.slot a.id).recording = some r := found
  have outcome : (m.post a.id).outcome a =
      if (m.slot a.id).item.isSome then .ok () else .error (.itemNotFound a.id) := by
    rw [Post.outcome, accepted, show (m.post a.id).slot = m.slot a.id from rfl]
    simp [Slot.grants, kind, handed]
  have line : Action.render ⟨.fetchContent, .carrier, a.item⟩ = a.render := by
    rw [← kind, ← target]
  obtain ⟨m₁, logged⟩ : ∃ m₁ : Memory, m₁ = { m with carrier := m.carrier.log a.render } := ⟨_, rfl⟩
  have slot₁ : ∀ k, m₁.slot k = m.slot k := by
    intro k
    rw [logged]
    rfl
  have applied : m₁.carrier.applied = m.carrier.applied ++
      if a.kind = .delete ∨ (m.slot a.id).recording.isSome = true then [a.render] else [] := by
    rw [if_pos (Or.inr (by rw [handed]; rfl)), logged]
    rfl
  refine ⟨m₁, ?_, ?_⟩
  · rw [answer, onCarrier, Carrier.fetchContent_of_free _ free, show a.item.id = a.id from rfl, found, line,
      logged]
  rw [outcome]
  cases held : (m.slot a.id).item with
  | none =>
    rw [storeContent_missing _ (by rw [slot₁, show a.item.id = a.id from rfl, held]; rfl)]
    refine ⟨rfl, tried_of_slots accepted ?_ (by rw [logged]; rfl) (by rw [logged]; rfl) (by rw [logged]; rfl) applied⟩
    intro k
    by_cases own : k = a.id
    · subst own
      rw [if_pos rfl, slot₁, Slot.obey_of_refused (by simp [Slot.grants, kind, held])]
    · rw [if_neg own, slot₁]
  | some i =>
    have kept := slot_storeContent (m := m₁) (i := a.item) (p := r.payload)
      (by rw [slot₁, show a.item.id = a.id from rfl, held]; rfl)
    rw [show a.item.id = a.id from rfl] at kept
    refine ⟨(kept "").1, tried_of_slots accepted ?_ (by rw [logged]; rfl) (by rw [logged]; rfl) ?_ applied⟩
    · intro k
      rw [(kept k).2, slot₁]
      by_cases own : k = a.id
      · subst own
        rw [if_pos rfl, if_pos rfl]
        simp only [Slot.obey, kind, handed, held, Option.map_some]
      · rw [if_neg own, if_neg own]
    · rw [rest_storeContent, logged]
      rfl

end

/-- A fetch comes to nothing at the carrier, or it is for the device to end it. -/
theorem fetch_cases (kind : a.kind = .fetchContent) (target : a.target = .carrier) (m : Memory) :
    (∃ e m₁, m.answer (.fetchContent a.item) = (.error e, m₁) ∧
        (m.post a.id).outcome a = .error e ∧ m.Tried a m₁) ∨
      ∃ p m₁, m.answer (.fetchContent a.item) = (.ok p, m₁) ∧
        (m₁.answer (.storeContent a.item p)).1 = (m.post a.id).outcome a ∧
        m.Tried a (m₁.answer (.storeContent a.item p)).2 := by
  cases armed : m.carrier.fetchFaults.contains a.id with
  | true => exact Or.inl (tried_of_stalled kind armed)
  | false =>
    cases found : m.carrier.recordings.get? a.id with
    | none => exact Or.inl ⟨_, _, tried_of_missing kind armed found⟩
    | some r => exact Or.inr ⟨_, tried_of_handed kind armed found target⟩

theorem command_cases (kind : a.kind = .delete ∨ a.kind = .markAsRead) (m : Memory) :
    (m.answer (.applyCarrier a)).1 = (m.post a.id).outcome a ∧ m.Tried a (m.answer (.applyCarrier a)).2 := by
  cases armed : m.carrier.actionFaults.contains a.id with
  | true => exact tried_of_rejected kind armed
  | false => exact tried_of_free kind armed

end Memory

open Memory

variable {a b : Action} {m m' n n' : Memory}

namespace Action

theorem tried_of_executes {x : Except Failure Unit} (valid : a.isValidFor .carrier = true)
    (executes : Executes (reacts False) a m x m') : x = (m.post a.id).outcome a ∧ m.Tried a m' := by
  have target : a.target = .carrier := by simp_all [isValidFor]
  cases executes with
  | misplaced invalid =>
    rw [valid] at invalid
    cases invalid
  | command _ other reply =>
    have kind : a.kind = .delete ∨ a.kind = .markAsRead := by
      cases kind : a.kind <;> simp_all [isValidFor, ActionKind.isValidFor]
    rcases reply with answered | ⟨⟨⟩, _⟩
    have tried := command_cases kind m
    rwa [answered] at tried
  | withheld _ kind reply =>
    rcases reply with answered | ⟨⟨⟩, _⟩
    rcases fetch_cases kind target m with ⟨e, m₁, answer, outcome, tried⟩ | ⟨p, m₁, answer, -⟩
    · rw [answered] at answer
      cases answer
      exact ⟨outcome.symm, tried⟩
    · rw [answered] at answer
      cases answer
  | fetched _ kind reply kept =>
    rcases reply with answered | ⟨⟨⟩, _⟩
    rcases kept with stored | ⟨⟨⟩, _⟩
    rcases fetch_cases kind target m with ⟨e, m₁, answer, -⟩ | ⟨p, m₁, answer, outcome, tried⟩
    · rw [answered] at answer
      cases answer
    · rw [answered] at answer
      cases answer
      rw [stored] at outcome tried
      exact ⟨outcome, tried⟩

/-- What becomes of one command, and what it leaves behind, is settled at its own post. -/
theorem run_execute (valid : a.isValidFor .carrier = true) (m : Memory) :
    (a.execute.run Memory.answer m).1 = (m.post a.id).outcome a ∧ m.Tried a (a.execute.run Memory.answer m).2 :=
  tried_of_executes valid (executes_of_ends (m.ends_run a.execute))

/-- Neither of two actions notices the other. -/
def Independent (a b : Action) : Prop :=
  a.id ≠ b.id ∨ a.kind = .fetchContent ∧ b.kind = .markAsRead ∨ a.kind = .markAsRead ∧ b.kind = .fetchContent

theorem Independent.symm (independent : a.Independent b) : b.Independent a := by
  rcases independent with apart | ⟨fetch, mark⟩ | ⟨mark, fetch⟩
  · exact Or.inl (Ne.symm apart)
  · exact Or.inr (Or.inr ⟨mark, fetch⟩)
  · exact Or.inr (Or.inl ⟨fetch, mark⟩)

end Action

namespace Post

/-- At one post a fetch and a mark do not notice each other. -/
theorem undisturbed (s : Post)
    (kinds : a.kind = .fetchContent ∧ b.kind = .markAsRead ∨ a.kind = .markAsRead ∧ b.kind = .fetchContent) :
    (s.obey a).outcome b = s.outcome b ∧ (s.obey a).lines b = s.lines b ∧
      (s.obey a).obey b = (s.obey b).obey a := by
  obtain ⟨⟨item, content, recording, mirror⟩, rejects, stalls⟩ := s
  rcases kinds with ⟨kindA, kindB⟩ | ⟨kindA, kindB⟩ <;> cases item <;> cases recording <;> cases rejects <;>
    cases stalls <;>
    simp [outcome, lines, obey, refuses, Slot.grants, Slot.obey, kindA, kindB, Recording.markRead]

end Post

namespace Memory

/-- The same stores, but for the order in which the carrier logged what was done to it. -/
structure Relogged (m n : Memory) : Prop where
  device : n.device = m.device
  mirror : n.mirror = m.mirror
  carrier : ∃ log, log.Perm m.carrier.applied ∧ n.carrier = { m.carrier with applied := log }

theorem Relogged.refl (m : Memory) : m.Relogged m := ⟨rfl, rfl, _, .refl _, rfl⟩

theorem Relogged.trans (first : m.Relogged n) (second : n.Relogged n') : m.Relogged n' := by
  obtain ⟨device, mirror, log, perm, carrier⟩ := first
  obtain ⟨device', mirror', log', perm', carrier'⟩ := second
  refine ⟨device'.trans device, mirror'.trans mirror, log', ?_, ?_⟩
  · rw [carrier] at perm'
    exact perm'.trans perm
  · rw [carrier', carrier]

theorem relogged_iff : m.Relogged n ↔
    (∀ k, n.post k = m.post k) ∧ n.rest = m.rest ∧ n.carrier.applied.Perm m.carrier.applied := by
  constructor
  · rintro ⟨device, mirror, log, perm, carrier⟩
    refine ⟨?_, ?_, ?_⟩
    · intro k
      rw [post, slot, device, mirror, carrier]
      rfl
    · rw [rest, device, mirror, carrier]
      rfl
    · rw [carrier]
      exact perm
  · rintro ⟨posts, rest, perm⟩
    obtain ⟨items, contents, recordings, -⟩ := eq_of_slot fun k => congrArg Post.slot (posts k)
    have rejects : n.carrier.actionFaults = m.carrier.actionFaults :=
      KeySet.ext_contains fun k => congrArg Post.rejects (posts k)
    have stalls : n.carrier.fetchFaults = m.carrier.fetchFaults :=
      KeySet.ext_contains fun k => congrArg Post.stalls (posts k)
    obtain ⟨⟨items', contents', _, _⟩, ⟨recordings', applied', _, _, _⟩, _⟩ := n
    obtain ⟨⟨_, _, _, _⟩, ⟨_, _, _, _, _⟩, _⟩ := m
    simp only [Memory.rest, Prod.mk.injEq] at rest
    simp only at items contents recordings rejects stalls perm
    obtain ⟨rfl, rfl, rfl, rfl⟩ := rest
    subst items contents recordings rejects stalls
    exact ⟨rfl, rfl, applied', perm, rfl⟩

/-- A command does the same to stores that are the same but for the log. -/
theorem Tried.relogged (same : m.Relogged n) (tried : m.Tried a m') (tried' : n.Tried a n') :
    m'.Relogged n' := by
  obtain ⟨posts, rest, applied⟩ := relogged_iff.mp same
  refine relogged_iff.mpr ⟨?_, ?_, ?_⟩
  · intro k
    rw [tried'.post, tried.post, posts]
  · rw [tried'.rest, tried.rest, rest]
  · rw [tried'.applied, tried.applied, posts]
    exact applied.append_right _

/-- What two commands that do not notice each other make of the posts does not depend on which comes
first. -/
theorem Tried.undisturbed {u v : Memory} (independent : a.Independent b) (first : m.Tried a u)
    (second : u.Tried b m') (first' : m.Tried b v) (second' : v.Tried a n') :
    ((u.post b.id).outcome b = (m.post b.id).outcome b ∧ (u.post b.id).lines b = (m.post b.id).lines b) ∧
      ((v.post a.id).outcome a = (m.post a.id).outcome a ∧ (v.post a.id).lines a = (m.post a.id).lines a) ∧
      ∀ k, n'.post k = m'.post k := by
  by_cases own : a.id = b.id
  · have kinds := independent.resolve_left (not_not_intro own)
    have after := (m.post b.id).undisturbed kinds
    have after' := (m.post b.id).undisturbed (independent.symm.resolve_left (not_not_intro own.symm))
    refine ⟨?_, ?_, ?_⟩
    · rw [first.post, if_pos own.symm]
      exact ⟨after.1, after.2.1⟩
    · rw [first'.post, own, if_pos rfl]
      exact ⟨after'.1, after'.2.1⟩
    · intro k
      rw [second'.post, second.post, first'.post, first.post, own]
      split
      · next here =>
        subst here
        exact after'.2.2
      · rfl
  · refine ⟨?_, ?_, ?_⟩
    · rw [first.post, if_neg (Ne.symm own)]
      exact ⟨rfl, rfl⟩
    · rw [first'.post, if_neg own]
      exact ⟨rfl, rfl⟩
    · intro k
      rw [second'.post, second.post, first'.post, first.post]
      by_cases here : k = a.id
      · subst here
        simp only [if_pos, if_neg own]
      · simp only [if_neg here]

/-- Two commands that do not notice each other can change places. -/
theorem Tried.exchange {u v : Memory} (independent : a.Independent b) (first : m.Tried a u)
    (second : u.Tried b m') (first' : m.Tried b v) (second' : v.Tried a n') : m'.Relogged n' := by
  obtain ⟨⟨-, linesB⟩, ⟨-, linesA⟩, posts⟩ := first.undisturbed independent second first' second'
  refine relogged_iff.mpr ⟨posts, ?_, ?_⟩
  · rw [second'.rest, first'.rest, second.rest, first.rest]
  · rw [second'.applied, first'.applied, second.applied, first.applied, linesA, linesB, List.append_assoc,
      List.append_assoc]
    exact List.perm_append_comm.append_left _

end Memory

/-- The same is told of the same commands, be it in another order. -/
structure CarrierOutcome.Reorders (o o' : CarrierOutcome) : Prop where
  attempted : o.attempted = o'.attempted
  succeeded : o.succeeded = o'.succeeded
  completed : o.completed.Perm o'.completed
  failures : o.failures.Perm o'.failures

namespace CarrierOutcome.Reorders

variable {o o' o'' : CarrierOutcome}

theorem refl (o : CarrierOutcome) : o.Reorders o := ⟨rfl, rfl, .refl _, .refl _⟩

theorem trans (first : o.Reorders o') (second : o'.Reorders o'') : o.Reorders o'' where
  attempted := first.attempted.trans second.attempted
  succeeded := first.succeeded.trans second.succeeded
  completed := first.completed.trans second.completed
  failures := first.failures.trans second.failures

theorem append_left (o : CarrierOutcome) (reorders : o'.Reorders o'') : (o ++ o').Reorders (o ++ o'') where
  attempted := congrArg (o.attempted + ·) reorders.attempted
  succeeded := congrArg (o.succeeded + ·) reorders.succeeded
  completed := reorders.completed.append_left _
  failures := reorders.failures.append_left _

theorem exchange (o o' rest : CarrierOutcome) : (o ++ (o' ++ rest)).Reorders (o' ++ (o ++ rest)) where
  attempted := Nat.add_left_comm ..
  succeeded := Nat.add_left_comm ..
  completed := List.perm_append_comm_assoc ..
  failures := List.perm_append_comm_assoc ..

end CarrierOutcome.Reorders

namespace Action

theorem run_attemptAll_cons (as : List Action) (m : Memory) :
    (attemptAll (a :: as)).run Memory.answer m =
      (({} : CarrierOutcome).record a (a.execute.run Memory.answer m).1 ++
          ((attemptAll as).run Memory.answer (a.execute.run Memory.answer m).2).1,
        ((attemptAll as).run Memory.answer (a.execute.run Memory.answer m).2).2) := by
  rw [attemptAll_cons, Program.run_bind, Program.run_bind]
  rfl

/-- What was logged before makes no difference to a sequence of commands. -/
theorem run_attemptAll_of_relogged {as : List Action} (valid : ∀ a ∈ as, a.isValidFor .carrier = true)
    (same : m.Relogged n) :
    ((attemptAll as).run Memory.answer n).1 = ((attemptAll as).run Memory.answer m).1 ∧
      ((attemptAll as).run Memory.answer m).2.Relogged ((attemptAll as).run Memory.answer n).2 := by
  induction as generalizing m n with
  | nil => exact ⟨rfl, same⟩
  | cons a rest ih =>
    obtain ⟨outcome, tried⟩ := run_execute (valid a List.mem_cons_self) m
    obtain ⟨outcome', tried'⟩ := run_execute (valid a List.mem_cons_self) n
    obtain ⟨others, relogged⟩ := ih (fun b mem => valid b (List.mem_cons_of_mem _ mem))
      (tried.relogged same tried')
    rw [run_attemptAll_cons, run_attemptAll_cons, outcome, outcome', (relogged_iff.mp same).1, others]
    exact ⟨rfl, relogged⟩

/-- Commands that do not notice each other are carried out alike in any order. -/
theorem run_attemptAll_of_perm {as bs : List Action} (perm : as.Perm bs)
    (valid : ∀ a ∈ as, a.isValidFor .carrier = true) (independent : as.Pairwise Independent) (m : Memory) :
    ((attemptAll bs).run Memory.answer m).1.Reorders ((attemptAll as).run Memory.answer m).1 ∧
      ((attemptAll as).run Memory.answer m).2.Relogged ((attemptAll bs).run Memory.answer m).2 := by
  induction perm generalizing m with
  | nil => exact ⟨.refl _, .refl m⟩
  | @cons a as bs _ ih =>
    obtain ⟨reorders, relogged⟩ := ih (fun b mem => valid b (List.mem_cons_of_mem _ mem))
      (List.pairwise_cons.mp independent).2 (a.execute.run Memory.answer m).2
    rw [run_attemptAll_cons, run_attemptAll_cons]
    exact ⟨reorders.append_left _, relogged⟩
  | swap a b rest =>
    have validA : a.isValidFor .carrier = true := valid a (by simp)
    have validB : b.isValidFor .carrier = true := valid b (by simp)
    have apart : b.Independent a := (List.pairwise_cons.mp independent).1 a List.mem_cons_self
    obtain ⟨outcome₁, tried₁⟩ := run_execute validB m
    obtain ⟨outcome₂, tried₂⟩ := run_execute validA (b.execute.run Memory.answer m).2
    obtain ⟨outcome₁', tried₁'⟩ := run_execute validA m
    obtain ⟨outcome₂', tried₂'⟩ := run_execute validB (a.execute.run Memory.answer m).2
    obtain ⟨⟨outcomeA, -⟩, ⟨outcomeB, -⟩, -⟩ := tried₁.undisturbed apart tried₂ tried₁' tried₂'
    obtain ⟨others, relogged⟩ := run_attemptAll_of_relogged
      (fun c mem => valid c (List.mem_cons_of_mem _ (List.mem_cons_of_mem _ mem)))
      (tried₁.exchange apart tried₂ tried₁' tried₂')
    simp only [run_attemptAll_cons]
    rw [outcome₁, outcome₂, outcome₁', outcome₂', outcomeA, outcomeB, others]
    exact ⟨.exchange _ _ _, relogged⟩
  | trans first _ ih ih' =>
    obtain ⟨reorders, relogged⟩ := ih valid independent m
    obtain ⟨reorders', relogged'⟩ := ih' (fun a mem => valid a (first.mem_iff.mpr mem))
      (first.pairwise independent fun h => h.symm) m
    exact ⟨reorders'.trans reorders, relogged.trans relogged'⟩

end Action

namespace Policy

variable {p : Policy} {device carrier mirror : Snapshot}

/-- A message that the device does not have is one command's business. -/
theorem eq_of_mem_messageCommands {c m : Option Item} (memA : a ∈ messageCommands none c m)
    (memB : b ∈ messageCommands none c m) : b = a := by
  cases c with
  | none => cases m <;> simp_all [messageCommands]
  | some c => cases m <;> simp_all [messageCommands]

/-- What a plan deletes it leaves in peace otherwise. -/
theorem eq_of_delete (memA : a ∈ (p.plan (classify device carrier mirror)).carrier.toList)
    (memB : b ∈ (p.plan (classify device carrier mirror)).carrier.toList) (kind : a.kind = .delete)
    (own : b.id = a.id) : b = a := by
  rw [mem_carrier_plan_iff] at memA memB
  rw [own] at memB
  have paired : ∀ i ∈ device.get? a.id, ∀ j ∈ carrier.get? a.id, i.id = j.id := by
    intro i found j other
    rw [Snapshot.id_of_get? found, Snapshot.id_of_get? other]
  cases p with
  | greetingSync probe =>
    rw [carrier_planAt_greetingSync] at memA
    split at memA <;> simp_all
  | fullSync | noLocalDeletion =>
    rw [carrier_planAt_of_voicemail _ _ _ rfl paired] at memA memB
    cases held : device.get? a.id with
    | some d =>
      rw [held] at memA
      exact absurd kind (kind_ne_delete_of_mem_messageCommands memA)
    | none =>
      rw [held] at memA memB
      exact eq_of_mem_messageCommands memA memB

/-- The commands of a plan do not notice each other. -/
theorem independent_carrier_plan :
    (p.plan (classify device carrier mirror)).carrier.toList.Pairwise Action.Independent := by
  refine (ActionList.distinct _).imp_of_mem fun {a b} memA memB different => ?_
  by_cases own : a.id = b.id
  · have validA := isValidFor_carrier_of_mem _ _ _ memA
    have validB := isValidFor_carrier_of_mem _ _ _ memB
    have distinct : b ≠ a := by
      rintro rfl
      rw [Action.sameAs_refl] at different
      cases different
    have stays : a.kind ≠ .delete := fun kind => distinct (eq_of_delete memA memB kind own.symm)
    have stays' : b.kind ≠ .delete := fun kind => distinct (eq_of_delete memB memA kind own).symm
    right
    cases kind : a.kind <;> cases kind' : b.kind <;>
      simp_all [Action.isValidFor, ActionKind.isValidFor, Action.sameAs]
  · exact Or.inl own

end Policy

/-- The commands of a plan can be carried out in any order. The same of them go through, the others fail for
the same reasons, and the stores end up the same, faults included; only the carrier's log has its lines in
another order. A plan that deletes something has no other command about it. -/
theorem Policy.send_of_perm (p : Policy) (device carrier mirror : Snapshot) (m : Memory) (l : ActionList)
    (reordered : l.toList.Perm (p.plan (classify device carrier mirror)).carrier.toList) :
    let planned := (p.plan (classify device carrier mirror)).carrier
    let before := planned.send.run Memory.answer m
    let after := l.send.run Memory.answer m
    (after.2.device = before.2.device ∧ after.2.mirror = before.2.mirror ∧
        ∃ log, log.Perm before.2.carrier.applied ∧ after.2.carrier = { before.2.carrier with applied := log }) ∧
      after.1.attempted = before.1.attempted ∧
      after.1.succeeded = before.1.succeeded ∧
      after.1.completed.Perm before.1.completed ∧
      after.1.failures.Perm before.1.failures ∧
      ∀ a ∈ planned.toList, ∀ b ∈ planned.toList, a.kind = .delete → b.id = a.id → b = a := by
  intro planned before after
  obtain ⟨reorders, relogged⟩ := Action.run_attemptAll_of_perm reordered.symm
    (fun a mem => Policy.isValidFor_carrier_of_mem _ _ _ mem) Policy.independent_carrier_plan m
  exact ⟨⟨relogged.device, relogged.mirror, relogged.carrier⟩, reorders.attempted, reorders.succeeded,
    reorders.completed, reorders.failures, fun a memA b memB kind own => Policy.eq_of_delete memA memB kind own⟩

/-- The user has heard a message whose content the device never got, and has taken another one off it. The
carrier is about to reject a command about the first. -/
def pendingCommands : Memory where
  device := ({} : Device).seed [(Item.voicemail "a").markRead]
  carrier := { ({} : Carrier).seed [.voicemail "a", .voicemail "b"] with actionFaults := .ofList ["a"] }
  mirror := ({} : Mirror).seed [.voicemail "b"]

def pendingPlan : Plan :=
  Policy.fullSync.plan (classify pendingCommands.device.snapshot pendingCommands.carrier.snapshot
    pendingCommands.mirror.snapshot)

def reversedPlan : ActionList := .ofList pendingPlan.carrier.toList.reverse

theorem pendingCommands_reversed :
    pendingPlan.carrier.toList.map Action.render =
        ["delete(remote, b)", "fetch_content(remote, a)", "mark_as_read(remote, a)"] ∧
      reversedPlan.toList.Perm pendingPlan.carrier.toList ∧ reversedPlan ≠ pendingPlan.carrier ∧
      ((pendingPlan.carrier.send.run Memory.answer pendingCommands).1.failures.map fun x => x.1.render) =
        ["mark_as_read(remote, a)"] ∧
      (reversedPlan.send.run Memory.answer pendingCommands).1.failures.Perm
        (pendingPlan.carrier.send.run Memory.answer pendingCommands).1.failures := by
  have perm : reversedPlan.toList.Perm pendingPlan.carrier.toList := by decide +kernel
  obtain ⟨-, -, -, -, failures, -⟩ := Policy.send_of_perm .fullSync pendingCommands.device.snapshot
    pendingCommands.carrier.snapshot pendingCommands.mirror.snapshot pendingCommands reversedPlan perm
  exact ⟨by decide +kernel, perm, by decide +kernel, by decide +kernel, failures⟩

end MailboxSync
