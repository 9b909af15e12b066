import MailboxSync.Proofs.Backends

namespace MailboxSync

open Program (Matches)

/-- What stores are good for: they answer the calls of cycles, and things happen to them. -/
structure Backing (σ : Type) where
  answer : (r : Request) → σ → r.Answer × σ
  happen : σ → Event → σ

def Memory.backing : Backing Memory := ⟨Memory.answer, Memory.happen⟩

def Tables.backing : Backing Tables := ⟨Tables.answer, Tables.happen⟩

/-- Stores in use, with the rest of the cycle under way if there is one, and what the requests for cycles
were answered so far. -/
structure Service (σ : Type) where
  stores : σ
  cycle : Option (Program (Except Failure Report)) := none
  replies : List SyncReply := []

namespace Service

variable {σ : Type}

/-- One step. What happens to the stores may come between any two calls of a cycle. A request that finds
a cycle under way is dropped. -/
def move (b : Backing σ) (p : Policy) (x : Service σ) : Move → Option (Service σ)
  | .event e => some { x with stores := b.happen x.stores e }
  | .start =>
    match x.cycle with
    | none => some { x with cycle := some p.cycle }
    | some _ => some { x with replies := x.replies ++ [.coalesced] }
  | .answer =>
    match x.cycle with
    | some (.call r next) =>
      let (y, stores) := b.answer r x.stores
      some { x with stores, cycle := some (next y) }
    | _ => none
  | .fail e =>
    match x.cycle with
    | some (.call _ next) => some { x with cycle := some (next (.error e)) }
    | _ => none
  | .finish =>
    match x.cycle with
    | some (.done y) => some { x with cycle := none, replies := x.replies ++ [.ended (.ofResult y)] }
    | _ => none

def moves (b : Backing σ) (p : Policy) (x : Service σ) (ms : List Move) : Option (Service σ) :=
  ms.foldlM (move b p) x

end Service

def SyncReply.retell (f : Failure → Failure) (g : Action → Action) : SyncReply → SyncReply
  | coalesced => .coalesced
  | ended o => .ended (o.retell f g)

/-- The reply without the texts of failures. -/
def SyncReply.untold (x : SyncReply) : SyncReply := x.retell Failure.untold id

/-- The reply without the texts of failures and without locators. -/
def SyncReply.gist (x : SyncReply) : SyncReply := x.retell Failure.untold Action.unlocated

/-- The step, without the text of the failure if it is one. -/
def Move.untold : Move → Move
  | fail e => .fail e.untold
  | m => m

theorem Move.untold_cases {a a' : Move} (same : a.untold = a'.untold) :
    (a' = a ∧ ∀ e, a ≠ .fail e) ∨ ∃ e e', a = .fail e ∧ a' = .fail e' ∧ e.untold = e'.untold := by
  cases a <;> cases a' <;> first
    | exact Or.inl ⟨same.symm, nofun⟩
    | exact Or.inr ⟨_, _, rfl, rfl, Move.fail.inj same⟩
    | cases same

theorem Parallel.error {f : Family} {r r' : Request} {L : r.Answer → r'.Answer → Prop} (calls : Parallel f r r' L)
    {e e' : Failure} (same : e.untold = e'.untold) : L (.error e) (.error e') := by
  cases calls <;> exact .error same

/-- With stores in memory and with stores in a database the same goes on. -/
structure Abreast (s : Table.Scope) (x : Service Memory) (y : Service Tables) : Prop where
  stores : Alike s x.stores y.stores
  cycle : Option.Rel (Matches (Parallel s.family) fun x x' => (Outcome.ofResult x).gist = (Outcome.ofResult x').gist)
    x.cycle y.cycle
  replies : x.replies.map SyncReply.gist = y.replies.map SyncReply.gist

namespace Abreast

variable {p : Policy} {s : Table.Scope} {x : Service Memory} {y : Service Tables}

theorem reply (abreast : Abreast s x y) {a b : SyncReply} (same : a.gist = b.gist) :
    (x.replies ++ [a]).map SyncReply.gist = (y.replies ++ [b]).map SyncReply.gist := by
  rw [List.map_append, List.map_append, abreast.replies, List.map_singleton, List.map_singleton, same]

/-- What one step leads to. -/
theorem move (ignores : p.IgnoresLocators) (family : s.family = p.family) (abreast : Abreast s x y) {a a' : Move}
    (same : a.untold = a'.untold) : Option.Rel (Abreast s) (x.move Memory.backing p a) (y.move Tables.backing p a') := by
  obtain ⟨stores, cycle, replies⟩ := x
  obtain ⟨stores', cycle', replies'⟩ := y
  have under := abreast.cycle
  rcases Move.untold_cases same with ⟨rfl, other⟩ | ⟨e, e', rfl, rfl, told⟩
  · cases a' with
    | event e => exact .some { abreast with stores := abreast.stores.happen e }
    | start =>
      cases under with
      | none => exact .some { abreast with cycle := .some (family ▸ p.cycle_parallel ignores) }
      | some => exact .some { abreast with replies := abreast.reply rfl }
    | answer =>
      cases under with
      | none => exact .none
      | some course =>
        cases course with
        | done => exact .none
        | call calls later =>
          obtain ⟨answers, after⟩ := abreast.stores.answer calls
          exact .some { abreast with stores := after, cycle := .some (later _ _ answers) }
    | fail e => exact absurd rfl (other e)
    | finish =>
      cases under with
      | none => exact .none
      | some course =>
        cases course with
        | call => exact .none
        | done ends => exact .some ⟨abreast.stores, .none, abreast.reply (congrArg SyncReply.ended ends)⟩
  · cases under with
    | none => exact .none
    | some course =>
      cases course with
      | done => exact .none
      | call calls later => exact .some { abreast with cycle := .some (later _ _ (calls.error told)) }

theorem moves (ignores : p.IgnoresLocators) (family : s.family = p.family) {ms ms' : List Move}
    (same : List.Forall₂ (fun a a' => a.untold = a'.untold) ms ms') (abreast : Abreast s x y) :
    Option.Rel (Abreast s) (x.moves Memory.backing p ms) (y.moves Tables.backing p ms') := by
  induction same generalizing x y with
  | nil => exact .some abreast
  | @cons a a' rest rest' first _ ih =>
    show Option.Rel _ (x.move Memory.backing p a >>= fun x => x.moves Memory.backing p rest)
      (y.move Tables.backing p a' >>= fun y => y.moves Tables.backing p rest')
    have step := abreast.move ignores family first
    generalize x.move Memory.backing p a = z at step ⊢
    generalize y.move Tables.backing p a' = z' at step ⊢
    cases step with
    | none => exact .none
    | some next => exact ih next

end Abreast

namespace Service

/-- Whether the device and the mirror are kept in memory or in a database makes no difference but for
locators and for the texts of failures. -/
theorem backends_agree (kind : PolicyKind) (probe : ContentProbe) (mailbox : String) {ms ms' : List Move}
    (same : ms.map Move.untold = ms'.map Move.untold) :
    let p := Policy.ofKind kind probe
    Option.Rel (fun x y => Agree x.stores y.stores ∧ x.replies.map SyncReply.gist = y.replies.map SyncReply.gist)
      (moves Memory.backing p { stores := {} } ms)
      (moves Tables.backing p { stores := { scope := ⟨mailbox, p.family⟩ } } ms') := by
  intro p
  have start : Abreast ⟨mailbox, p.family⟩ { stores := {} } { stores := { scope := ⟨mailbox, p.family⟩ } } :=
    ⟨.empty _, .none, rfl⟩
  have run := start.moves (Policy.ignoresLocators_ofKind kind probe) rfl (map_eq_map_iff.mp same)
  generalize moves Memory.backing p { stores := {} } ms = x at run ⊢
  generalize moves Tables.backing p { stores := { scope := ⟨mailbox, p.family⟩ } } ms' = y at run ⊢
  cases run with
  | none => exact .none
  | some abreast => exact .some ⟨abreast.stores.agree, abreast.replies⟩

/-- A message arrives and its audio is fetched. Then it is listened to on the device, and elsewhere too. -/
def heardTwice : List Move :=
  [.event (.carrier (.arrive (.voicemail "a") ⟨#[0], "audio/amr"⟩)),
    .start, .answer, .answer, .answer, .answer, .answer, .finish,
    .start, .answer, .answer, .answer, .answer, .answer, .answer, .finish,
    .event (.device (.read "a")), .event (.carrier (.read "a")),
    .start, .answer, .answer, .answer, .answer, .answer, .finish]

/-- The report of the command sent last names the item with its locator, and that is not the same in memory
and in a database. -/
theorem heardTwice_reports : ∃ x y, moves Memory.backing .fullSync { stores := {} } heardTwice = some x ∧
    moves Tables.backing .fullSync { stores := { scope := ⟨"main", .voicemail⟩ } } heardTwice = some y ∧
    x.replies.map SyncReply.untold ≠ y.replies.map SyncReply.untold := by
  have differ : (moves Memory.backing .fullSync { stores := {} } heardTwice).map (·.replies.map SyncReply.untold) ≠
      (moves Tables.backing .fullSync { stores := { scope := ⟨"main", .voicemail⟩ } } heardTwice).map
        (·.replies.map SyncReply.untold) := by
    decide +kernel
  have possible : (moves Memory.backing .fullSync { stores := {} } heardTwice).isSome = true := by decide +kernel
  have possible' : (moves Tables.backing .fullSync { stores := { scope := ⟨"main", .voicemail⟩ } } heardTwice).isSome =
      true := by
    decide +kernel
  obtain ⟨x, run⟩ := Option.isSome_iff_exists.mp possible
  obtain ⟨y, run'⟩ := Option.isSome_iff_exists.mp possible'
  rw [run, run'] at differ
  exact ⟨x, y, run, run', fun same => differ (congrArg some same)⟩

/-- A cycle that cannot even list the device, told in these words. -/
def unlisted (text : String) : List Move := [.start, .fail (.database text), .finish]

theorem heardTwice_agrees :
    (heardTwice ++ unlisted "out of memory").map Move.untold =
      (heardTwice ++ unlisted "database is locked").map Move.untold ∧
    ∃ x y, moves Memory.backing .fullSync { stores := {} } (heardTwice ++ unlisted "out of memory") = some x ∧
      moves Tables.backing .fullSync { stores := { scope := ⟨"main", .voicemail⟩ } }
        (heardTwice ++ unlisted "database is locked") = some y ∧
      Agree x.stores y.stores ∧ x.replies.map SyncReply.gist = y.replies.map SyncReply.gist ∧
      x.replies.length = 4 := by
  have same : (heardTwice ++ unlisted "out of memory").map Move.untold =
      (heardTwice ++ unlisted "database is locked").map Move.untold := rfl
  have count : (moves Memory.backing .fullSync { stores := {} } (heardTwice ++ unlisted "out of memory")).map
      (·.replies.length) = some 4 := by
    decide +kernel
  have agree : Option.Rel _ (moves Memory.backing .fullSync { stores := {} } _)
      (moves Tables.backing .fullSync { stores := { scope := ⟨"main", .voicemail⟩ } } _) :=
    backends_agree .fullSync {} "main" same
  obtain ⟨x, run, four⟩ := Option.map_eq_some_iff.mp count
  rw [run] at agree
  generalize moves Tables.backing .fullSync { stores := { scope := ⟨"main", .voicemail⟩ } }
    (heardTwice ++ unlisted "database is locked") = z at agree ⊢
  cases agree with
  | @some _ y holds => exact ⟨same, x, y, run, rfl, holds.1, holds.2, four⟩

end Service

end MailboxSync
