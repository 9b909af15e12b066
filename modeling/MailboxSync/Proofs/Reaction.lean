import Mathlib.Logic.Relation
import MailboxSync.Program

namespace MailboxSync

/-- What may become of a call: the answers that are possible in a state, each with the state it
leaves behind. A handler gives one answer; where calls may fail there are several. -/
abbrev Reaction (σ : Type) := (r : Request) → σ → r.Answer → σ → Prop

/-- Two reactions to the same answers, each with a state of its own. -/
def Reaction.along {σ τ : Type} (R : Reaction σ) (S : Reaction τ) : Reaction (σ × τ) :=
  fun r s x s' => R r s.1 x s'.1 ∧ S r s.2 x s'.2

namespace Program

variable {α β σ : Type} {R : Reaction σ}

/-- The ways a program can come to its end. -/
inductive Ends (R : Reaction σ) : Program α → σ → α → σ → Prop
  | done {a s} : Ends R (done a) s a s
  | call {r next s x s' a t} : R r s x s' → Ends R (next x) s' a t → Ends R (call r next) s a t

theorem ends_done_iff {a b : α} {s t : σ} : Ends R (done a) s b t ↔ b = a ∧ t = s := by
  constructor
  · intro run
    cases run
    exact ⟨rfl, rfl⟩
  · rintro ⟨rfl, rfl⟩
    exact .done

theorem ends_pure_iff {a b : α} {s t : σ} : Ends R (pure a : Program α) s b t ↔ b = a ∧ t = s :=
  ends_done_iff

theorem ends_call_iff {r : Request} {next : r.Answer → Program α} {s t : σ} {a : α} :
    Ends R (call r next) s a t ↔ ∃ x s', R r s x s' ∧ Ends R (next x) s' a t := by
  constructor
  · intro run
    cases run with
    | call answer rest => exact ⟨_, _, answer, rest⟩
  · rintro ⟨x, s', answer, rest⟩
    exact .call answer rest

theorem ends_ask_iff {r : Request} {s t : σ} {x : r.Answer} : Ends R (ask r) s x t ↔ R r s x t := by
  constructor
  · intro run
    obtain ⟨y, s', answer, rest⟩ := ends_call_iff.mp run
    obtain ⟨rfl, rfl⟩ := ends_done_iff.mp rest
    exact answer
  · intro answer
    exact .call answer .done

/-- One program after another ends where the second ends when started from an end of the first. -/
theorem ends_bind_iff {p : Program α} {k : α → Program β} {s t : σ} {b : β} :
    Ends R (p >>= k) s b t ↔ ∃ a s', Ends R p s a s' ∧ Ends R (k a) s' b t := by
  constructor
  · intro run
    induction p generalizing s with
    | done a => exact ⟨a, s, .done, run⟩
    | call r next ih =>
      obtain ⟨x, s₁, answer, rest⟩ := ends_call_iff.mp run
      obtain ⟨a, s₂, first, second⟩ := ih x rest
      exact ⟨a, s₂, .call answer first, second⟩
  · rintro ⟨a, s', first, second⟩
    induction first with
    | done => exact second
    | call answer _ ih => exact .call answer (ih second)

/-- To run a program with a handler is one way for it to end where the handler's answers are
possible. -/
theorem ends_run {handle : (r : Request) → σ → r.Answer × σ}
    (possible : ∀ r s, R r s (handle r s).1 (handle r s).2) (p : Program α) (s : σ) :
    Ends R p s (p.run handle s).1 (p.run handle s).2 := by
  induction p generalizing s with
  | done a => exact .done
  | call r next ih => exact .call (possible r s) (ih _ _)

section

variable {τ : Type} {S : Reaction τ} {p : Program α} {s t : σ × τ} {a : α}

/-- What two reactions allow each of them allows. -/
theorem Ends.fst (ends : Ends (R.along S) p s a t) : Ends R p s.1 a t.1 := by
  induction ends with
  | done => exact .done
  | call answer _ ih => exact .call answer.1 ih

theorem Ends.snd (ends : Ends (R.along S) p s a t) : Ends S p s.2 a t.2 := by
  induction ends with
  | done => exact .done
  | call answer _ ih => exact .call answer.2 ih

end

/-- Some course of the program passes through a state where `P` holds. -/
def Meets (R : Reaction σ) (P : σ → Prop) : Program α → σ → Prop
  | done _, s => P s
  | call r next, s => P s ∨ ∃ x s', R r s x s' ∧ Meets R P (next x) s'

theorem Meets.ask {P : σ → Prop} {r : Request} {s s' : σ} {x : r.Answer} (answer : R r s x s')
    (holds : P s') : Meets R P (ask r) s := Or.inr ⟨x, s', answer, holds⟩

theorem Meets.bind {P : σ → Prop} {p : Program α} {s : σ} (meets : Meets R P p s)
    (k : α → Program β) : Meets R P (p >>= k) s := by
  induction p generalizing s with
  | done a =>
    show Meets R P (k a) s
    cases k a with
    | done => exact meets
    | call => exact Or.inl meets
  | call r next ih =>
    rcases meets with now | ⟨x, s', answer, later⟩
    · exact Or.inl now
    · exact Or.inr ⟨x, s', answer, ih x later⟩

theorem Meets.after {P : σ → Prop} {p : Program α} {k : α → Program β} {s s' : σ} {a : α}
    (ends : Ends R p s a s') (meets : Meets R P (k a) s') : Meets R P (p >>= k) s := by
  induction ends with
  | done => exact meets
  | call answer _ ih => exact Or.inr ⟨_, _, answer, ih meets⟩

/-- `I` holds between any two calls, whatever the answers are, and `Q` at the end. -/
def Keeps (R : Reaction σ) (I : σ → Prop) (Q : α → σ → Prop) : Program α → σ → Prop
  | done a, s => I s ∧ Q a s
  | call r next, s => I s ∧ ∀ x s', R r s x s' → Keeps R I Q (next x) s'

variable {I : σ → Prop} {Q : α → σ → Prop}

theorem Keeps.now {p : Program α} {s : σ} (keeps : Keeps R I Q p s) : I s := by
  cases p with
  | done => exact keeps.1
  | call => exact keeps.1

theorem Keeps.mono {Q' : α → σ → Prop} {p : Program α} {s : σ} (keeps : Keeps R I Q p s)
    (weaker : ∀ a t, Q a t → Q' a t) : Keeps R I Q' p s := by
  induction p generalizing s with
  | done a => exact ⟨keeps.1, weaker a s keeps.2⟩
  | call r next ih => exact ⟨keeps.1, fun x s' answer => ih x (keeps.2 x s' answer)⟩

theorem Keeps.bind {p : Program α} {k : α → Program β} {Q' : β → σ → Prop} {s : σ}
    (first : Keeps R I Q p s) (second : ∀ a t, Q a t → Keeps R I Q' (k a) t) :
    Keeps R I Q' (p >>= k) s := by
  induction p generalizing s with
  | done a => exact second a s first.2
  | call r next ih => exact ⟨first.1, fun x s' answer => ih x (first.2 x s' answer)⟩

end Program

/-! Between two calls other things may happen. `D s s'` says that they may lead from `s` to `s'`. -/

/-- The answers to a call that is made after such things have happened. -/
def Reaction.after {σ : Type} (D : σ → σ → Prop) (R : Reaction σ) : Reaction σ :=
  fun r s x s' => ∃ s₁, Relation.ReflTransGen D s s₁ ∧ R r s₁ x s'

namespace Program

variable {α σ : Type} {R : Reaction σ} {D : σ → σ → Prop} {I : σ → Prop} {Q : α → σ → Prop}

/-- What holds of a program under way still holds after something else has happened, if the
assertions themselves cannot be upset by it. -/
theorem Keeps.drift {p : Program α} {s s' : σ} (keeps : Keeps (R.after D) I Q p s)
    (stable : ∀ s s', D s s' → I s → I s') (stableEnd : ∀ a s s', D s s' → Q a s → Q a s')
    (step : D s s') : Keeps (R.after D) I Q p s' := by
  cases p with
  | done a => exact ⟨stable _ _ step keeps.1, stableEnd a _ _ step keeps.2⟩
  | call r next =>
    refine ⟨stable _ _ step keeps.1, ?_⟩
    rintro x t ⟨s₁, drift, answer⟩
    exact keeps.2 x t ⟨s₁, .head step drift, answer⟩

/-- To make a call it is enough to have an assertion that other happenings cannot upset. -/
theorem Keeps.call {r : Request} {next : r.Answer → Program α} {s : σ} (A : σ → Prop)
    (stable : ∀ s s', D s s' → A s → A s') (holds : A s) (within : ∀ s, A s → I s)
    (after : ∀ s x s', A s → R r s x s' → Keeps (R.after D) I Q (next x) s') :
    Keeps (R.after D) I Q (call r next) s := by
  refine ⟨within s holds, ?_⟩
  rintro x s' ⟨s₁, drift, answer⟩
  have still : A s₁ := by
    clear answer
    induction drift with
    | refl => exact holds
    | tail _ step ih => exact stable _ _ step ih
  exact after s₁ x s' still answer

end Program

end MailboxSync
