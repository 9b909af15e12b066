import Mathlib.Data.List.Induction
import MailboxSync.Proofs.PolicyTable
import MailboxSync.Proofs.Rendering

/-! An action list holds of all the actions that were pushed the first of each. -/

namespace MailboxSync

namespace Action

/-- The actions of a sequence that do what none before them does, in their order. -/
def firsts (as : List Action) : List Action :=
  (as.zipIdx.filter fun p => (as.take p.2).all fun b => !b.sameAs p.1).map Prod.fst

/-- One more action is one of the first if none before it does the same. -/
theorem firsts_concat (as : List Action) (a : Action) :
    firsts (as ++ [a]) = firsts as ++ if as.all fun b => !b.sameAs a then [a] else [] := by
  have earlier : (as.zipIdx.filter fun p => ((as ++ [a]).take p.2).all fun b => !b.sameAs p.1) =
      as.zipIdx.filter fun p => (as.take p.2).all fun b => !b.sameAs p.1 := by
    refine List.filter_congr fun p mem => ?_
    have within : p.2 < as.length := by simpa using List.snd_lt_of_mem_zipIdx mem
    rw [List.take_append_of_le_length (Nat.le_of_lt within)]
  rw [firsts, List.zipIdx_append, List.filter_append, earlier, List.map_append, ← firsts]
  congr 1
  by_cases new : (as.all fun b => !b.sameAs a) = true <;> simp [new]

end Action

namespace ActionList

variable (as : List Action) (a : Action) (l : ActionList)

/-- A list takes in what does something that nothing pushed before does. -/
theorem accepts_ofList : (ofList as).accepts a = as.all fun b => !b.sameAs a := by
  rw [Bool.eq_iff_iff, List.all_eq_true]
  constructor
  · intro fresh b mem
    rw [Bool.not_eq_true', ← Bool.not_eq_true]
    intro same
    rw [ofList, accepts_foldl_push_of_mem mem same] at fresh
    cases fresh
  · intro fresh
    rw [accepts_iff]
    intro b mem
    rcases mem_foldl_push mem with nothing | pushed
    · cases nothing
    · simpa using fresh b pushed

theorem toList_ofList_eq_firsts : (ofList as).toList = Action.firsts as := by
  -- From the end: whether the last action comes in is decided by all that were pushed before it.
  induction as using List.reverseRecOn with
  | nil => rfl
  | append_singleton as a ih =>
    rw [ofList, List.foldl_concat, ← ofList, toList_push, accepts_ofList, Action.firsts_concat, ih]
    split <;> simp

theorem push_eq_self_iff : l.push a = l ↔ l.accepts a = false := by
  constructor
  · intro same
    rw [← same]
    exact l.accepts_push_self a
  · intro asked
    rw [push, dif_neg (by simp [asked])]

theorem toList_push_eq_concat_iff : (l.push a).toList = l.toList ++ [a] ↔ l.accepts a = true := by
  rw [toList_push]
  split <;> simp_all

/-- To push what was pushed already changes nothing. -/
theorem foldl_push_again : as.foldl push (as.foldl push l) = as.foldl push l := by
  have asked : ∀ a ∈ as, false = false → (as.foldl push l).accepts a = false :=
    fun a mem _ => accepts_foldl_push_of_mem mem a.sameAs_refl l
  have unpushed := foldl_push_filter asked
  rw [List.filter_false] at unpushed
  exact unpushed.symm

/-- The list of a sequence of pushes holds the first action of each kind, target and name, in the order of the pushes
and as it was pushed. A push adds its action or changes nothing, and it adds exactly what nothing pushed before does.
To push the sequence again changes nothing. And what tells actions apart is their text. -/
theorem holds_first_pushes :
    (ofList as).toList = Action.firsts as ∧
      (∀ a, (ofList as).accepts a = as.all fun b => !b.sameAs a) ∧
      (∀ (l : ActionList) a, ((l.push a).toList = l.toList ++ [a] ↔ l.accepts a = true) ∧
        (l.push a = l ↔ l.accepts a = false)) ∧
      as.foldl push (ofList as) = ofList as ∧ ∀ a b : Action, a.sameAs b = true ↔ a.render = b.render :=
  ⟨toList_ofList_eq_firsts as, accepts_ofList as, fun l a => ⟨l.toList_push_eq_concat_iff a, l.push_eq_self_iff a⟩,
    foldl_push_again as empty, fun _ _ => Action.render_inj.symm⟩

end ActionList

end MailboxSync
