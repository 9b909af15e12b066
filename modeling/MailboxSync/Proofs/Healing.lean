import MailboxSync.Proofs.Convergence

namespace MailboxSync

open Memory

namespace Policy

variable {p : Policy} {m m' : Memory}

/-- A cycle of which any calls may fail. A call that fails changes nothing. -/
def Stumbles (p : Policy) (m m' : Memory) : Prop :=
  ∃ x, Program.Ends (reacts True) p.cycle m x m'

theorem Stumbles.quiet (stumbles : p.Stumbles m m') (unarmed : m.Unarmed) (apart : m.FamiliesApart) :
    m'.Unarmed ∧ m'.FamiliesApart := by
  obtain ⟨x, ends⟩ := stumbles
  obtain ⟨_, _, _, _, turns⟩ := turns_of_ends unarmed ends
  exact ⟨Action.unarmed_of_ends unarmed ends, apart.of_descends fun k => descends_of_turns (turns k)⟩

theorem goal_of_stumbles (blind : p.Blind) (unarmed : m.Unarmed) (apart : m.FamiliesApart)
    (stumbles : Relation.ReflTransGen p.Stumbles m m') :
    m'.Unarmed ∧ m'.FamiliesApart ∧ ∀ k, p.goal m' k = p.goal m k := by
  induction stumbles with
  | refl => exact ⟨unarmed, apart, fun _ => rfl⟩
  | tail _ cycle ih =>
    obtain ⟨unarmedB, apartB, same⟩ := ih
    obtain ⟨unarmedC, apartC⟩ := cycle.quiet unarmedB apartB
    obtain ⟨x, ends⟩ := cycle
    refine ⟨unarmedC, apartC, ?_⟩
    intro k
    rw [goal_of_ends blind unarmedB apartB ends, same]

/-- Whatever cycles went wrong before, and however, two that nothing disturbs leave the stores as they
would have left them without. -/
theorem quiet_cycles_heal (kind : PolicyKind) (probe : ContentProbe) (unarmed : m.Unarmed) (apart : m.FamiliesApart)
    (stumbles : Relation.ReflTransGen (ofKind kind probe).Stumbles m m') :
    let p := ofKind kind probe
    (p.after 2 m').device.items = (p.after 2 m).device.items ∧
      (p.after 2 m').device.contents = (p.after 2 m).device.contents ∧
      (p.after 2 m').carrier.recordings = (p.after 2 m).carrier.recordings ∧
      (p.after 2 m').mirror.snapshot = (p.after 2 m).mirror.snapshot := by
  intro p
  have blind : p.Blind := blind_ofKind kind probe
  obtain ⟨unarmed', apart', same⟩ := goal_of_stumbles blind unarmed apart stumbles
  have enough : p.patience ≤ 2 := by
    cases p <;> simp [patience]
  refine Memory.eq_of_slot ?_
  intro k
  rw [slot_after_goal blind unarmed' apart' enough, slot_after_goal blind unarmed apart enough, same]

/-- The stores where no calls of this kind succeed. -/
def crippled (broken : Method) (r : Request) (m : Memory) : r.Answer × Memory :=
  if r.method = broken then (.error (.database "out of order"), m) else m.answer r

theorem stumbles_crippled (p : Policy) (broken : Method) (m : Memory) :
    p.Stumbles m (p.cycle.run (crippled broken) m).2 := by
  refine ⟨_, Program.ends_run ?_ p.cycle m⟩
  intro r m
  unfold crippled
  split
  · exact Or.inr ⟨trivial, _, rfl, rfl⟩
  · exact Or.inl rfl

theorem strayItems_heal : (strayItems.Unarmed ∧ strayItems.FamiliesApart ∧
      Relation.ReflTransGen fullSync.Stumbles strayItems
        (fullSync.cycle.run (crippled .replaceMirror) strayItems).2) ∧
    (fullSync.after 2 (fullSync.cycle.run (crippled .replaceMirror) strayItems).2).device.items =
      (fullSync.after 2 strayItems).device.items := by
  have unarmed : strayItems.Unarmed := ⟨rfl, rfl, rfl, rfl, rfl, rfl⟩
  have apart : strayItems.FamiliesApart := by decide +kernel
  have stumbles := Relation.ReflTransGen.single (stumbles_crippled fullSync .replaceMirror strayItems)
  exact ⟨⟨unarmed, apart, stumbles⟩, (quiet_cycles_heal .fullSync {} unarmed apart stumbles).1⟩

end Policy

end MailboxSync
