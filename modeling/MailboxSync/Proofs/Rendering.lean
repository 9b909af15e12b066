import Mathlib.Data.List.Basic
import MailboxSync.Proofs.Records

/-! Texts that are put together from parts with a sign between them, and what the whole tells of the parts. The text of
an action tells what it does to which item. A locator does not always tell which item it was made for. -/

namespace MailboxSync

variable {α : Type} {sep : α} {x x' y y' : List α}

/-- A sign that one beginning does not have ends it: whatever is the same whole begins with it. -/
theorem append_separator_eq_iff (free : sep ∉ x) : x ++ sep :: y = x' ++ sep :: y' ↔
    ∃ t, x' = x ++ t ∧ sep :: y = t ++ sep :: y' := by
  rw [List.append_eq_append_iff]
  constructor
  · rintro (longer | ⟨t, rfl, rest⟩)
    · exact longer
    · cases t with
      | nil => exact ⟨[], by simp, by simpa using rest.symm⟩
      | cons c t =>
        obtain rfl : sep = c := (List.cons.inj rest).1
        exact absurd (List.mem_append_right _ List.mem_cons_self) free
  · exact Or.inl

theorem append_separator_inj (free : sep ∉ x) (free' : sep ∉ x') :
    x ++ sep :: y = x' ++ sep :: y' ↔ x = x' ∧ y = y' := by
  rw [append_separator_eq_iff free]
  constructor
  · rintro ⟨t, rfl, rest⟩
    cases t with
    | nil => exact ⟨by simp, by simpa using rest⟩
    | cons c t =>
      obtain rfl : sep = c := (List.cons.inj rest).1
      exact absurd (List.mem_append_right _ List.mem_cons_self) free'
  · rintro ⟨rfl, rfl⟩
    exact ⟨[], by simp, rfl⟩

/-! The text of an action -/

theorem ActionKind.name_inj {k k' : ActionKind} : k.name = k'.name ↔ k = k' := by
  cases k <;> cases k' <;> decide

theorem Target.name_inj {t t' : Target} : t.name = t'.name ↔ t = t' := by
  cases t <;> cases t' <;> decide

namespace Action

theorem toList_render (a : Action) :
    a.render.toList = a.kind.name.toList ++ '(' :: (a.target.name.toList ++ ',' :: ' ' :: (a.id.toList ++ [')'])) := by
  simp [render]

/-- Two actions read the same exactly if they do the same thing to the same item, whatever signs its name has. -/
theorem render_inj {a b : Action} : a.render = b.render ↔ a.sameAs b = true := by
  have noParenthesis (k : ActionKind) : '(' ∉ k.name.toList := by cases k <;> decide
  have noComma (t : Target) : ',' ∉ t.name.toList := by cases t <;> decide
  rw [← String.toList_inj, toList_render, toList_render, append_separator_inj (noParenthesis _) (noParenthesis _),
    append_separator_inj (noComma _) (noComma _), String.toList_inj, String.toList_inj, ActionKind.name_inj,
    Target.name_inj]
  simp [sameAs, and_assoc, String.toList_inj]

end Action

/-! Locators -/

theorem Family.slash_notMem_name (f : Family) : '/' ∉ f.name.toList := by
  cases f <;> decide

namespace Table.Scope

/-- The path of one item goes on to that of another: the other's mailbox has the name of the one's, with its family
and a part of the item's name after it, and the rest of that name is the rest of the path. -/
def RunsInto (s : Scope) (id : String) (s' : Scope) (id' : String) : Prop :=
  ∃ t : String, s'.mailbox = s.mailbox ++ "/" ++ s.family.name ++ t ∧
    "/" ++ id = t ++ "/" ++ s'.family.name ++ "/" ++ id'

variable {s s' : Scope} {id id' : String}

theorem runsInto_iff : s.RunsInto id s' id' ↔ ∃ t : List Char,
    s'.mailbox.toList = s.mailbox.toList ++ '/' :: (s.family.name.toList ++ t) ∧
      '/' :: id.toList = t ++ '/' :: (s'.family.name.toList ++ '/' :: id'.toList) := by
  constructor
  · rintro ⟨t, mailbox, rest⟩
    exact ⟨t.toList, by simp [mailbox], by simpa using congrArg String.toList rest⟩
  · rintro ⟨t, mailbox, rest⟩
    exact ⟨String.ofList t, String.toList_inj.mp (by simp [mailbox]), String.toList_inj.mp (by simp [rest])⟩

/-- What remains of a path after a part of it, if it ends as another path does. -/
theorem path_eq_iff {f f' : Family} {t i i' : List Char} :
    '/' :: (f.name.toList ++ '/' :: i) = t ++ '/' :: (f'.name.toList ++ '/' :: i') ↔ t = [] ∧ f = f' ∧ i = i' ∨
      ∃ u, t = '/' :: (f.name.toList ++ u) ∧ '/' :: i = u ++ '/' :: (f'.name.toList ++ '/' :: i') := by
  cases t with
  | nil =>
    simp [append_separator_inj f.slash_notMem_name f'.slash_notMem_name, String.toList_inj, Family.name_inj]
  | cons c t =>
    simp only [List.cons_append, List.cons.injEq, append_separator_eq_iff f.slash_notMem_name]
    grind

/-- Where the path of one item begins with the mailbox of another, the two are one item or the one path goes on to the
other. -/
theorem exists_mailbox_append_iff : (∃ t, s'.mailbox.toList = s.mailbox.toList ++ t ∧
      '/' :: (s.family.name.toList ++ '/' :: id.toList) = t ++ '/' :: (s'.family.name.toList ++ '/' :: id'.toList)) ↔
    s = s' ∧ id = id' ∨ s.RunsInto id s' id' := by
  rw [runsInto_iff]
  simp only [path_eq_iff]
  constructor
  · rintro ⟨t, mailbox, ⟨rfl, family, same⟩ | ⟨u, rfl, rest⟩⟩
    · rw [List.append_nil, String.toList_inj] at mailbox
      obtain ⟨m, f⟩ := s
      cases mailbox
      cases family
      exact Or.inl ⟨rfl, String.toList_inj.mp same⟩
    · exact Or.inr ⟨u, mailbox, rest⟩
  · rintro (⟨rfl, rfl⟩ | ⟨u, mailbox, rest⟩)
    · exact ⟨[], by simp, Or.inl ⟨rfl, rfl, rfl⟩⟩
    · exact ⟨_, mailbox, Or.inr ⟨u, rfl, rest⟩⟩

theorem toList_locator (s : Scope) (id : String) : (s.locator id).toList =
    "vvm://".toList ++ (s.mailbox.toList ++ '/' :: (s.family.name.toList ++ '/' :: id.toList)) := by
  simp [locator]

/-- Two items have one locator exactly if they are the same item or the path of one goes on to that of the other. -/
theorem locator_eq_iff : s.locator id = s'.locator id' ↔
    s = s' ∧ id = id' ∨ s.RunsInto id s' id' ∨ s'.RunsInto id' s id := by
  -- Of two equal paths one mailbox begins the other, and it can be either of them.
  rw [← String.toList_inj, toList_locator, toList_locator, List.append_cancel_left_eq, List.append_eq_append_iff,
    exists_mailbox_append_iff, exists_mailbox_append_iff]
  constructor
  · rintro ((same | runs) | (⟨rfl, rfl⟩ | runs))
    · exact Or.inl same
    · exact Or.inr (Or.inl runs)
    · exact Or.inl ⟨rfl, rfl⟩
    · exact Or.inr (Or.inr runs)
  · rintro (same | runs | runs)
    · exact Or.inl (Or.inl same)
    · exact Or.inl (Or.inr runs)
    · exact Or.inr (Or.inr runs)

/-- A path goes on only to a mailbox that has a sign of paths in its name. -/
theorem RunsInto.slash_mem (runs : s.RunsInto id s' id') : '/' ∈ s'.mailbox.toList := by
  obtain ⟨t, mailbox, -⟩ := runs
  simp [mailbox]

theorem RunsInto.mailbox_ne (runs : s.RunsInto id s' id') : s.mailbox ≠ s'.mailbox := by
  obtain ⟨t, mailbox, -⟩ := runsInto_iff.mp runs
  intro same
  have longer := congrArg List.length mailbox
  rw [same] at longer
  simp at longer

end Table.Scope

end MailboxSync
