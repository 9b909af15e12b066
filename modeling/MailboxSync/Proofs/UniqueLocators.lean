import MailboxSync.Proofs.Rendering
import MailboxSync.Proofs.Rows

/-! Where the device's table says that content can be found, and which items are told apart by it. -/

namespace MailboxSync.Table

namespace Database

/-- The row of this name is there and has this locator. -/
def Locates (db : Database) (s : Scope) (id locator : String) : Prop :=
  (∃ r ∈ db.device, s.names id r.toRow = true) ∧
    ∀ r ∈ db.device, s.names id r.toRow = true → r.uri = .text locator

variable {db db' after after' : Database} {s s' : Scope} {i i' : Item} {p p' : Payload}

/-- Content that is kept for an item has the locator of that item. -/
theorem locates_of_storeContent (stored : db.storeContent s i p = .ok after) :
    after.Locates s i.id (s.locator i.id) := by
  have named (r : DeviceRow) : s.names i.id (r.hold (s.locator i.id) p).toRow = s.names i.id r.toRow := rfl
  unfold storeContent at stored
  split at stored
  · next held =>
    cases stored
    constructor
    · obtain ⟨r, mem, own⟩ := List.any_eq_true.mp held
      refine ⟨_, List.mem_map_of_mem mem, ?_⟩
      rw [if_pos own, named, own]
    · intro r' mem own
      obtain ⟨r, -, rfl⟩ := List.mem_map.mp mem
      by_cases here : s.names i.id r.toRow = true
      · rw [if_pos here]
        rfl
      · rw [if_neg here] at own
        exact absurd own here
  · cases stored

/-- Content of two items, kept at any two times, is located at one place exactly if the path of one item goes on to that
of the other. So it is not for items of one mailbox, nor for mailboxes without the sign of paths in their names. -/
theorem one_locator_iff (stored : db.storeContent s i p = .ok after) (stored' : db'.storeContent s' i' p' = .ok after')
    (apart : ¬(s = s' ∧ i.id = i'.id)) : ∃ u u', after.Locates s i.id u ∧ after'.Locates s' i'.id u' ∧
      (u = u' ↔ s.RunsInto i.id s' i'.id ∨ s'.RunsInto i'.id s i.id) ∧
      (s.mailbox = s'.mailbox → u ≠ u') ∧
      ('/' ∉ s.mailbox.toList → '/' ∉ s'.mailbox.toList → u ≠ u') := by
  have meets : s.locator i.id = s'.locator i'.id ↔ s.RunsInto i.id s' i'.id ∨ s'.RunsInto i'.id s i.id := by
    rw [Scope.locator_eq_iff, or_iff_right apart]
  refine ⟨_, _, locates_of_storeContent stored, locates_of_storeContent stored', meets, ?_, ?_⟩
  · intro mailbox same
    rcases meets.mp same with runs | runs
    · exact runs.mailbox_ne mailbox
    · exact runs.mailbox_ne mailbox.symm
  · intro plain plain' same
    rcases meets.mp same with runs | runs
    · exact plain' runs.slash_mem
    · exact plain runs.slash_mem

/-- The one mailbox has the beginning of a path as its name, and the other an item whose name is the rest of a path. -/
def sharedPath : Database :=
  let main : Tables := { scope := ⟨"main", .voicemail⟩ }
  let first := (main.answer (.applyDevice [⟨.insert, .device, .voicemail "x/voicemail/c"⟩])).2.database
  let other : Tables := { scope := ⟨"main/voicemail/x", .voicemail⟩, database := first }
  (other.answer (.applyDevice [⟨.insert, .device, .voicemail "c"⟩])).2.database

theorem sharedPath_one_locator : ∃ s s' db db' u, Scope.named "main" .voicemail = .ok s ∧
    Scope.named "main/voicemail/x" .voicemail = .ok s' ∧
    sharedPath.storeContent s (.voicemail "x/voicemail/c") (.silence 3 "audio/amr") = .ok db ∧
    db.storeContent s' (.voicemail "c") (.silence 4 "audio/amr") = .ok db' ∧
    ¬(s = s' ∧ "x/voicemail/c" = "c") ∧ db.Locates s "x/voicemail/c" u ∧ db'.Locates s' "c" u := by
  have stored : ∃ db db', sharedPath.storeContent ⟨"main", .voicemail⟩ (.voicemail "x/voicemail/c")
        (.silence 3 "audio/amr") = .ok db ∧
      db.storeContent ⟨"main/voicemail/x", .voicemail⟩ (.voicemail "c") (.silence 4 "audio/amr") = .ok db' :=
    ⟨_, _, if_pos (by decide +kernel), if_pos (by decide +kernel)⟩
  obtain ⟨db, db', first, second⟩ := stored
  have runs : (Scope.mk "main" .voicemail).RunsInto "x/voicemail/c" ⟨"main/voicemail/x", .voicemail⟩ "c" :=
    ⟨"/x", by decide +kernel, by decide +kernel⟩
  obtain ⟨u, u', here, there, meets, -⟩ := one_locator_iff first second (by decide)
  obtain rfl := meets.mpr (Or.inl runs)
  exact ⟨_, _, db, db', u, rfl, rfl, first, second, by decide, here, there⟩

end Database

end MailboxSync.Table
