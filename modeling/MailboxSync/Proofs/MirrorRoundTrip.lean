import MailboxSync.Proofs.TidyTables

/-! What a mirror in a table gives back of what was written to it. -/

namespace MailboxSync

/-- The item without what describes its content on a device. -/
def Item.mirrored (i : Item) : Item := { i with uri := none, contentLen := none }

/-- What a mirror for one family keeps of a listing. -/
def Snapshot.mirrored (l : Snapshot) (f : Family) : Snapshot where
  shelf := (l.retain f).shelf.map Item.mirrored fun _ => rfl
  keyed := by
    intro j mem
    obtain ⟨i, held, rfl⟩ := List.mem_map.mp mem
    exact (l.retain f).keyed i held

theorem Snapshot.toList_mirrored (l : Snapshot) (f : Family) :
    (l.mirrored f).toList = (l.toList.filter fun i => i.family = f).map Item.mirrored := rfl

namespace Table.Database

variable {db : Database} {s s' : Scope} {l : Snapshot}

/-- The rows of a mirror after it has been renewed. -/
theorem filter_replaceMirror (db : Database) (s : Scope) (l : Snapshot) :
    (db.replaceMirror s l).mirror.filter s.covers = (l.retain s.family).toList.map (Row.ofItem s) := by
  have gone : (db.mirror.filter fun r => !s.covers r).filter s.covers = [] := by
    rw [List.filter_filter, List.filter_eq_nil_iff]
    simp
  have own : ((l.retain s.family).toList.map (Row.ofItem s)).filter s.covers =
      (l.retain s.family).toList.map (Row.ofItem s) := by
    refine List.filter_eq_self.mpr fun r mem => ?_
    obtain ⟨i, -, rfl⟩ := List.mem_map.mp mem
    exact Row.covers_ofItem s i
  rw [replaceMirror, List.filter_append, gone, own, List.nil_append]

/-- A mirror that has been renewed lists what it keeps of the listing, whatever was there before. -/
theorem listMirror_replaceMirror (db : Database) (s : Scope) (l : Snapshot) :
    (db.replaceMirror s l).listMirror s = .ok (l.mirrored s.family) := by
  have reads : List.Forall₂ (fun r i => Row.readItem s.family r = .ok i)
      ((l.retain s.family).toList.map (Row.ofItem s)) (l.mirrored s.family).toList := by
    rw [Snapshot.toList_mirrored, List.forall₂_map_left_iff, List.forall₂_map_right_iff]
    refine List.forall₂_same.mpr fun i mem => ?_
    exact Row.readItem_ofItem (of_decide_eq_true (List.mem_filter.mp mem).2)
  obtain ⟨l', read, shows⟩ := readAll_ok Row.sourceId (.refl _) reads (l.mirrored s.family).shelf.keys_distinct
  have same : l' = l.mirrored s.family := by
    refine Snapshot.ext_get? fun k => Option.ext fun i => ?_
    rw [Snapshot.get?_eq_some_iff, Snapshot.get?_eq_some_iff, shows]
    exact and_congr_left fun _ => ⟨And.right, fun mem => ⟨(l.mirrored s.family).keyed i mem, mem⟩⟩
  rw [listMirror, filter_replaceMirror, read, same]

/-- To write back what a mirror keeps of a listing changes no row. -/
theorem replaceMirror_mirrored (db : Database) (s : Scope) (l : Snapshot) :
    (db.replaceMirror s l).replaceMirror s (l.mirrored s.family) = db.replaceMirror s l := by
  have rows : ((l.mirrored s.family).retain s.family).toList.map (Row.ofItem s) =
      (l.retain s.family).toList.map (Row.ofItem s) := by
    have own : ((l.mirrored s.family).retain s.family).toList = (l.mirrored s.family).toList := by
      refine List.filter_eq_self.mpr fun i mem => ?_
      obtain ⟨j, held, rfl⟩ := List.mem_map.mp mem
      exact (List.mem_filter.mp held).2
    rw [own, Snapshot.toList_mirrored, List.map_map]
    rfl
  have others : (db.replaceMirror s l).mirror.filter (fun r => !s.covers r) =
      db.mirror.filter fun r => !s.covers r := by
    have new : ((l.retain s.family).toList.map (Row.ofItem s)).filter (fun r => !s.covers r) = [] := by
      refine List.filter_eq_nil_iff.mpr fun r mem => ?_
      obtain ⟨i, -, rfl⟩ := List.mem_map.mp mem
      simp [Row.covers_ofItem s i]
    rw [replaceMirror, List.filter_append, new, List.append_nil, List.filter_filter]
    simp only [Bool.and_self]
  rw [replaceMirror, rows, others]
  rfl

end Table.Database

namespace Tables

/-- A mirror that is renewed lists the items of its family, whatever it held before, as they were but for what
describes their content on a device. To renew it with that listing changes nothing. And where only stores have written,
every mirror can be listed. -/
theorem mirror_gives_back (t : Tables) (l : Snapshot) :
    (t.database.Written → ∀ s, ∃ m, t.database.listMirror s = .ok m) ∧
      ∃ t' l', t.answer (.replaceMirror l) = (.ok (), t') ∧ t'.answer .listMirror = (.ok l', t') ∧
        l'.toList = (l.toList.filter fun i => i.family = t.scope.family).map Item.mirrored ∧
        t'.answer (.replaceMirror l') = (.ok (), t') := by
  refine ⟨fun written => written.tidy.listMirror, { t with database := t.database.replaceMirror t.scope l },
    l.mirrored t.scope.family, rfl, ?_, rfl, ?_⟩
  · exact Prod.ext (t.database.listMirror_replaceMirror t.scope l) rfl
  · show (_, { t with database := _ : Tables }) = _
    rw [Table.Database.replaceMirror_mirrored]

/-- The mirror for greetings held a greeting before, and the one for messages an item of the same name. -/
def refilled : Tables :=
  let played (id : String) : Item := { Item.voicemail id with kind := .greeting .busyGreeting true }
  let voicemails : Tables := ⟨⟨"main", .voicemail⟩, {}, {}⟩
  let greetings : Tables :=
    ⟨⟨"main", .greeting⟩, (voicemails.answer (.replaceMirror (.ofList [.voicemail "a"]))).2.database, {}⟩
  (greetings.answer (.replaceMirror (.ofList [played "a"]))).2

theorem refilled_gives_back :
    let read : Item := ⟨"b", .greeting .normal false, true, true, some "memory://greeting/b", some 7⟩
    refilled.database.Written ∧ (∃ m, refilled.database.listMirror ⟨"main", .voicemail⟩ = .ok m) ∧
      ∃ t' l', refilled.answer (.replaceMirror (.ofList [read, .voicemail "c"])) = (.ok (), t') ∧
        t'.answer .listMirror = (.ok l', t') ∧ l'.toList = [⟨"b", .greeting .normal false, true, true, none, none⟩] ∧
        t'.answer (.replaceMirror l') = (.ok (), t') := by
  intro read
  have written : refilled.database.Written :=
    (Relation.ReflTransGen.refl.tail ⟨_, Or.inr ⟨_, _, rfl⟩⟩).tail ⟨_, Or.inr ⟨_, _, rfl⟩⟩
  obtain ⟨lists, t', l', renewed, listed, items, again⟩ := refilled.mirror_gives_back (.ofList [read, .voicemail "c"])
  refine ⟨written, lists written _, t', l', renewed, listed, items.trans ?_, again⟩
  decide +kernel

end Tables

end MailboxSync
