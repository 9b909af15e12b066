import MailboxSync.Proofs.TidyTables

/-! Stores of several mailboxes and families share one database. What is done through one of them the others cannot
tell. -/

namespace MailboxSync.Table

/-! What can be asked of the stores of a scope. -/

inductive Operation where
  | listDevice
  | content (id : String)
  | apply (actions : List Action)
  | storeContent (item : Item) (payload : Payload)
  | remove (id : String)
  | markRead (id : String)
  | listMirror
  | replaceMirror (snapshot : Snapshot)
  /-- A call that the database does not carry out, whatever it asked for. -/
  | fail (e : Failure)

inductive Answer where
  | listing (l : Except Failure Snapshot)
  | content (p : Except Failure (Option Payload))
  | done (x : Except Failure Unit)
  /-- Whether there was something to change. -/
  | changed (b : Bool)
deriving DecidableEq

/-- A change takes effect when it succeeds. -/
def Database.settle (db : Database) : Except Failure Database → Answer × Database
  | .ok db' => (.done (.ok ()), db')
  | .error e => (.done (.error e), db)

def Operation.run (s : Scope) (db : Database) : Operation → Answer × Database
  | listDevice => (.listing (db.listDevice s), db)
  | content id => (.content (db.content s id), db)
  | apply actions => db.settle (db.apply s actions)
  | storeContent i p => db.settle (db.storeContent s i p)
  | remove id => (.changed (db.has s id), db.remove s id)
  | markRead id => (.changed (db.has s id), db.markRead s id)
  | listMirror => (.listing (db.listMirror s), db)
  | replaceMirror l => db.settle (.ok (db.replaceMirror s l))
  | fail e => db.settle (.error e)

/-- What the stores answer when they are used in turn. -/
def Database.transcript (db : Database) : List (Scope × Operation) → List (Scope × Answer)
  | [] => []
  | (s, o) :: rest =>
    let (x, db) := o.run s db
    (s, x) :: db.transcript rest

/-- What is left without all that belongs to one scope. -/
def Scope.strike {α : Type} (t : Scope) (log : List (Scope × α)) : List (Scope × α) :=
  log.filter fun p => p.1 ≠ t

theorem Database.transcript_cons (db : Database) (s : Scope) (o : Operation) (log : List (Scope × Operation)) :
    db.transcript ((s, o) :: log) = (s, (o.run s db).1) :: (o.run s db).2.transcript log := rfl

namespace Scope

variable {α : Type} {s t : Scope} (x : α) (log : List (Scope × α))

theorem strike_cons_self : t.strike ((t, x) :: log) = t.strike log :=
  List.filter_cons_of_neg (by simp)

theorem strike_cons_of_ne (other : s ≠ t) : t.strike ((s, x) :: log) = (s, x) :: t.strike log :=
  List.filter_cons_of_pos (by simpa using other)

end Scope

/-- How many rows actions may bring in. -/
def newRows (as : List Action) : Nat := as.countP fun a => a.kind = .insert

theorem newRows_insert {a : Action} (insert : a.kind = .insert) : newRows [a] = 1 :=
  List.countP_eq_length.mpr fun b mem => by simp [List.mem_singleton.mp mem, insert]

theorem newRows_append (as bs : List Action) : newRows (as ++ bs) = newRows as + newRows bs := List.countP_append

theorem newRows_cons (a : Action) (as : List Action) : newRows (a :: as) = newRows [a] + newRows as :=
  newRows_append [a] as

/-- The actions that an operation asks for. -/
def Operation.actions : Operation → List Action
  | apply actions => actions
  | _ => []

/-! A scope's part of a database -/

theorem Scope.eq_of_covers {s s' : Scope} {r : Row} (own : s.covers r = true) (own' : s'.covers r = true) : s' = s := by
  obtain ⟨mailbox, family⟩ := s
  obtain ⟨mailbox', family'⟩ := s'
  simp only [covers, Bool.and_eq_true, decide_eq_true_eq] at own own'
  obtain rfl := Cell.text.inj (own.1.symm.trans own'.1)
  obtain rfl := Family.name_inj.mp (Cell.text.inj (own.2.symm.trans own'.2))
  rfl

theorem Scope.covers_of_names {s : Scope} {k : String} {r : Row} (named : s.names k r = true) : s.covers r = true :=
  (Bool.and_eq_true_iff.mp named).1

def DeviceRow.unnumbered (r : DeviceRow) : DeviceRow := { r with id := 0 }

/-- Only rows of this scope are picked, and not by their numbers. -/
structure Scope.Picks (s : Scope) (p : DeviceRow → Bool) : Prop where
  own : ∀ r : DeviceRow, p r = true → s.covers r.toRow = true
  unnumbered : ∀ r : DeviceRow, p r.unnumbered = p r

theorem Scope.picks_names (s : Scope) (k : String) : s.Picks fun r => s.names k r.toRow :=
  ⟨fun _ => covers_of_names, fun _ => rfl⟩

theorem Scope.picks_isActiveOf {s : Scope} (greeting : s.family = .greeting) (t : GreetingType) :
    s.Picks (Database.isActiveOf s t) := by
  refine ⟨fun r active => ?_, fun _ => rfl⟩
  -- The family that is looked for is always that of greetings. Here it is the scope's own.
  rw [Database.isActiveOf, Bool.and_eq_true, Bool.and_eq_true, ← greeting] at active
  exact active.1.1

namespace Database

variable {s s' t : Scope} {db db' : Database} {k : String} {a : Action} {as : List Action}
  {p : DeviceRow → Bool} {f : DeviceRow → DeviceRow}

/-- The database as it would be with the rows of one scope alone. Their numbers, which all stores draw from one
counter, are left out. -/
def only (db : Database) (s : Scope) : Database where
  device := (db.device.filter fun r => s.covers r.toRow).map DeviceRow.unnumbered
  mirror := db.mirror.filter s.covers

/-! A store reads its own part. -/

theorem readAll_unnumbered (family : Family) (rows : List DeviceRow) :
    readAll (fun r => r.sourceId) (fun r => r.readItem family) (rows.map DeviceRow.unnumbered) =
      readAll (fun r => r.sourceId) (fun r => r.readItem family) rows := by
  have sorted : (rows.map DeviceRow.unnumbered).mergeSort (fun a b => a.sourceId.precedes b.sourceId) =
      (rows.mergeSort fun a b => a.sourceId.precedes b.sourceId).map DeviceRow.unnumbered :=
    (List.map_mergeSort (f := DeviceRow.unnumbered) fun _ _ _ _ => rfl).symm
  unfold readAll
  rw [sorted, List.mapM_map]
  rfl

theorem listDevice_only : (db.only s).listDevice s = db.listDevice s := by
  unfold listDevice only
  rw [List.filter_map, readAll_unnumbered, List.filter_filter]
  refine congrArg _ (List.filter_congr fun r _ => ?_)
  rw [Function.comp_apply, Bool.and_right_comm]
  exact congrArg (· && _) (Bool.and_self _)

theorem find?_only (picks : s.Picks p) :
    (db.only s).device.find? p = (db.device.find? p).map DeviceRow.unnumbered := by
  unfold only
  rw [List.find?_map, List.find?_filter]
  refine congrArg (Option.map _) (congrFun (congrArg _ (funext fun r => ?_)) _)
  rw [Function.comp_apply, picks.unnumbered, Bool.eq_iff_iff, decide_eq_true_eq, and_iff_right_of_imp (picks.own r)]

theorem content_only : (db.only s).content s k = db.content s k := by
  have picks : s.Picks fun r => s.names k r.toRow && r.hasContent = .integer 1 :=
    ⟨fun r both => Scope.covers_of_names (Bool.and_eq_true_iff.mp both).1, fun _ => rfl⟩
  unfold content
  rw [find?_only picks]
  cases db.device.find? fun r => s.names k r.toRow && r.hasContent = .integer 1 with
  | none => rfl
  | some r => rfl

theorem has_only : (db.only s).has s k = db.has s k := by
  unfold has
  rw [← List.isSome_find?, ← List.isSome_find?, find?_only (s.picks_names k), Option.isSome_map]

theorem listMirror_only : (db.only s).listMirror s = db.listMirror s := by
  unfold listMirror only
  rw [List.filter_filter]
  simp only [Bool.and_self]

/-! What a store writes changes its own part, in a way that depends on that part only, and no other part. -/

theorem only_updateDevice (picks : s'.Picks p) (unnumbered : ∀ r : DeviceRow, f r.unnumbered = (f r).unnumbered)
    (stays : ∀ r, s.covers (f r).toRow = s.covers r.toRow) :
    (db.updateDevice p f).only s = (db.only s).updateDevice p f := by
  have covered : (fun r : DeviceRow => s.covers r.toRow) ∘ (fun r => if p r then f r else r) =
      fun r => s.covers r.toRow := by
    funext r
    rw [Function.comp_apply]
    split
    · exact stays r
    · rfl
  unfold only updateDevice
  simp only [List.filter_map, covered, List.map_map]
  congr 2
  funext r
  simp only [Function.comp_apply, picks.unnumbered, unnumbered]
  split <;> rfl

theorem only_deleteDevice (picks : s'.Picks p) : (db.deleteDevice p).only s = (db.only s).deleteDevice p := by
  unfold only deleteDevice
  simp only [List.filter_map, List.filter_filter]
  congr 2
  refine List.filter_congr fun r _ => ?_
  rw [Function.comp_apply, picks.unnumbered, Bool.and_comm]

section Other

variable (other : s' ≠ s) (picks : s'.Picks p)

include other picks

theorem not_picked {r : DeviceRow} (mem : r ∈ (db.only s).device) : p r = false := by
  obtain ⟨r, held, rfl⟩ := List.mem_map.mp mem
  rw [picks.unnumbered]
  have covered : s.covers r.toRow = true := (List.mem_filter.mp held).2
  exact Bool.eq_false_iff.mpr fun picked => other (Scope.eq_of_covers covered (picks.own r picked))

theorem updateDevice_only : (db.only s).updateDevice p f = db.only s := by
  have same : (db.only s).device.map (fun r => if p r then f r else r) = (db.only s).device.map id :=
    List.map_congr_left fun r mem => if_neg (Bool.eq_false_iff.mp (not_picked other picks mem))
  unfold updateDevice
  rw [same, List.map_id]

theorem deleteDevice_only : (db.only s).deleteDevice p = db.only s := by
  have same : (db.only s).device.filter (fun r => !p r) = (db.only s).device :=
    List.filter_eq_self.mpr fun r mem => by rw [not_picked other picks mem, Bool.not_false]
  unfold deleteDevice
  rw [same]

end Other

theorem only_demote {kind : ItemKind} (family : kind.family = s'.family) :
    (db.demote s' kind).only s = (db.only s).demote s' kind := by
  unfold demote
  split
  · next t => exact only_updateDevice (Scope.picks_isActiveOf family.symm t) (fun _ => rfl) fun _ => rfl
  · rfl

theorem demote_only (other : s' ≠ s) {kind : ItemKind} (family : kind.family = s'.family) :
    (db.only s).demote s' kind = db.only s := by
  unfold demote
  split
  · next t => exact updateDevice_only other (Scope.picks_isActiveOf family.symm t)
  · rfl

theorem only_take (i : Item) : (db.take s' i).only s = { (db.demote s' i.kind).only s with
    device := ((db.demote s' i.kind).only s).device ++ if s' = s then [.ofItem 0 s' i] else [] } := by
  have new (n : Int) : [DeviceRow.ofItem n s' i].filter (fun r => s.covers r.toRow) =
      if s' = s then [.ofItem n s' i] else [] := by
    have covered : s.covers (DeviceRow.ofItem n s' i).toRow = decide (s' = s) := s.covers_ofItem s' i.bare
    rw [List.filter_cons, covered, List.filter_nil]
    simp only [decide_eq_true_eq]
  unfold only take
  rw [List.filter_append, new, List.map_append, apply_ite (List.map DeviceRow.unnumbered)]
  rfl

theorem only_replaceMirror (l : Snapshot) : (db.replaceMirror s l).only s = (db.only s).replaceMirror s l := by
  have new : ((l.retain s.family).toList.map (Row.ofItem s)).filter s.covers =
      (l.retain s.family).toList.map (Row.ofItem s) :=
    List.filter_eq_self.mpr fun r mem => by
      obtain ⟨i, -, rfl⟩ := List.mem_map.mp mem
      exact Row.covers_ofItem s i
  unfold only replaceMirror
  rw [List.filter_append, new, List.filter_filter, List.filter_filter]
  simp only [Bool.and_comm]

theorem only_replaceMirror_other (other : s' ≠ s) (l : Snapshot) : (db.replaceMirror s' l).only s = db.only s := by
  have gone : ∀ r, (s.covers r && !s'.covers r) = s.covers r := by
    intro r
    cases own : s.covers r with
    | false => rfl
    | true => rw [Bool.eq_false_iff.mpr fun theirs => other (Scope.eq_of_covers own theirs)]; rfl
  have new : ((l.retain s'.family).toList.map (Row.ofItem s')).filter s.covers = [] :=
    List.filter_eq_nil_iff.mpr fun r mem => by
      obtain ⟨i, -, rfl⟩ := List.mem_map.mp mem
      rw [s.covers_ofItem, decide_eq_true_eq]
      exact other
  unfold only replaceMirror
  rw [List.filter_append, new, List.append_nil, List.filter_filter, funext gone]

/-! Ids for new rows -/

/-- This many more rows can be given an id. Only a row that came with an id of its own can make them run out. -/
def IdsLeft (db : Database) (n : Nat) : Prop :=
  db.hasForeignIds = true → db.lastId + n ≤ Int64.maxValue.toInt

instance (db : Database) (n : Nat) : Decidable (db.IdsLeft n) := inferInstanceAs (Decidable (_ → _))

variable {n : Nat}

/-- Where only stores write there always is one more. -/
theorem Written.idsLeft (written : db.Written) : db.IdsLeft n := by
  intro foreign
  rw [written.tidy.numbered] at foreign
  cases foreign

theorem IdsLeft.mono {m : Nat} (left : db.IdsLeft n) (fewer : m ≤ n) : db.IdsLeft m := by
  intro foreign
  have enough := left foreign
  omega

theorem IdsLeft.nextId (left : db.IdsLeft (newRows [a])) (insert : a.kind = .insert) :
    db.nextId = .ok (db.lastId + 1) := by
  rw [newRows_insert insert] at left
  unfold Database.nextId
  split
  · next full =>
    simp only [Bool.and_eq_true, decide_eq_true_eq] at full
    have enough := left full.1
    omega
  · rfl

theorem IdsLeft.perform (left : db.IdsLeft (newRows [a] + n)) (done : db.perform s a = .ok db') : db'.IdsLeft n := by
  rw [perform_eq (nextId_of_perform done)] at done
  cases kind : a.kind with
  | insert =>
    simp only [kind] at done
    split at done
    · cases done
    · cases done
      intro foreign
      have enough := left ((numbered_demote (s := s) a.item.kind).symm.trans foreign)
      have next : (db.take s a.item).lastId = max db.lastId (db.lastId + 1) := by rw [take, lastId_demote]
      rw [newRows_insert kind] at enough
      rw [next]
      omega
  | delete | markAsRead | fetchContent =>
    simp only [kind] at done
    cases done
    exact left.mono (Nat.le_add_left ..)

theorem IdsLeft.performAll (left : db.IdsLeft (newRows as + n))
    (done : as.foldlM (fun (db : Database) a => db.perform s a) db = .ok db') : db'.IdsLeft n := by
  induction as generalizing db with
  | nil =>
    cases done
    exact left.mono (Nat.le_add_left ..)
  | cons a rest ih =>
    rw [newRows_cons, Nat.add_assoc] at left
    obtain ⟨between, first, others⟩ := foldlM_cons_ok done
    exact ih (left.perform first) others

/-! What is done in a scope, seen from there. Databases that are the same there stay so. -/

section Own

variable (same : db.only s = db'.only s)

include same

theorem has_congr : db.has s k = db'.has s k := by rw [← has_only, same, has_only]

theorem remove_congr : (db.remove s k).only s = (db'.remove s k).only s := by
  unfold remove
  rw [only_deleteDevice (s.picks_names k), only_deleteDevice (s.picks_names k), same]

theorem update_congr (picks : s.Picks p) (unnumbered : ∀ r : DeviceRow, f r.unnumbered = (f r).unnumbered)
    (stays : ∀ r, s.covers (f r).toRow = s.covers r.toRow) :
    (db.updateDevice p f).only s = (db'.updateDevice p f).only s := by
  rw [only_updateDevice picks unnumbered stays, only_updateDevice picks unnumbered stays, same]

theorem markRead_congr : (db.markRead s k).only s = (db'.markRead s k).only s :=
  update_congr same (s.picks_names k) (fun _ => rfl) fun _ => rfl

theorem take_congr {i : Item} (family : i.family = s.family) : (db.take s i).only s = (db'.take s i).only s := by
  rw [only_take, only_take, only_demote family, only_demote family, same]

theorem replaceMirror_congr (l : Snapshot) : (db.replaceMirror s l).only s = (db'.replaceMirror s l).only s := by
  rw [only_replaceMirror, only_replaceMirror, same]

theorem perform_congr (family : a.item.family = s.family) (left : db.IdsLeft (newRows [a]))
    (left' : db'.IdsLeft (newRows [a])) :
    (db.perform s a).map (fun x => x.only s) = (db'.perform s a).map fun x => x.only s := by
  rw [perform_eq left.nextId, perform_eq left'.nextId, has_congr same]
  split
  · split
    · rfl
    · exact congrArg Except.ok (take_congr same family)
  · exact congrArg Except.ok (remove_congr same)
  · exact congrArg Except.ok (markRead_congr same)
  · exact congrArg Except.ok same

end Own

/-- Two computations that look the same go on to look the same, if whatever they do next does. -/
theorem map_bind_congr {ε α β γ δ : Type} {look : α → β} {look' : γ → δ} {x x' : Except ε α}
    {next next' : α → Except ε γ} (first : x.map look = x'.map look)
    (rest : ∀ y y', x = .ok y → x' = .ok y' → look y = look y' → (next y).map look' = (next' y').map look') :
    (x >>= next).map look' = (x' >>= next').map look' := by
  cases x with
  | error e =>
    cases x' with
    | error e' =>
      cases first
      rfl
    | ok y' => cases first
  | ok y =>
    cases x' with
    | error e' => cases first
    | ok y' => exact rest y y' rfl rfl (Except.ok.inj first)

theorem performAll_congr (family : ∀ a ∈ as, a.item.family = s.family) (same : db.only s = db'.only s)
    (left : db.IdsLeft (newRows as)) (left' : db'.IdsLeft (newRows as)) :
    (as.foldlM (fun (db : Database) a => db.perform s a) db).map (fun x => x.only s) =
      (as.foldlM (fun (db : Database) a => db.perform s a) db').map fun x => x.only s := by
  induction as generalizing db db' with
  | nil => exact congrArg Except.ok same
  | cons a rest ih =>
    rw [newRows_cons] at left left'
    have first := perform_congr same (family a List.mem_cons_self) (left.mono (Nat.le_add_right ..))
      (left'.mono (Nat.le_add_right ..))
    rw [List.foldlM_cons, List.foldlM_cons]
    refine map_bind_congr first fun x x' done done' still => ?_
    exact ih (fun b mem => family b (List.mem_cons_of_mem _ mem)) still (left.perform done) (left'.perform done')

theorem apply_congr (same : db.only s = db'.only s) (left : db.IdsLeft (newRows as))
    (left' : db'.IdsLeft (newRows as)) :
    (db.apply s as).map (fun x => x.only s) = (db'.apply s as).map fun x => x.only s := by
  unfold apply
  have both : (as.forM (admits s)).map id = (as.forM (admits s)).map id := rfl
  refine map_bind_congr both fun _ _ admitted _ _ => performAll_congr (fun a mem => ?_) same left left'
  exact (admits_eq_ok.mp (forM_eq_ok.mp admitted a mem)).2

theorem storeContent_congr (same : db.only s = db'.only s) (i : Item) (p : Payload) :
    (db.storeContent s i p).map (fun x => x.only s) = (db'.storeContent s i p).map fun x => x.only s := by
  unfold storeContent
  rw [has_congr same]
  split
  · exact congrArg Except.ok (update_congr same (s.picks_names i.id) (fun _ => rfl) fun _ => rfl)
  · rfl

theorem settle_congr {x x' : Except Failure Database} (same : db.only s = db'.only s)
    (results : x.map (fun y => y.only s) = x'.map fun y => y.only s) :
    (db.settle x).1 = (db'.settle x').1 ∧ (db.settle x).2.only s = (db'.settle x').2.only s := by
  cases x with
  | error e =>
    cases x' with
    | error e' =>
      cases results
      exact ⟨rfl, same⟩
    | ok y' => cases results
  | ok y =>
    cases x' with
    | error e' => cases results
    | ok y' => exact ⟨rfl, Except.ok.inj results⟩

/-! What is done in a scope, seen from another -/

section Other

variable (other : s' ≠ s)

include other

theorem remove_other : (db.remove s' k).only s = db.only s := by
  unfold remove
  rw [only_deleteDevice (s'.picks_names k), deleteDevice_only other (s'.picks_names k)]

theorem update_other (picks : s'.Picks p) (unnumbered : ∀ r : DeviceRow, f r.unnumbered = (f r).unnumbered)
    (stays : ∀ r, s.covers (f r).toRow = s.covers r.toRow) : (db.updateDevice p f).only s = db.only s := by
  rw [only_updateDevice picks unnumbered stays, updateDevice_only other picks]

theorem markRead_other : (db.markRead s' k).only s = db.only s :=
  update_other other (s'.picks_names k) (fun _ => rfl) fun _ => rfl

theorem take_other {i : Item} (family : i.family = s'.family) : (db.take s' i).only s = db.only s := by
  rw [only_take, only_demote family, demote_only other family, if_neg other, List.append_nil]

theorem perform_other (family : a.item.family = s'.family) (done : db.perform s' a = .ok db') :
    db'.only s = db.only s := by
  rw [perform_eq (nextId_of_perform done)] at done
  split at done
  · split at done
    · cases done
    · cases done
      exact take_other other family
  · cases done
    exact remove_other other
  · cases done
    exact markRead_other other
  · cases done
    rfl

theorem apply_other (done : db.apply s' as = .ok db') : db'.only s = db.only s := by
  obtain ⟨fits, performed⟩ := apply_ok done
  refine performAll_keeps (P := fun x => x.only s = db.only s) ?_ rfl performed
  exact fun a mem _ _ before step => (perform_other other (fits a mem).2 step).trans before

theorem storeContent_other {i : Item} {p : Payload} (done : db.storeContent s' i p = .ok db') :
    db'.only s = db.only s := by
  unfold storeContent at done
  split at done
  · cases done
    exact update_other other (s'.picks_names i.id) (fun _ => rfl) fun _ => rfl
  · cases done

end Other

/-! Operations, one after another -/

variable {o : Operation}

theorem IdsLeft.run (left : db.IdsLeft (newRows o.actions + n)) : (o.run s db).2.IdsLeft n := by
  have still := left.mono (Nat.le_add_left ..)
  cases o with
  | apply as =>
    show (db.settle (db.apply s as)).2.IdsLeft n
    cases done : db.apply s as with
    | error e => exact still
    | ok db' => exact left.performAll (apply_ok done).2
  | storeContent i p =>
    show (db.settle (db.storeContent s i p)).2.IdsLeft n
    unfold storeContent
    split <;> exact still
  | listDevice | content | remove | markRead | listMirror | replaceMirror | fail => exact still

/-- A store answers by its own part of the database. -/
theorem run_congr (same : db.only s = db'.only s) (left : db.IdsLeft (newRows o.actions))
    (left' : db'.IdsLeft (newRows o.actions)) :
    (o.run s db).1 = (o.run s db').1 ∧ (o.run s db).2.only s = (o.run s db').2.only s := by
  cases o with
  | listDevice => exact ⟨congrArg Answer.listing (by rw [← listDevice_only, same, listDevice_only]), same⟩
  | content id => exact ⟨congrArg Answer.content (by rw [← content_only, same, content_only]), same⟩
  | apply as => exact settle_congr same (apply_congr same left left')
  | storeContent i p => exact settle_congr same (storeContent_congr same i p)
  | remove id => exact ⟨congrArg Answer.changed (has_congr same), remove_congr same⟩
  | markRead id => exact ⟨congrArg Answer.changed (has_congr same), markRead_congr same⟩
  | listMirror => exact ⟨congrArg Answer.listing (by rw [← listMirror_only, same, listMirror_only]), same⟩
  | replaceMirror l => exact settle_congr same (congrArg Except.ok (replaceMirror_congr same l))
  | fail e => exact settle_congr same rfl

/-- No other part is touched. -/
theorem run_other (other : s' ≠ s) : (o.run s' db).2.only s = db.only s := by
  cases o with
  | apply as =>
    show (db.settle (db.apply s' as)).2.only s = _
    cases done : db.apply s' as with
    | error e => rfl
    | ok db' => exact apply_other other done
  | storeContent i p =>
    show (db.settle (db.storeContent s' i p)).2.only s = _
    cases done : db.storeContent s' i p with
    | error e => rfl
    | ok db' => exact storeContent_other other done
  | remove id => exact remove_other other
  | markRead id => exact markRead_other other
  | replaceMirror l => exact only_replaceMirror_other other l
  | listDevice | content | listMirror | fail => rfl

theorem strike_transcript_of_same {t : Scope} {log : List (Scope × Operation)}
    (same : ∀ s, s ≠ t → db.only s = db'.only s) (left : db.IdsLeft (newRows (log.flatMap fun p => p.2.actions)))
    (left' : db'.IdsLeft (newRows (log.flatMap fun p => p.2.actions))) :
    t.strike (db.transcript log) = db'.transcript (t.strike log) := by
  induction log generalizing db db' with
  | nil => rfl
  | cons p rest ih =>
    obtain ⟨s, o⟩ := p
    rw [List.flatMap_cons, newRows_append] at left left'
    rw [transcript_cons]
    by_cases own : s = t
    · -- The operation is missing on the right. On the left it touches no other part.
      rw [own, Scope.strike_cons_self, Scope.strike_cons_self]
      refine ih (fun s' other => ?_) left.run (left'.mono (Nat.le_add_left ..))
      rw [run_other other.symm, same s' other]
    · obtain ⟨answers, part⟩ := run_congr (same s own) (left.mono (Nat.le_add_right ..))
        (left'.mono (Nat.le_add_right ..))
      rw [Scope.strike_cons_of_ne _ _ own, Scope.strike_cons_of_ne _ _ own, transcript_cons, answers]
      refine congrArg _ (ih (fun s' other => ?_) left.run left'.run)
      by_cases here : s' = s
      · rw [here]
        exact part
      · rw [run_other (Ne.symm here), run_other (Ne.symm here), same s' other]

/-- The stores of all other scopes answer as if those of `t` had never been used, whatever rows there were at first.
The one thing that all draw on is the counter for ids, and that has to last. -/
theorem strike_transcript (t : Scope) (db : Database) (log : List (Scope × Operation))
    (left : db.IdsLeft (newRows (log.flatMap fun p => p.2.actions))) :
    t.strike (db.transcript log) = db.transcript (t.strike log) :=
  strike_transcript_of_same (fun _ _ => rfl) left left

/-! Two mailboxes with a greeting of the same name each -/

def newGreeting : Item := { id := "a", kind := .greeting .normal true }

def sharedRows : Database where
  device := [.ofItem 41 ⟨"main", .greeting⟩ newGreeting]
  lastId := 41
  hasForeignIds := true

/-- The first mailbox takes in and removes greetings of the type and the name that the second one has. Both also try
to bring in what is there. -/
def sharedLog : List (Scope × Operation) :=
  let main : Scope := ⟨"main", .greeting⟩
  let other : Scope := ⟨"other", .greeting⟩
  let insert (i : Item) : Operation := .apply [⟨.insert, .device, i⟩]
  [(other, insert newGreeting), (main, insert newGreeting),
    (other, .storeContent newGreeting ⟨#[1, 2], "audio/amr"⟩), (main, insert { newGreeting with id := "b" }),
    (main, .replaceMirror (.ofList [newGreeting])), (other, insert newGreeting), (main, .remove "a"),
    (other, .listDevice), (other, .content "a"), (main, .listDevice), (other, .listMirror)]

theorem sharedLog_strike : sharedRows.IdsLeft (newRows (sharedLog.flatMap fun p => p.2.actions)) ∧
    Scope.strike ⟨"main", .greeting⟩ (sharedRows.transcript sharedLog) =
      sharedRows.transcript (Scope.strike ⟨"main", .greeting⟩ sharedLog) ∧
    (⟨"other", .greeting⟩, .content (.ok (some ⟨#[1, 2], "audio/amr"⟩))) ∈
      sharedRows.transcript sharedLog := by
  have left : sharedRows.IdsLeft (newRows (sharedLog.flatMap fun p => p.2.actions)) := by decide +kernel
  exact ⟨left, strike_transcript _ _ _ left, by decide +kernel⟩

/-- A row that came with the last id but one. -/
def lastRows : Database where
  device := [.ofItem (Int64.maxValue.toInt - 1) ⟨"third", .voicemail⟩ (.voicemail "z")]
  lastId := Int64.maxValue.toInt - 1
  hasForeignIds := true

def lastLog : List (Scope × Operation) :=
  [(⟨"main", .voicemail⟩, .apply [⟨.insert, .device, .voicemail "a"⟩]),
    (⟨"other", .voicemail⟩, .apply [⟨.insert, .device, .voicemail "b"⟩])]

/-- Whoever comes first gets the last id. -/
theorem last_id_contested : ¬∀ (t : Scope) (db : Database) (log : List (Scope × Operation)),
    t.strike (db.transcript log) = db.transcript (t.strike log) := by
  intro apart
  have refused : Scope.strike ⟨"main", .voicemail⟩ (lastRows.transcript lastLog) = [(⟨"other", .voicemail⟩,
      .done (.error (.localTransaction "insert(local, b): database or disk is full")))] := by decide +kernel
  have taken : lastRows.transcript (Scope.strike ⟨"main", .voicemail⟩ lastLog) =
      [(⟨"other", .voicemail⟩, .done (.ok ()))] := by decide +kernel
  have same := apart ⟨"main", .voicemail⟩ lastRows lastLog
  rw [refused, taken] at same
  cases same

end Database

end MailboxSync.Table
