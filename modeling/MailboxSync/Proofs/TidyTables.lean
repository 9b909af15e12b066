import MailboxSync.Proofs.Reaction
import MailboxSync.Proofs.Records

namespace MailboxSync.Table

/-- A row that a store has written. -/
def Row.Orderly (r : Row) : Prop := ∃ s i, r = ofItem s i ∧ i.family = s.family

namespace DeviceRow

/-- A row that a store has written. -/
def Orderly (r : DeviceRow) : Prop := ∃ s x, r = Record.row s x ∧ x.kind.family = s.family

variable {r : DeviceRow} (orderly : r.Orderly)

include orderly

theorem Orderly.markRead : r.markRead.Orderly := by
  obtain ⟨s, x, rfl, family⟩ := orderly
  exact ⟨s, x.markRead, rfl, family⟩

theorem Orderly.deactivate : r.deactivate.Orderly := by
  obtain ⟨s, ⟨number, id, kind, read, content⟩, rfl, family⟩ := orderly
  cases kind with
  | voicemail => exact ⟨s, ⟨number, id, .voicemail, read, content⟩, rfl, family⟩
  | greeting t active => exact ⟨s, ⟨number, id, .greeting t false, read, content⟩, rfl, family⟩

theorem Orderly.hold {s : Scope} {k : String} (named : s.names k r.toRow = true) (p : Payload) :
    (r.hold (s.locator k) p).Orderly := by
  obtain ⟨s', x, rfl, family⟩ := orderly
  rw [x.names_row, decide_eq_true_eq] at named
  obtain ⟨rfl, rfl⟩ := named
  exact ⟨s', x.hold p, rfl, family⟩

/-- What a store has written in a row of its own is a record of its own. -/
theorem Orderly.row {s : Scope} (own : s.covers r.toRow = true) :
    ∃ x : Record, r = x.row s ∧ x.kind.family = s.family := by
  obtain ⟨s', x, rfl, family⟩ := orderly
  have covered : s.covers (x.row s').toRow = decide (s' = s) := s.covers_ofItem s' _
  rw [own] at covered
  obtain rfl := of_decide_eq_true covered.symm
  exact ⟨x, rfl, family⟩

/-- A store can read the rows that are its own. -/
theorem Orderly.readItem {s : Scope} (own : s.covers r.toRow = true) :
    ∃ i, r.readItem s.family = .ok i ∧ i.family = s.family ∧ r.sourceId = .text i.id := by
  obtain ⟨x, rfl, family⟩ := orderly.row own
  exact ⟨_, x.readItem_row s family, family, rfl⟩

end DeviceRow

theorem DeviceRow.orderly_ofItem (number : Int) {s : Scope} {i : Item} (family : i.family = s.family) :
    (ofItem number s i).Orderly := ⟨s, .ofItem number i, rfl, family⟩

theorem Row.Orderly.readItem {r : Row} (orderly : r.Orderly) {s : Scope} (own : s.covers r = true) :
    ∃ i, r.readItem s.family = .ok i := by
  obtain ⟨s', i, rfl, family⟩ := orderly
  rw [s.covers_ofItem] at own
  obtain rfl := of_decide_eq_true own
  exact ⟨_, readItem_ofItem family⟩

namespace Database

variable {db db' : Database} {s s' : Scope} {k : String} {a : Action} {as : List Action}

/-- A database that only stores have written to. -/
structure Tidy (db : Database) : Prop where
  device : ∀ r ∈ db.device, r.Orderly
  mirror : ∀ r ∈ db.mirror, r.Orderly
  numbered : db.hasForeignIds = false

/-! Which items a store has. -/

theorem has_eq_true_iff : db.has s k = true ↔ ∃ r ∈ db.device, s.names k r.toRow = true := List.any_eq_true

theorem has_take (i : Item) : (db.take s' i).has s k = (db.has s k || decide (s' = s ∧ i.id = k)) := by
  have before : (db.demote s' i.kind).has s k = db.has s k := has_demote s' _
  have new (number : Int) : s.names k (DeviceRow.ofItem number s' i).toRow = decide (s' = s ∧ i.id = k) :=
    (Record.ofItem number i).names_row s s' k
  rw [← before]
  unfold has take
  rw [List.any_append, List.any_cons, List.any_nil, Bool.or_false, new]

theorem has_deleteDevice {p : DeviceRow → Bool} (left : (db.deleteDevice p).has s k = true) : db.has s k = true := by
  obtain ⟨r, mem, named⟩ := has_eq_true_iff.mp left
  exact has_eq_true_iff.mpr ⟨r, (List.mem_filter.mp mem).1, named⟩

theorem has_happen (e : DeviceEvent) (left : (db.happen s' e).has s k = true) : db.has s k = true := by
  cases e with
  | read id => rwa [happen, markRead, has_updateDevice (f := DeviceRow.markRead) fun _ => rfl] at left
  | remove id => exact has_deleteDevice left

/-- An action brings nothing to a store but what it puts in there. -/
theorem has_perform (done : db.perform s' a = .ok db') (left : db'.has s k = true) :
    db.has s k = true ∨ s' = s ∧ a.kind = .insert ∧ a.id = k := by
  rw [perform_eq (nextId_of_perform done)] at done
  cases kind : a.kind with
  | insert =>
    simp only [kind] at done
    split at done
    · cases done
    · cases done
      rw [has_take, Bool.or_eq_true, decide_eq_true_eq] at left
      exact left.imp_right fun own => ⟨own.1, rfl, own.2⟩
  | delete =>
    simp only [kind] at done
    cases done
    exact Or.inl (has_deleteDevice left)
  | markAsRead =>
    simp only [kind] at done
    cases done
    exact Or.inl (has_happen (.read a.id) left)
  | fetchContent =>
    simp only [kind] at done
    cases done
    exact Or.inl left

namespace Tidy

theorem empty : ({} : Database).Tidy :=
  ⟨fun _ mem => absurd mem List.not_mem_nil, fun _ mem => absurd mem List.not_mem_nil, rfl⟩

variable (tidy : db.Tidy)

include tidy

theorem updateDevice {p : DeviceRow → Bool} {f : DeviceRow → DeviceRow}
    (keeps : ∀ r : DeviceRow, r.Orderly → p r = true → (f r).Orderly) : (db.updateDevice p f).Tidy := by
  refine ⟨fun r mem => ?_, tidy.mirror, tidy.numbered⟩
  obtain ⟨r, held, rfl⟩ := List.mem_map.mp mem
  split
  · next chosen => exact keeps r (tidy.device r held) chosen
  · exact tidy.device r held

theorem deleteDevice (p : DeviceRow → Bool) : (db.deleteDevice p).Tidy :=
  ⟨fun r mem => tidy.device r (List.mem_filter.mp mem).1, tidy.mirror, tidy.numbered⟩

theorem markRead (s : Scope) (k : String) : (db.markRead s k).Tidy :=
  tidy.updateDevice fun _ orderly _ => orderly.markRead

theorem happen (s : Scope) (e : DeviceEvent) : (db.happen s e).Tidy := by
  cases e with
  | read id => exact tidy.markRead s id
  | remove id => exact tidy.deleteDevice _

theorem demote (s : Scope) (kind : ItemKind) : (db.demote s kind).Tidy := by
  unfold Database.demote
  split
  · exact tidy.updateDevice fun _ orderly _ => orderly.deactivate
  · exact tidy

theorem take {i : Item} (family : i.family = s.family) : (db.take s i).Tidy := by
  have demoted := tidy.demote s i.kind
  refine ⟨fun r mem => ?_, demoted.mirror, demoted.numbered⟩
  rcases List.mem_append.mp mem with held | new
  · exact demoted.device r held
  · rw [List.mem_singleton.mp new]
    exact DeviceRow.orderly_ofItem _ family

theorem perform (family : a.item.family = s.family) (done : db.perform s a = .ok db') : db'.Tidy := by
  rw [perform_eq (nextId_of_perform done)] at done
  split at done
  · split at done
    · cases done
    · cases done
      exact tidy.take family
  · cases done
    exact tidy.deleteDevice _
  · cases done
    exact tidy.markRead s a.id
  · cases done
    exact tidy

end Tidy

/-! Transactions -/

/-- A transaction goes through as a whole, and all its actions have their place in it. -/
theorem apply_ok (done : db.apply s as = .ok db') :
    (∀ a ∈ as, a.Fits s.family) ∧ as.foldlM (fun db a => db.perform s a) db = .ok db' := by
  unfold apply at done
  cases admitted : as.forM (admits s) with
  | error e =>
    rw [admitted] at done
    cases done
  | ok _ =>
    rw [admitted] at done
    exact ⟨fun a mem => admits_eq_ok.mp (forM_eq_ok.mp admitted a mem), done⟩

/-- What each action keeps a transaction keeps. -/
theorem performAll_keeps {P : Database → Prop}
    (step : ∀ a ∈ as, ∀ db db', P db → db.perform s a = .ok db' → P db') (holds : P db)
    (done : as.foldlM (fun db a => db.perform s a) db = .ok db') : P db' := by
  induction as generalizing db with
  | nil =>
    cases done
    exact holds
  | cons a rest ih =>
    obtain ⟨between, first, others⟩ := foldlM_cons_ok done
    exact ih (fun b mem => step b (List.mem_cons_of_mem _ mem)) (step a List.mem_cons_self _ _ holds first) others

/-- The transactions of other stores bring nothing in. -/
theorem has_apply (other : s' ≠ s) (done : db.apply s' as = .ok db') (left : db'.has s k = true) :
    db.has s k = true := by
  have known : db'.has s k = true → db.has s k = true := by
    refine performAll_keeps (P := fun x => x.has s k = true → db.has s k = true) ?_ id (apply_ok done).2
    rintro a mem before after known step left
    rcases has_perform step left with held | ⟨same, -⟩
    · exact known held
    · exact absurd same other
  exact known left

namespace Tidy

variable (tidy : db.Tidy)

include tidy

theorem apply (done : db.apply s as = .ok db') : db'.Tidy := by
  obtain ⟨fits, performed⟩ := apply_ok done
  exact performAll_keeps (fun a mem _ _ before step => before.perform (fits a mem).2 step) tidy performed

theorem perform_ok (new : a.kind = .insert → db.has s a.id = false) :
    ∃ db', db.perform s a = .ok db' := by
  rw [perform_eq fun _ => nextId_of_numbered tidy.numbered]
  split
  · next kind => exact ⟨_, if_neg (Bool.eq_false_iff.mp (new kind))⟩
  · exact ⟨_, rfl⟩
  · exact ⟨_, rfl⟩
  · exact ⟨_, rfl⟩

/-- A transaction goes through if all of it fits the store and nothing that it brings in is there already. -/
theorem apply_of_fits (fits : ∀ a ∈ as, a.Fits s.family) (distinct : as.Pairwise fun a b => a.sameAs b = false)
    (new : ∀ a ∈ as, a.kind = .insert → db.has s a.id = false) : ∃ db', db.apply s as = .ok db' := by
  rw [apply_eq fits]
  induction as generalizing db with
  | nil => exact ⟨db, rfl⟩
  | cons a rest ih =>
    rw [List.pairwise_cons] at distinct
    have fitsA := fits a List.mem_cons_self
    obtain ⟨between, first⟩ := tidy.perform_ok (new a List.mem_cons_self)
    rw [List.foldlM_cons, first]
    refine ih (tidy.perform fitsA.2 first) (fun b mem => fits b (List.mem_cons_of_mem _ mem)) distinct.2 ?_
    intro b mem insert
    rw [← Bool.not_eq_true]
    intro held
    -- What is there now was there before, or the first action put it in, and no two actions put in the same.
    rcases has_perform first held with before | ⟨-, insertA, same⟩
    · rw [new b (List.mem_cons_of_mem _ mem) insert] at before
      cases before
    · exact Action.id_ne_of_kind fitsA.1 (fits b (List.mem_cons_of_mem _ mem)).1 (insertA.trans insert.symm)
        (distinct.1 b mem) same

theorem storeContent {i : Item} {p : Payload} (done : db.storeContent s i p = .ok db') : db'.Tidy := by
  unfold Database.storeContent at done
  split at done
  · cases done
    exact tidy.updateDevice fun _ orderly named => orderly.hold named p
  · cases done

theorem replaceMirror (s : Scope) (l : Snapshot) : (db.replaceMirror s l).Tidy := by
  refine ⟨tidy.device, fun r mem => ?_, tidy.numbered⟩
  rcases List.mem_append.mp mem with kept | new
  · exact tidy.mirror r (List.mem_filter.mp kept).1
  · obtain ⟨i, held, rfl⟩ := List.mem_map.mp new
    exact ⟨s, i, rfl, of_decide_eq_true (List.mem_filter.mp held).2⟩

end Tidy

theorem has_storeContent {i : Item} {p : Payload} (done : db.storeContent s' i p = .ok db') :
    db'.has s k = db.has s k := by
  unfold Database.storeContent at done
  split at done
  · cases done
    exact has_updateDevice fun _ => rfl
  · cases done

/-! Listings -/

theorem mapM_total {ρ α ε : Type} {read : ρ → Except ε α} {rows : List ρ} (reads : ∀ r ∈ rows, ∃ x, read r = .ok x) :
    ∃ xs, rows.mapM read = .ok xs ∧ ∀ x, x ∈ xs ↔ ∃ r ∈ rows, read r = .ok x := by
  induction rows with
  | nil => exact ⟨[], rfl, by simp⟩
  | cons r rest ih =>
    obtain ⟨x, first⟩ := reads r List.mem_cons_self
    obtain ⟨xs, others, mem⟩ := ih fun r' mem => reads r' (List.mem_cons_of_mem _ mem)
    refine ⟨x :: xs, ?_, fun y => ?_⟩
    · rw [List.mapM_cons, first, others]
      rfl
    · simp only [List.mem_cons, mem, exists_eq_or_imp, first, Except.ok.injEq, @eq_comm _ y]

/-- If every row can be read there is a listing, of what is in them. -/
theorem readAll_total {ρ : Type} (name : ρ → Cell) (read : ρ → Except Fault Item) {rows : List ρ}
    (reads : ∀ r ∈ rows, ∃ i, read r = .ok i) : ∃ items, readAll name read rows = .ok (.ofList items) ∧
      ∀ i, i ∈ items ↔ ∃ r ∈ rows, read r = .ok i := by
  have sorted : ∀ r, r ∈ rows.mergeSort (fun a b => (name a).precedes (name b)) ↔ r ∈ rows :=
    fun r => List.mem_mergeSort
  obtain ⟨items, all, mem⟩ := mapM_total fun r held => reads r ((sorted r).mp held)
  refine ⟨items, by rw [readAll, all], fun i => ?_⟩
  rw [mem]
  exact exists_congr fun r => and_congr_left fun _ => sorted r

namespace Tidy

variable (tidy : db.Tidy)

include tidy

/-- A store lists the mirror. -/
theorem listMirror (s : Scope) : ∃ l, db.listMirror s = .ok l := by
  have reads : ∀ r ∈ db.mirror.filter s.covers, ∃ i, r.readItem s.family = .ok i := by
    intro r mem
    obtain ⟨held, own⟩ := List.mem_filter.mp mem
    exact (tidy.mirror r held).readItem own
  obtain ⟨items, listed, -⟩ := readAll_total Row.sourceId (Row.readItem s.family) reads
  exact ⟨_, listed⟩

/-- A store lists the items of its own that have a name, as items of its family. -/
theorem listDevice (s : Scope) : ∃ l, db.listDevice s = .ok l ∧
    ∀ i : Item, i.isKeyed = true → db.has s i.id = true → ((l.retain s.family).get? i.id).isSome = true := by
  have reads : ∀ r ∈ db.device.filter (fun r => s.covers r.toRow && r.sourceId ≠ .null),
      ∃ i, r.readItem s.family = .ok i ∧ i.family = s.family ∧ r.sourceId = .text i.id := by
    intro r mem
    obtain ⟨held, own⟩ := List.mem_filter.mp mem
    exact (tidy.device r held).readItem (Bool.and_eq_true_iff.mp own).1
  obtain ⟨items, listed, shows⟩ := readAll_total (fun r => r.sourceId) (fun r => r.readItem s.family)
    fun r mem => (reads r mem).imp fun _ read => read.1
  refine ⟨_, listed, fun i keyed held => ?_⟩
  obtain ⟨r, mem, named⟩ := has_eq_true_iff.mp held
  obtain ⟨covered, text⟩ := Bool.and_eq_true_iff.mp named
  have own : r ∈ db.device.filter fun r => s.covers r.toRow && r.sourceId ≠ .null :=
    List.mem_filter.mpr ⟨mem, by simp [covered, of_decide_eq_true text]⟩
  obtain ⟨j, read, -, text'⟩ := reads r own
  have same : j.id = i.id := Cell.text.inj (text'.symm.trans (of_decide_eq_true text))
  have found : (items.find? fun x => x.isKeyed && x.id = i.id).isSome = true := by
    rw [List.find?_isSome]
    refine ⟨j, (shows j).mpr ⟨r, own, read⟩, ?_⟩
    rw [Item.isKeyed, same]
    simpa [Item.isKeyed] using keyed
  obtain ⟨x, found⟩ := Option.isSome_iff_exists.mp found
  obtain ⟨r', own', read'⟩ := (shows x).mp (List.mem_of_find?_eq_some found)
  obtain ⟨x', again, family, -⟩ := reads r' own'
  obtain rfl := Except.ok.inj (read'.symm.trans again)
  rw [Snapshot.get?_retain, Snapshot.get?_ofList, found, Option.filter_some, if_pos (decide_eq_true family)]
  rfl

end Tidy

end Database

/-! All that stores do to a database. -/

/-- What becomes of the database when a store of this scope is called or the user does something there. -/
def Scope.Writes (s : Scope) (db db' : Database) : Prop :=
  (∃ e, db' = db.happen s e) ∨ ∃ r c, db' = ((Tables.mk s db c).answer r).2.database

/-- A database that was empty at first, and that only stores have written to. -/
def Database.Written : Database → Prop := Relation.ReflTransGen (fun db db' => ∃ s : Scope, s.Writes db db') {}

namespace Database

variable {db db' : Database} {s s' : Scope} {k : String}

theorem database_change (t : Tables) (x : Except Failure Database) :
    (t.change x).2.database = t.database ∨ x = .ok (t.change x).2.database := by
  cases x with
  | ok db => exact Or.inr rfl
  | error e => exact Or.inl rfl

/-- What a call does to the database. -/
theorem database_answer (r : Request) (c : Carrier) : ((Tables.mk s db c).answer r).2.database = db ∨
    (∃ as, r = .applyDevice as ∧ db.apply s as = .ok ((Tables.mk s db c).answer r).2.database) ∨
    (∃ i p, r = .storeContent i p ∧ db.storeContent s i p = .ok ((Tables.mk s db c).answer r).2.database) ∨
    ∃ l, r = .replaceMirror l ∧ ((Tables.mk s db c).answer r).2.database = db.replaceMirror s l := by
  cases r with
  | applyDevice as => exact (database_change ⟨s, db, c⟩ _).imp_right fun done => Or.inl ⟨as, rfl, done⟩
  | storeContent i p =>
    exact (database_change ⟨s, db, c⟩ _).imp_right fun done => Or.inr (Or.inl ⟨i, p, rfl, done⟩)
  | replaceMirror l => exact Or.inr (Or.inr (Or.inr ⟨l, rfl, rfl⟩))
  | listDevice | listCarrier | listMirror | applyCarrier | fetchContent => exact Or.inl rfl

theorem Tidy.answer (tidy : db.Tidy) (s : Scope) (r : Request) (c : Carrier) :
    ((Tables.mk s db c).answer r).2.database.Tidy := by
  rcases database_answer r c with same | ⟨as, -, done⟩ | ⟨i, p, -, done⟩ | ⟨l, -, done⟩
  · rw [same]
    exact tidy
  · exact tidy.apply done
  · exact tidy.storeContent done
  · rw [done]
    exact tidy.replaceMirror s l

theorem Tidy.writes (tidy : db.Tidy) (writes : s.Writes db db') : db'.Tidy := by
  rcases writes with ⟨e, rfl⟩ | ⟨r, c, rfl⟩
  · exact tidy.happen s e
  · exact tidy.answer s r c

theorem Written.tidy (written : db.Written) : db.Tidy := by
  induction written with
  | refl => exact .empty
  | tail _ writes ih => exact ih.writes writes.choose_spec

/-- No other store brings an item in. -/
theorem has_writes (other : s' ≠ s) (writes : s'.Writes db db') (left : db'.has s k = true) :
    db.has s k = true := by
  rcases writes with ⟨e, rfl⟩ | ⟨r, c, rfl⟩
  · exact has_happen e left
  · rcases database_answer r c with same | ⟨as, -, done⟩ | ⟨i, p, -, done⟩ | ⟨l, -, done⟩
    · rwa [same] at left
    · exact has_apply other done left
    · rwa [has_storeContent done] at left
    · rwa [done] at left

end Database

end MailboxSync.Table
