import Mathlib.Data.List.Forall2
import MailboxSync.Wire.Value

/-! When one value on the wire spells another. -/

namespace MailboxSync

namespace Wire

namespace Value

/-- What a value spells. The fields of an object may come in any order and others beside them, and one that is null may
be left out. Where the spelling may be loose, the values of an object may also come as an array, in their order, and a
name as the only field of an object. -/
inductive Spells (loose : Prop) : Value → Value → Prop
  | same (v : Value) : Spells loose v v
  | object {fields cells : List (String × Value)}
      (given : ∀ c : String × Value, c ∈ cells → c.2 = null ∨ (fields.lookup c.1).isSome = true)
      (spells : ∀ (c : String × Value) (v : Value), c ∈ cells → fields.lookup c.1 = some v → Spells loose v c.2) :
      Spells loose (object fields) (object cells)
  | array {values : List Value} {cells : List (String × Value)} (permitted : loose)
      (length : values.length = cells.length)
      (spells : ∀ (v : Value) (c : String × Value), (v, c) ∈ values.zip cells → Spells loose v c.2) :
      Spells loose (array values) (object cells)
  | name (permitted : loose) (s : String) : Spells loose (object [(s, null)]) (string s)
  | emptyName (permitted : loose) (s : String) : Spells loose (object [(s, object [])]) (string s)

/-- What is found under a name fits a value: it spells the value, or there is nothing and the value is null. -/
def Fits (loose : Prop) (o : Option Value) (w : Value) : Prop :=
  o = none ∧ w = null ∨ ∃ v, o = some v ∧ v.Spells loose w

variable {loose : Prop} {o : Option Value} {v w : Value}

theorem Spells.fits (spells : v.Spells loose w) : Fits loose (some v) w :=
  Or.inr ⟨v, rfl, spells⟩

theorem Fits.spells (fits : Fits loose (some v) w) : v.Spells loose w := by
  obtain ⟨missing, -⟩ | ⟨v, found, spells⟩ := fits
  · cases missing
  · cases found
    exact spells

theorem Fits.given (fits : Fits loose o w) (something : w ≠ null) : ∃ v, o = some v ∧ v.Spells loose w :=
  fits.resolve_left fun nothing => something nothing.2

theorem Spells.eq_string {s : String} (spells : v.Spells False (.string s)) : v = .string s := by
  cases spells with
  | same => rfl
  | name permitted => exact permitted.elim
  | emptyName permitted => exact permitted.elim

/-- Only texts and objects are spelled in more than one way. -/
theorem Spells.eq_of_ne (spells : v.Spells loose w) (noText : ∀ s, w ≠ .string s)
    (noObject : ∀ cells, w ≠ .object cells) : v = w := by
  cases spells with
  | same => rfl
  | object => exact absurd rfl (noObject _)
  | array => exact absurd rfl (noObject _)
  | name => exact absurd rfl (noText _)
  | emptyName => exact absurd rfl (noText _)

theorem Fits.eq_string {s : String} (fits : Fits False o (.string s)) : o = some (.string s) := by
  obtain ⟨v, rfl, spells⟩ := fits.given nofun
  rw [spells.eq_string]

theorem lookup_of_mem {cells : List (String × Value)} (distinct : (cells.map Prod.fst).Nodup) {c : String × Value}
    (mem : c ∈ cells) : cells.lookup c.1 = some c.2 := by
  induction cells with
  | nil => cases mem
  | cons d rest ih =>
    rw [List.map_cons, List.nodup_cons] at distinct
    rcases List.mem_cons.mp mem with rfl | later
    · exact List.lookup_cons_self
    · have other : c.1 ≠ d.1 := fun same => distinct.1 (same ▸ List.mem_map_of_mem later)
      rw [List.lookup_cons, beq_false_of_ne other]
      exact ih distinct.2 later

/-- What spells an object plainly is an object, and what it has under each name fits what is there. -/
theorem Spells.fields {cells : List (String × Value)} (spells : v.Spells False (.object cells))
    (distinct : (cells.map Prod.fst).Nodup) :
    ∃ fields, v = .object fields ∧ ∀ c ∈ cells, Fits False (fields.lookup c.1) c.2 := by
  cases spells with
  | same => exact ⟨cells, rfl, fun c mem => lookup_of_mem distinct mem ▸ (Spells.same c.2).fits⟩
  | @object fields _ given spells =>
    refine ⟨fields, rfl, fun c mem => ?_⟩
    cases found : fields.lookup c.1 with
    | none => exact Or.inl ⟨rfl, (given c mem).resolve_right (by simp [found])⟩
    | some v => exact (spells c v mem found).fits
  | array permitted => exact permitted.elim

theorem spells_of_fields {fields cells : List (String × Value)}
    (fits : ∀ c ∈ cells, Fits True (fields.lookup c.1) c.2) : (object fields).Spells True (object cells) := by
  refine .object (fun c mem => ?_) fun c v mem found => ?_
  · rcases fits c mem with ⟨-, nothing⟩ | ⟨v, found, -⟩
    · exact Or.inl nothing
    · exact Or.inr (by rw [found]; rfl)
  · have fits := fits c mem
    rw [found] at fits
    exact fits.spells

theorem spells_of_values {values : List Value} {cells : List (String × Value)}
    (spells : List.Forall₂ (fun v c => v.Spells True c.2) values cells) : (array values).Spells True (object cells) :=
  .array trivial spells.length_eq fun _ _ mem => (List.forall₂_iff_zip.mp spells).2 mem

/-- The values of a record spell the record. -/
theorem spells_of_record? {cells : List (String × Value)} {os : List (Option Value)}
    (record : v.record? (cells.map Prod.fst) = some os)
    (fits : List.Forall₂ (fun o c => Fits True o c.2) os cells) : v.Spells True (object cells) := by
  cases v with
  | object fields =>
    cases record
    rw [List.map_map, List.forall₂_map_left_iff, List.forall₂_same] at fits
    exact spells_of_fields fits
  | array values =>
    simp only [record?] at record
    split at record
    · cases record
      exact spells_of_values ((List.forall₂_map_left_iff.mp fits).imp fun _ _ => Fits.spells)
    · cases record
  | _ => cases record

theorem spells_of_field? {k : String} {u : Value} {cells : List (String × Value)} (found : v.field? k = some u)
    (fits : ∀ c ∈ cells, Fits True (v.field? c.1) c.2) : v.Spells True (object cells) := by
  cases v with
  | object fields => exact spells_of_fields fits
  | _ => cases found

theorem string?_eq_some_iff {s : String} : v.string? = some s ↔ v = string s := by
  cases v <;> simp [string?]

theorem bool?_eq_some_iff {b : Bool} : v.bool? = some b ↔ v = bool b := by
  cases v <;> simp [bool?]

theorem word64?_eq_some_iff {n : UInt64} : v.word64? = some n ↔ v = integer n.toNat := by
  cases v with
  | integer m =>
    simp only [word64?, integer.injEq]
    constructor
    · intro read
      split at read
      · next bounds =>
        cases read
        rw [Nat.toUInt64, UInt64.toNat_ofNat_of_lt' (by omega)]
        omega
      · cases read
    · rintro rfl
      have bound := n.toNat_lt
      rw [if_pos ⟨by omega, by simp only [UInt64.size]; omega⟩]
      simp
  | _ => simp [word64?]

theorem spells_of_name? {s : String} (read : v.name? = some s) : v.Spells True (string s) := by
  unfold name? at read
  split at read <;> cases read
  · exact .same _
  · exact .name trivial s

theorem spells_of_nameBesideTag? {s : String} (read : v.nameBesideTag? = some s) : v.Spells True (string s) := by
  unfold nameBesideTag? at read
  split at read <;> cases read
  · exact .same _
  · exact .name trivial s
  · exact .emptyName trivial s

end Value

end Wire

end MailboxSync
