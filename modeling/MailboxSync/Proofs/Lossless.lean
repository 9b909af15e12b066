import MailboxSync.Proofs.Spelling
import MailboxSync.Wire.Codec

/-! What is written on the wire is read back as it was, and whatever is read is told by what is written for it. -/

namespace MailboxSync

namespace Wire

open Value (Fits)

/-- How the values of a type are written and read, with nothing lost: each is read as it was written, and what was read
in another spelling is written as one that is read the same and stays as it is. Whatever spells what is written for a
value plainly is read as that value, and whatever is read as a value spells it. -/
structure Lossless {α : Type} (write : α → Value) (read? : Value → Option α) : Prop where
  restores (x : α) : read? (write x) = some x
  settles (v w : Value) : (read? v).map write = some w → read? w = read? v ∧ (read? w).map write = some w
  reads (v : Value) (x : α) : v.Spells False (write x) → read? v = some x
  spelled (v : Value) (x : α) : read? v = some x → v.Spells True (write x)

namespace Lossless

variable {α : Type} {write : α → Value} {read? : Value → Option α} {o : Option Value} {x : α}

theorem of_spelling (reads : ∀ v x, v.Spells False (write x) → read? v = some x)
    (spelled : ∀ v x, read? v = some x → v.Spells True (write x)) : Lossless write read? := by
  have restores (x : α) : read? (write x) = some x := reads (write x) x (.same _)
  refine ⟨restores, fun v w written => ?_, reads, spelled⟩
  obtain ⟨x, read, rfl⟩ := Option.map_eq_some_iff.mp written
  rw [restores, read]
  exact ⟨rfl, rfl⟩

/-- A field that has to be there. -/
theorem of_fits (lossless : Lossless write read?) (something : write x ≠ .null) (fits : Fits False o (write x)) :
    ∃ v, o = some v ∧ read? v = some x := by
  obtain ⟨v, found, spells⟩ := fits.given something
  exact ⟨v, found, lossless.reads v x spells⟩

theorem fits (lossless : Lossless write read?) {v : Value} (read : read? v = some x) : Fits True (some v) (write x) :=
  (lossless.spelled v x read).fits

/-- A field that may be null or left out. -/
theorem optional_of_fits (lossless : Lossless write read?) {a : Option α} (something : ∀ x, write x ≠ .null)
    (unread : read? .null = none) (fits : Fits False o (a.elim .null write)) : Value.optional? read? o = some a := by
  cases a with
  | none =>
    obtain ⟨rfl, -⟩ | ⟨v, rfl, spells⟩ := fits
    · rfl
    · rw [spells.eq_of_ne nofun nofun]
      rfl
  | some x =>
    obtain ⟨v, rfl, read⟩ := lossless.of_fits (something x) fits
    cases v with
    | null => cases unread.symm.trans read
    | _ => exact congrArg (Option.map some) read

theorem fits_optional (lossless : Lossless write read?) {a : Option α} (read : Value.optional? read? o = some a) :
    Fits True o (a.elim .null write) := by
  unfold Value.optional? at read
  split at read
  · cases read
    exact Or.inl ⟨rfl, rfl⟩
  · cases read
    exact (Value.Spells.same _).fits
  · obtain ⟨x, told, rfl⟩ := Option.map_eq_some_iff.mp read
    exact lossless.fits told

/-- A type whose values have one spelling each. -/
theorem of_exact (exact : ∀ v x, read? v = some x ↔ v = write x)
    (only : ∀ v x, v.Spells False (write x) → v = write x) : Lossless write read? :=
  of_spelling (fun v x spells => (exact v x).mpr (only v x spells)) fun v x read => (exact v x).mp read ▸ .same _

theorem string : Lossless .string Value.string? :=
  of_exact (fun _ _ => Value.string?_eq_some_iff) fun _ _ spells => spells.eq_string

theorem bool : Lossless .bool Value.bool? :=
  of_exact (fun _ _ => Value.bool?_eq_some_iff) fun _ _ spells => spells.eq_of_ne nofun nofun

theorem word64 : Lossless (fun n : UInt64 => .integer n.toNat) Value.word64? :=
  of_exact (fun _ _ => Value.word64?_eq_some_iff) fun _ _ spells => spells.eq_of_ne nofun nofun

/-- A type whose values are told by their names. -/
theorem of_names {all : List α} {name : α → String} {name? : Value → Option String}
    (listed : ∀ x, all.find? (fun y => name y = name x) = some x) (plain : ∀ s, name? (.string s) = some s)
    (spelled : ∀ v s, name? v = some s → v.Spells True (.string s)) :
    Lossless (fun x => .string (name x)) fun v => (name? v).bind fun s => all.find? fun x => name x = s := by
  refine of_spelling (fun v x spells => ?_) fun v x read => ?_
  · rw [spells.eq_string, plain]
    exact listed x
  · obtain ⟨s, known, read⟩ := Option.bind_eq_some_iff.mp read
    have same : name x = s := by simpa using List.find?_some read
    exact same ▸ spelled v s known

end Lossless

end Wire

open Wire (Value Lossless)
open Wire.Value (Fits)

theorem GreetingType.lossless : Lossless toValue fun v => v.nameBesideTag?.bind ofName? :=
  .of_names ofName?_name (fun _ => rfl) fun _ _ => Value.spells_of_nameBesideTag?

theorem ActionKind.lossless : Lossless (fun k => .string k.wireName) ofValue? := by
  refine .of_names (fun k => ?_) (fun _ => rfl) fun _ _ => Value.spells_of_name?
  cases k <;> decide +kernel

theorem Target.lossless : Lossless (fun t => .string t.wireName) ofValue? := by
  refine .of_names (fun t => ?_) (fun _ => rfl) fun _ _ => Value.spells_of_name?
  cases t <;> decide +kernel

namespace ItemKind

theorem readGreeting?_of_fits {type active : Option Value} {t : GreetingType} {a : Bool}
    (ofType : Fits False type t.toValue) (ofActive : Fits False active (.bool a)) :
    readGreeting? type active = some (greeting t a) := by
  obtain ⟨_, rfl, read⟩ := GreetingType.lossless.of_fits nofun ofType
  obtain ⟨_, rfl, flag⟩ := Lossless.bool.of_fits nofun ofActive
  obtain ⟨name, told, known⟩ := Option.bind_eq_some_iff.mp read
  simp [readGreeting?, told, known, flag]

theorem fits_of_readGreeting? {type active : Option Value} {k : ItemKind} (read : readGreeting? type active = some k) :
    ∃ t a, k = greeting t a ∧ Fits True type t.toValue ∧ Fits True active (.bool a) := by
  simp only [readGreeting?, Option.bind_eq_bind, Option.bind_eq_some_iff] at read
  obtain ⟨_, rfl, name, told, t, known, _, rfl, a, flag, made⟩ := read
  cases made
  have type := GreetingType.lossless.fits (Option.bind_eq_some_iff.mpr ⟨name, told, known⟩)
  exact ⟨t, a, rfl, type, Lossless.bool.fits flag⟩

theorem lossless : Lossless toValue ofValue? := by
  refine .of_spelling (fun v k spells => ?_) fun v k read => ?_
  · cases k with
    | voicemail =>
      obtain ⟨fields, rfl, fits⟩ := spells.fields (by simp)
      simp only [List.forall_mem_cons] at fits
      simp only [ofValue?, fits.1.eq_string]
    | greeting t a =>
      obtain ⟨fields, rfl, fits⟩ := spells.fields (by simp)
      simp only [List.forall_mem_cons] at fits
      obtain ⟨tag, type, active, -⟩ := fits
      simp only [ofValue?, tag.eq_string]
      exact readGreeting?_of_fits type active
  · -- What is read goes by the tag, a field of an object or the head of an array.
    unfold ofValue? at read
    split at read
    · split at read
      · next tag =>
        cases read
        refine Value.spells_of_fields (List.forall_mem_cons.mpr ⟨?_, nofun⟩)
        exact tag ▸ (Value.Spells.same _).fits
      · next tag =>
        obtain ⟨t, a, rfl, type, active⟩ := fits_of_readGreeting? read
        refine Value.spells_of_fields ?_
        simp only [List.forall_mem_cons]
        exact ⟨tag ▸ (Value.Spells.same _).fits, type, active, nofun⟩
      · cases read
    · cases read
      exact Value.spells_of_values (.cons (.same _) .nil)
    · obtain ⟨t, a, rfl, type, active⟩ := fits_of_readGreeting? read
      exact Value.spells_of_values (.cons (.same _) (.cons type.spells (.cons active.spells .nil)))
    · cases read

end ItemKind

theorem Item.lossless : Lossless toValue ofValue? := by
  refine .of_spelling (fun v i spells => ?_) fun v i read => ?_
  · obtain ⟨fields, rfl, fits⟩ := spells.fields (by simp)
    simp only [List.forall_mem_cons] at fits
    obtain ⟨id, kind, isRead, hasContent, uri, contentLen, -⟩ := fits
    obtain ⟨_, foundKind, kind⟩ := ItemKind.lossless.of_fits (by cases i.kind <;> nofun) kind
    obtain ⟨_, foundRead, isRead⟩ := Lossless.bool.of_fits nofun isRead
    obtain ⟨_, foundContent, hasContent⟩ := Lossless.bool.of_fits nofun hasContent
    have uri := Lossless.string.optional_of_fits nofun rfl uri
    have contentLen := Lossless.word64.optional_of_fits nofun rfl contentLen
    simp [ofValue?, Value.record?, fieldNames, id.eq_string, Value.string?, foundKind, kind, foundRead, isRead,
      foundContent, hasContent, uri, contentLen]
  · simp only [ofValue?, Option.bind_eq_bind, Option.bind_eq_some_iff] at read
    obtain ⟨values, record, read⟩ := read
    split at read
    · simp only [Option.bind_eq_some_iff] at read
      obtain ⟨_, rfl, _, id, _, rfl, _, kind, _, rfl, _, isRead, _, rfl, _, hasContent, _, uri, _, contentLen,
        made⟩ := read
      cases made
      refine Value.spells_of_record? record ?_
      simp only [List.forall₂_cons]
      exact ⟨Lossless.string.fits id, ItemKind.lossless.fits kind, Lossless.bool.fits isRead,
        Lossless.bool.fits hasContent, Lossless.string.fits_optional uri, Lossless.word64.fits_optional contentLen,
        .nil⟩
    · cases read

theorem Action.lossless : Lossless toValue ofValue? := by
  refine .of_spelling (fun v a spells => ?_) fun v a read => ?_
  · obtain ⟨fields, rfl, fits⟩ := spells.fields (by simp)
    simp only [List.forall_mem_cons] at fits
    obtain ⟨kind, target, item, -⟩ := fits
    obtain ⟨_, foundKind, kind⟩ := ActionKind.lossless.of_fits nofun kind
    obtain ⟨_, foundTarget, target⟩ := Target.lossless.of_fits nofun target
    obtain ⟨_, foundItem, item⟩ := Item.lossless.of_fits nofun item
    simp [ofValue?, Value.record?, foundKind, kind, foundTarget, target, foundItem, item]
  · simp only [ofValue?, Option.bind_eq_bind, Option.bind_eq_some_iff] at read
    obtain ⟨values, record, read⟩ := read
    split at read
    · simp only [Option.bind_eq_some_iff] at read
      obtain ⟨_, rfl, _, kind, _, rfl, _, target, _, rfl, _, item, made⟩ := read
      cases made
      refine Value.spells_of_record? record ?_
      simp only [List.forall₂_cons]
      exact ⟨ActionKind.lossless.fits kind, Target.lossless.fits target, Item.lossless.fits item, .nil⟩
    · cases read

namespace Failure

/-- A cause that carries only a text is told by its tag and the text. -/
theorem ofText?_eq_some_iff {tag text : String} {e : Failure} :
    ofText? tag text = some e ↔ e.tag = tag ∧ e.content = .string text := by
  constructor
  · intro read
    unfold ofText? at read
    split at read <;> cases read <;> exact ⟨rfl, rfl⟩
  · rintro ⟨rfl, carries⟩
    cases e <;> cases carries <;> rfl

theorem ofContent?_of_spells {v : Value} {e : Failure} (spells : v.Spells False e.content) :
    ofContent? e.tag v = some e := by
  cases e with
  | snapshotFetch store m =>
    obtain ⟨fields, rfl, fits⟩ := spells.fields (by simp)
    simp only [List.forall_mem_cons] at fits
    simp [ofContent?, tag, Value.field?, fits.1.eq_string, fits.2.1.eq_string, Value.string?]
  | remoteAction action id m =>
    obtain ⟨fields, rfl, fits⟩ := spells.fields (by simp)
    simp only [List.forall_mem_cons] at fits
    simp [ofContent?, tag, Value.field?, fits.1.eq_string, fits.2.1.eq_string, fits.2.2.1.eq_string, Value.string?]
  | _ =>
    -- All others carry a text.
    rw [spells.eq_string]
    rfl

theorem spells_of_ofContent? {tag : String} {v : Value} {e : Failure} (read : ofContent? tag v = some e) :
    e.tag = tag ∧ v.Spells True e.content := by
  simp only [ofContent?, Option.bind_eq_bind] at read
  split at read
  · simp only [Option.bind_eq_some_iff] at read
    obtain ⟨_, ⟨_, found, store⟩, _, ⟨_, found', m⟩, made⟩ := read
    cases made
    refine ⟨rfl, Value.spells_of_field? found ?_⟩
    simp only [List.forall_mem_cons, found, found']
    exact ⟨Lossless.string.fits store, Lossless.string.fits m, nofun⟩
  · simp only [Option.bind_eq_some_iff] at read
    obtain ⟨_, ⟨_, found, action⟩, _, ⟨_, found', id⟩, _, ⟨_, found'', m⟩, made⟩ := read
    cases made
    refine ⟨rfl, Value.spells_of_field? found ?_⟩
    simp only [List.forall_mem_cons, found, found', found'']
    exact ⟨Lossless.string.fits action, Lossless.string.fits id, Lossless.string.fits m, nofun⟩
  · obtain ⟨text, told, read⟩ := Option.bind_eq_some_iff.mp read
    obtain ⟨rfl, carries⟩ := ofText?_eq_some_iff.mp read
    exact ⟨rfl, carries ▸ Lossless.string.spelled v text told⟩

theorem lossless : Lossless toValue ofValue? := by
  refine .of_spelling (fun v e spells => ?_) fun v e read => ?_
  · obtain ⟨fields, rfl, fits⟩ := spells.fields (by simp)
    simp only [List.forall_mem_cons] at fits
    obtain ⟨tag, content, -⟩ := fits
    obtain ⟨u, found, spells⟩ := content.given (by cases e <;> nofun)
    simp [ofValue?, Value.field?, tag.eq_string, Value.name?, found, ofContent?_of_spells spells]
  · unfold ofValue? at read
    split at read
    · obtain ⟨rfl, spells⟩ := spells_of_ofContent? read
      exact Value.spells_of_values (.cons (.same _) (.cons spells .nil))
    · simp only [Option.bind_eq_bind, Option.bind_eq_some_iff] at read
      obtain ⟨_, found, tag, name, content, found', read⟩ := read
      obtain ⟨rfl, spells⟩ := spells_of_ofContent? read
      refine Value.spells_of_field? found ?_
      simp only [List.forall_mem_cons, found, found']
      exact ⟨(Value.spells_of_name? name).fits, spells.fits, nofun⟩

end Failure

/-- Items, what only one family has, actions and failures all go over the wire and back with nothing lost. -/
theorem Wire.forms_lossless :
    Lossless ItemKind.toValue ItemKind.ofValue? ∧ Lossless Item.toValue Item.ofValue? ∧
      Lossless Action.toValue Action.ofValue? ∧ Lossless Failure.toValue Failure.ofValue? :=
  ⟨ItemKind.lossless, Item.lossless, Action.lossless, Failure.lossless⟩

/-- A field that nobody knows, a type on a voicemail, a locator left out and a length that is null do not come back. -/
example :
    (Item.ofValue? (.object [("seen", .bool true), ("source_id", .string "m1"), ("content_len", .null),
      ("kind", .object [("kind", .string "voicemail"), ("greeting_type", .integer 5)]),
      ("is_read", .bool true), ("has_content", .bool false)])).map Item.toValue =
    some (.object [("source_id", .string "m1"), ("kind", .object [("kind", .string "voicemail")]),
      ("is_read", .bool true), ("has_content", .bool false), ("uri", .null), ("content_len", .null)]) := rfl

end MailboxSync
