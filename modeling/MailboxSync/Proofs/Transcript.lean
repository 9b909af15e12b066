import MailboxSync.Proofs.CycleParts

namespace MailboxSync

open Program (Ends)

/-- A call and what it was answered. -/
structure Exchange where
  request : Request
  answer : request.Answer

/-- The calls that were made, in their order. -/
abbrev Transcript := List Exchange

/-- The calls by which commands are carried out. -/
def Method.isErrand : Method → Bool
  | applyCarrier | fetchContent | storeContent => true
  | _ => false

namespace Exchange

def method (x : Exchange) : Method := x.request.method

def failed (x : Exchange) : Bool := !x.answer.isOk

/-- The command for which the carrier was called. -/
def command? (x : Exchange) : Option Action :=
  match x.request with
  | .applyCarrier a => some a
  | .fetchContent i => some ⟨.fetchContent, .carrier, i⟩
  | .listDevice | .listCarrier | .listMirror | .applyDevice _ | .storeContent _ _ | .replaceMirror _ => none

/-- The command that has been carried out with this exchange. Content has been fetched once it is kept. -/
def fulfilled? (x : Exchange) : Option Action :=
  if x.failed then none
  else
    match x.request with
    | .applyCarrier a => some a
    | .storeContent i _ => some ⟨.fetchContent, .carrier, i⟩
    | .listDevice | .listCarrier | .listMirror | .applyDevice _ | .fetchContent _ | .replaceMirror _ => none

/-- The name for which the device has been given content with this exchange. -/
def stored? (x : Exchange) : Option String :=
  if x.failed then none
  else
    match x.request with
    | .storeContent i _ => some i.id
    | .listDevice | .listCarrier | .listMirror | .applyDevice _ | .applyCarrier _ | .fetchContent _
    | .replaceMirror _ => none

theorem stored?_of_not_errand {x : Exchange} (other : x.method.isErrand = false) : x.stored? = none := by
  obtain ⟨request, answer⟩ := x
  cases request with
  | storeContent => cases other
  | _ => exact ite_self none

end Exchange

namespace Transcript

/-- The commands that were tried. -/
def commands (t : Transcript) : List Action := t.filterMap Exchange.command?

/-- The commands that were carried out. -/
def fulfilled (t : Transcript) : List Action := t.filterMap Exchange.fulfilled?

/-- The names for which content was stored. -/
def stored (t : Transcript) : List String := t.filterMap Exchange.stored?

/-- The three stores have been listed. -/
def listings (device carrier mirror : Snapshot) : Transcript :=
  [⟨.listDevice, .ok device⟩, ⟨.listCarrier, .ok carrier⟩, ⟨.listMirror, .ok mirror⟩]

/-- It opens with three listings. -/
def Lists (t : Transcript) (device carrier mirror : Snapshot) : Prop :=
  listings device carrier mirror <+: t

theorem commands_append (t u : Transcript) : commands (t ++ u) = commands t ++ commands u :=
  List.filterMap_append

theorem Lists.append {t : Transcript} {d c m : Snapshot} (lists : t.Lists d c m) (u : Transcript) :
    Lists (t ++ u) d c m := lists.trans (List.prefix_append t u)

/-- The stores may answer what they like. Each call is taken down. -/
def takesDown : Reaction Transcript := fun r t x t' => t' = t ++ [⟨r, x⟩]

/-- A handler that takes down what it answers. -/
def scribe {σ : Type} (handle : (r : Request) → σ → r.Answer × σ) (r : Request) (s : σ × Transcript) :
    r.Answer × σ × Transcript :=
  let (x, s') := handle r s.1
  (x, s', s.2 ++ [⟨r, x⟩])

theorem ends_scribe {σ α : Type} (handle : (r : Request) → σ → r.Answer × σ) (q : Program α)
    (s : σ × Transcript) : Ends takesDown q s.2 (q.run (scribe handle) s).1 (q.run (scribe handle) s).2.2 := by
  induction q generalizing s with
  | done a => exact .done
  | call r next ih => exact .call rfl (ih _ (scribe handle r s).2)

/-- What is taken down of a program is among what it may come to ask for. -/
theorem asked_of_ends {α : Type} {P : Request → Prop} {q : Program α} {t u : Transcript} {x : α} (asks : q.Asks P)
    (ends : Ends takesDown q t x u) : ∃ w : Transcript, u = t ++ w ∧ ∀ y ∈ w, P y.request := by
  induction ends with
  | done => exact ⟨[], (List.append_nil _).symm, by simp⟩
  | @call r _ t x t' _ _ reply _ ih =>
    obtain ⟨w, rfl, later⟩ := ih (asks.2 x)
    have first : t' = t ++ [⟨r, x⟩] := reply
    subst first
    refine ⟨⟨r, x⟩ :: w, List.append_assoc .., ?_⟩
    intro y mem
    rcases List.mem_cons.mp mem with rfl | mem
    · exact asks.1
    · exact later y mem

end Transcript

open Transcript

variable {t u : Transcript}

/-- The calls `v` were made for the commands `as`, and what is taken down in `o` is true of them. -/
structure Recounted (as : List Action) (o : CarrierOutcome) (v : Transcript) : Prop where
  commands : v.commands = as.filter fun a => a.isValidFor .carrier
  fulfilled : v.fulfilled = o.completed
  stored : v.stored = (o.completed.filter fun a => a.kind = .fetchContent).map Action.id
  failures : ∀ f ∈ o.failures, ∃ kind id message, f.2 = .remoteAction kind id message
  errands : ∀ y ∈ v, y.method.isErrand = true

namespace Recounted

variable {as bs : List Action} {o o' : CarrierOutcome} {v w : Transcript}

theorem nil : Recounted [] {} [] := ⟨rfl, rfl, rfl, by simp, by simp⟩

/-- What is true of two stretches is true of the one after the other. -/
theorem append (first : Recounted as o v) (second : Recounted bs o' w) :
    Recounted (as ++ bs) (o ++ o') (v ++ w) where
  commands := by rw [commands_append, first.commands, second.commands, List.filter_append]
  fulfilled := by
    have both : Transcript.fulfilled (v ++ w) = v.fulfilled ++ w.fulfilled := List.filterMap_append
    rw [both, first.fulfilled, second.fulfilled, CarrierOutcome.completed_append]
  stored := by
    have both : Transcript.stored (v ++ w) = v.stored ++ w.stored := List.filterMap_append
    rw [both, first.stored, second.stored, CarrierOutcome.completed_append, List.filter_append, List.map_append]
  failures := fun f mem => (List.mem_append.mp mem).elim (first.failures f) (second.failures f)
  errands := fun y mem => (List.mem_append.mp mem).elim (first.errands y) (second.errands y)

end Recounted

theorem Failure.asRemoteAction_eq (action id : String) (e : Failure) :
    ∃ kind id' message, e.asRemoteAction action id = .remoteAction kind id' message := by
  cases e <;> exact ⟨_, _, _, rfl⟩

namespace Action

variable {a : Action}

theorem eq_fetch (valid : a.isValidFor .carrier = true) (kind : a.kind = .fetchContent) :
    ⟨.fetchContent, .carrier, a.item⟩ = a := by
  obtain ⟨_, target, item⟩ := a
  simp only [isValidFor, Bool.and_eq_true, decide_eq_true_eq] at valid
  obtain rfl : target = .carrier := valid.1
  cases kind
  rfl

/-- The calls a command comes down to tell whether it was carried out. -/
theorem Executes.recounted {x : Except Failure Unit} (executes : Executes takesDown a t x u) :
    ∃ v : Transcript, u = t ++ v ∧ v.commands = [a].filter (fun a => a.isValidFor .carrier) ∧
      v.fulfilled = (if x.isOk then [a] else []) ∧
      v.stored = (if x.isOk ∧ a.kind = .fetchContent then [a.id] else []) ∧
      ∀ y ∈ v, y.method.isErrand = true := by
  cases executes with
  | misplaced invalid => exact ⟨[], by simp, by simp [commands, invalid], rfl, rfl, by simp⟩
  | command valid kind reply =>
    refine ⟨_, reply, by simp [commands, Exchange.command?, valid], ?_, ?_,
      by simp [Exchange.method, Request.method, Method.isErrand]⟩
    · cases x <;> rfl
    · simp [stored, Exchange.stored?, kind]
  | withheld valid kind reply =>
    refine ⟨_, reply, ?_, rfl, rfl, by simp [Exchange.method, Request.method, Method.isErrand]⟩
    simp [commands, Exchange.command?, eq_fetch valid kind, valid]
  | @fetched p _ _ _ valid kind reply kept =>
    refine ⟨[⟨.fetchContent a.item, .ok p⟩, ⟨.storeContent a.item p, x⟩], ?_, ?_, ?_, ?_,
      by simp [Exchange.method, Request.method, Method.isErrand]⟩
    · rw [takesDown] at reply kept
      rw [kept, reply, List.append_assoc]
      rfl
    · simp [commands, Exchange.command?, eq_fetch valid kind, valid]
    · cases x with
      | ok _ => exact congrArg (fun b => [b]) (eq_fetch valid kind)
      | error e => rfl
    · cases x <;> simp [kind, stored, Exchange.stored?, Exchange.failed, Except.isOk, Except.toBool, id]

theorem Executes.recounted_record {x : Except Failure Unit} (executes : Executes takesDown a t x u) :
    ∃ v, u = t ++ v ∧ Recounted [a] (({} : CarrierOutcome).record a x) v := by
  obtain ⟨v, rfl, commands, fulfilled, stored, errands⟩ := executes.recounted
  refine ⟨v, rfl, commands, ?_, ?_, ?_, errands⟩
  · cases x <;> exact fulfilled
  · rw [stored]
    cases x with
    | ok _ =>
      by_cases kind : a.kind = .fetchContent <;> simp [kind, CarrierOutcome.record, Except.isOk, Except.toBool]
    | error e => rfl
  · intro f mem
    cases x with
    | ok _ => cases mem
    | error e =>
      obtain rfl := List.mem_singleton.mp mem
      exact e.asRemoteAction_eq _ _

/-- A sequence of commands is tried one after the other, and what is reported of it is what happened. -/
theorem recounted_of_ends {as : List Action} {o : CarrierOutcome} (ends : Ends takesDown (attemptAll as) t o u) :
    ∃ v, u = t ++ v ∧ Recounted as o v := by
  induction as generalizing t o with
  | nil =>
    obtain ⟨rfl, rfl⟩ := Program.ends_pure_iff.mp ends
    exact ⟨[], by simp, .nil⟩
  | cons a rest ih =>
    obtain ⟨x, w, o', rfl, first, later⟩ := attemptAll_cases ends
    obtain ⟨v₁, rfl, one⟩ := (executes_of_ends first).recounted_record
    obtain ⟨v₂, rfl, others⟩ := ih later
    exact ⟨v₁ ++ v₂, by rw [List.append_assoc], one.append others⟩

/-- Of all commands each is tried, and no call is made that is not for one of them. -/
theorem errands_of_ends {as : List Action} (valid : ∀ a ∈ as, a.isValidFor .carrier = true)
    {o : CarrierOutcome} (ends : Ends takesDown (attemptAll as) t o u) :
    ∃ v : Transcript, u = t ++ v ∧ v.commands = as ∧ ∀ y ∈ v, y.method.isErrand = true := by
  obtain ⟨v, rfl, recounted⟩ := recounted_of_ends ends
  exact ⟨v, rfl, recounted.commands.trans (List.filter_eq_self.mpr valid), recounted.errands⟩

end Action

namespace Policy

variable {p : Policy} {e : Failure}

/-- What a cycle has done and left undone when it fails with this failure. -/
def FailsWith (p : Policy) (t : Transcript) : Failure → Prop
  | .snapshotFetch _ _ => ∀ x ∈ t, x.method.isListing = true
  | .localTransaction _ => ∃ d c m, t.Lists d c m ∧ t.commands = (p.planned d c m).carrier.toList ∧
      ∀ x ∈ t, x.method ≠ .replaceMirror
  | .mirrorUpdate _ => ∃ d c m, t.Lists d c m ∧ t.commands = (p.planned d c m).carrier.toList ∧
      ((p.planned d c m).device.toList = [] ∨
        ⟨.applyDevice (p.planned d c m).device.toList, .ok ()⟩ ∈ t)
  | _ => False

theorem failsWith_asSnapshotFetch (store : String) (listing : ∀ x ∈ t, x.method.isListing = true) :
    p.FailsWith t (e.asSnapshotFetch store) := by
  cases e <;> exact listing

theorem failsWith_asLocalTransaction {d c m : Snapshot} (lists : t.Lists d c m)
    (commands : t.commands = (p.planned d c m).carrier.toList) (unrenewed : ∀ x ∈ t, x.method ≠ .replaceMirror) :
    p.FailsWith t e.asLocalTransaction := by
  cases e <;> exact ⟨d, c, m, lists, commands, unrenewed⟩

theorem ne_replaceMirror_of_errand {x : Exchange} (errand : x.method.isErrand = true) :
    x.method ≠ .replaceMirror := by
  intro same
  rw [same] at errand
  cases errand

section

variable {d c m : Snapshot} {s v : Transcript} {o : DeviceOutcome}

/-- After a transaction that was taken back the commands are tried all the same. -/
theorem failsWith_of_rolledBack
    (committed : Ends takesDown (p.planned d c m).device.commit (listings d c m) (.rolledBack e) s)
    (commands : v.commands = (p.planned d c m).carrier.toList) (errands : ∀ y ∈ v, y.method.isErrand = true) :
    p.FailsWith (s ++ v) e ∧ ∃ x ∈ s ++ v, x.failed = true ∧ x.method.isErrand = false := by
  rcases ActionList.commit_cases isValidFor_device_of_planned committed with
    ⟨_, skipped, _⟩ | ⟨_, done⟩ | ⟨f, refused, failed⟩
  · cases skipped
  · cases done
  · cases failed
    cases refused
    refine ⟨failsWith_asLocalTransaction (d := d) (c := c) (m := m) ?_ ?_ ?_, _,
      List.mem_append_left _ (List.mem_append_right _ List.mem_cons_self), rfl, rfl⟩
    · exact (Lists.append (List.prefix_refl _) _).append v
    · exact commands
    · intro y mem
      rcases List.mem_append.mp mem with mem | mem
      · simp only [listings, List.cons_append, List.nil_append, List.mem_cons, List.not_mem_nil, or_false]
          at mem
        rcases mem with rfl | rfl | rfl | rfl <;> simp [Exchange.method, Request.method]
      · exact ne_replaceMirror_of_errand (errands y mem)

/-- Before the mirror is written the transaction was committed, or there was none. -/
theorem failsWith_of_unrenewed {listing : Snapshot} {f : Failure} (settled : o.isSettled = true)
    (committed : Ends takesDown (p.planned d c m).device.commit (listings d c m) o s)
    (commands : v.commands = (p.planned d c m).carrier.toList) :
    p.FailsWith (s ++ v ++ [⟨.replaceMirror listing, .error f⟩]) (.mirrorUpdate f.message) := by
  obtain ⟨lists, silent, done⟩ : s.Lists d c m ∧ s.commands = [] ∧
      ((p.planned d c m).device.toList = [] ∨
        ⟨.applyDevice (p.planned d c m).device.toList, .ok ()⟩ ∈ s) := by
    rcases ActionList.commit_cases isValidFor_device_of_planned committed with
      ⟨nothing, _, rfl⟩ | ⟨done, _⟩ | ⟨_, _, failed⟩
    · exact ⟨List.prefix_refl _, rfl, Or.inl nothing⟩
    · cases done
      exact ⟨⟨_, rfl⟩, rfl, Or.inr (List.mem_append_right _ List.mem_cons_self)⟩
    · rw [failed] at settled
      cases settled
  refine ⟨d, c, m, (lists.append v).append _, ?_, ?_⟩
  · rw [commands_append, commands_append, silent, commands]
    exact List.append_nil _
  · exact done.imp_right fun mem => List.mem_append_left _ (List.mem_append_left _ mem)

end

/-- A cycle fails for one of three reasons, and how far it has come is known from the reason. It never
fails on account of commands alone. -/
theorem failed_cycle_accounts (ends : Ends takesDown p.cycle [] (.error e) t) :
    p.FailsWith t e ∧ ∃ x ∈ t, x.failed = true ∧ x.method.isErrand = false := by
  generalize outcome : Except.error e = x at ends
  cases passes_of_ends ends with
  | noDevice first =>
    cases outcome
    cases first
    exact ⟨failsWith_asSnapshotFetch _ (by simp [Exchange.method, Request.method, Method.isListing]),
      _, List.mem_cons_self, rfl, rfl⟩
  | noCarrier first second =>
    cases outcome
    cases first
    cases second
    exact ⟨failsWith_asSnapshotFetch _ (by simp [Exchange.method, Request.method, Method.isListing]),
      _, List.mem_cons_of_mem _ List.mem_cons_self, rfl, rfl⟩
  | noMirror first second third =>
    cases outcome
    cases first
    cases second
    cases third
    exact ⟨failsWith_asSnapshotFetch _ (by simp [Exchange.method, Request.method, Method.isListing]),
      _, List.mem_cons_of_mem _ (List.mem_cons_of_mem _ List.mem_cons_self), rfl, rfl⟩
  | @through d _ c _ m _ o s₄ sent s₅ _ _ first second third committed attempted concluded =>
    cases first
    cases second
    cases third
    obtain ⟨v, rfl, commands, errands⟩ :=
      Action.errands_of_ends isValidFor_carrier_of_planned attempted
    rcases conclude_cases concluded with ⟨e', rolledBack, rfl, rfl⟩ | ⟨settled, ⟨_, rfl⟩ | ⟨f, renewal, rfl⟩⟩
    · cases outcome
      cases rolledBack
      exact failsWith_of_rolledBack committed commands errands
    · cases outcome
    · cases outcome
      cases renewal
      exact ⟨failsWith_of_unrenewed settled committed commands,
        _, List.mem_append_right _ List.mem_cons_self, rfl, rfl⟩

/-- A message waits at the carrier, and the database beside the mirror is full. -/
def brimful : Memory where
  carrier := ({} : Carrier).seed [.voicemail "a"]
  mirror := { replaceFault := some "disk full" }

theorem brimful_accounts :
    ∃ t, Ends takesDown fullSync.cycle [] (.error (.mirrorUpdate "Database error: disk full")) t ∧
      fullSync.FailsWith t (.mirrorUpdate "Database error: disk full") ∧
      ∃ x ∈ t, x.failed = true ∧ x.method.isErrand = false := by
  have ends := ends_scribe Memory.answer fullSync.cycle (brimful, [])
  have outcome : (fullSync.cycle.run (scribe Memory.answer) (brimful, [])).1 =
      .error (.mirrorUpdate "Database error: disk full") := by decide +kernel
  rw [outcome] at ends
  exact ⟨_, ends, failed_cycle_accounts ends⟩

end Policy

end MailboxSync
