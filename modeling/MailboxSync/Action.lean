import MailboxSync.Item

namespace MailboxSync

/-- The store an action is carried out on: the device, or the carrier at the far end. -/
inductive Target where
  | device
  | carrier
deriving DecidableEq, Repr

def Target.name : Target → String
  | .device => "local"
  | .carrier => "remote"

inductive ActionKind where
  | insert
  | delete
  | markAsRead
  | fetchContent
deriving DecidableEq, Repr

namespace ActionKind

def name : ActionKind → String
  | insert => "insert"
  | delete => "delete"
  | markAsRead => "mark_as_read"
  | fetchContent => "fetch_content"

/-- New items arise on the carrier only, and content comes from there. -/
def isValidFor : ActionKind → Target → Bool
  | insert, .device => true
  | insert, .carrier => false
  | delete, _ => true
  | markAsRead, _ => true
  | fetchContent, .device => false
  | fetchContent, .carrier => true

end ActionKind

/-- One thing to do to one item in one store. An action is a value; carrying it out is another
matter. -/
structure Action where
  kind : ActionKind
  target : Target
  item : Item
deriving DecidableEq, Repr

namespace Action

def id (a : Action) : String := a.item.id

/-- The text of an action, `kind(target, id)`. -/
def render (a : Action) : String :=
  a.kind.name ++ "(" ++ a.target.name ++ ", " ++ a.id ++ ")"

def isValidFor (a : Action) (t : Target) : Bool := a.target = t && a.kind.isValidFor t

/-- Two actions are the same when they do the same thing to the same item, whatever else they
know of it. -/
def sameAs (a b : Action) : Bool := a.kind = b.kind && a.target = b.target && a.id = b.id

theorem sameAs_refl (a : Action) : a.sameAs a = true := by simp [sameAs]

end Action

/-- Actions in the order they are to be carried out, none of them twice. -/
structure ActionList where
  toList : List Action
  distinct : toList.Pairwise fun a b => a.sameAs b = false

namespace ActionList

instance : DecidableEq ActionList := fun a b =>
  decidable_of_iff (a.toList = b.toList) ⟨fun h => by cases a; cases b; cases h; rfl, fun h => h ▸ rfl⟩

def empty : ActionList := ⟨[], .nil⟩

instance : Inhabited ActionList := ⟨empty⟩

def isEmpty (l : ActionList) : Bool := l.toList.isEmpty

def size (l : ActionList) : Nat := l.toList.length

/-- The list does not ask for this action yet. -/
def accepts (l : ActionList) (a : Action) : Bool := l.toList.all fun b => !b.sameAs a

/-- Appends an action, unless the list asks for it already. -/
def push (l : ActionList) (a : Action) : ActionList :=
  if h : l.accepts a then
    ⟨l.toList ++ [a], List.pairwise_append.2 ⟨l.distinct, List.pairwise_singleton _ _, by
      intro b hb c hc
      obtain rfl := List.mem_singleton.1 hc
      simpa using List.all_eq_true.1 h b hb⟩⟩
  else l

theorem toList_push (l : ActionList) (a : Action) :
    (l.push a).toList = if l.accepts a then l.toList ++ [a] else l.toList := by
  unfold push
  split <;> simp_all

def ofList (actions : List Action) : ActionList := actions.foldl push empty

def count (l : ActionList) (k : ActionKind) : Nat := (l.toList.filter fun a => a.kind = k).length

end ActionList

/-- What a cycle is going to do, store by store. -/
structure Plan where
  device : ActionList
  carrier : ActionList
deriving DecidableEq

namespace Plan

def empty : Plan := ⟨.empty, .empty⟩

/-- Hands an action to the list of its target. -/
def push (p : Plan) (a : Action) : Plan :=
  match a.target with
  | .device => { p with device := p.device.push a }
  | .carrier => { p with carrier := p.carrier.push a }

def ofList (actions : List Action) : Plan := actions.foldl push empty

def size (p : Plan) : Nat := p.device.size + p.carrier.size

def isEmpty (p : Plan) : Bool := p.device.isEmpty && p.carrier.isEmpty

end Plan

end MailboxSync
