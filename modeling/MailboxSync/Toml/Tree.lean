namespace MailboxSync.Toml

/-- How a table came to be. That decides what may still be added to it. -/
inductive TableForm where
  /-- Written out under a header of its own. -/
  | header
  /-- Made only because a longer header passes through it. -/
  | passed
  /-- Made by a dotted key. -/
  | dotted
  /-- Written in braces, and complete with them. -/
  | inline
deriving DecidableEq, Repr

/-- A value of a document. No setting takes a float or a point in time, so of those only their
sort is kept. -/
inductive Value where
  | string (s : String)
  | integer (n : Int)
  | float
  | boolean (b : Bool)
  | moment
  | array (values : List Value)
  | table (form : TableForm) (entries : List (String × Value))
  /-- Tables under one repeated header. The latest is the one that later lines speak of. -/
  | tables (earlier : List (List (String × Value))) (latest : List (String × Value))

instance : Inhabited Value := ⟨.float⟩

/-- The pairs of one table, in the order of their appearance. -/
abbrev Entries := List (String × Value)

namespace Entries

def get? (e : Entries) (k : String) : Option Value := e.lookup k

/-- Adds a pair under a key not used yet. -/
def add? (e : Entries) (k : String) (v : Value) : Option Entries :=
  if (e.get? k).isSome then none else some (e ++ [(k, v)])

def replace (e : Entries) (k : String) (v : Value) : Entries :=
  e.map fun p => if p.1 = k then (k, v) else p

/-- Adds a pair under a key that may be dotted. The parts before the last name tables, made where
they are missing. The table that takes the pair is the one the key was written in, or one made by
dotted keys: `direct` tells whether the table at hand is such a one. -/
def put? (direct : Bool) (path : List String) (k : String) (v : Value) (e : Entries) : Option Entries :=
  match path with
  | [] => if direct then e.add? k v else none
  | p :: rest =>
    match e.get? p with
    | none => do return e ++ [(p, .table .dotted (← put? true rest k v []))]
    | some (.table .dotted sub) => do return e.replace p (.table .dotted (← put? true rest k v sub))
    | some (.table .passed sub) => do return e.replace p (.table .passed (← put? false rest k v sub))
    | some (.tables earlier latest) =>
      do return e.replace p (.tables earlier (← put? false rest k v latest))
    | some _ => none

/-- Changes the table that the path of a header leads to. Tables it passes through are made where
they are missing; at a repeated header the way goes on through the latest table. -/
def within? (path : List String) (change : Entries → Option Entries) (e : Entries) : Option Entries :=
  match path with
  | [] => change e
  | p :: rest =>
    match e.get? p with
    | none => do return e ++ [(p, .table .passed (← within? rest change []))]
    | some (.table .inline _) => none
    | some (.table form sub) => do return e.replace p (.table form (← within? rest change sub))
    | some (.tables earlier latest) =>
      do return e.replace p (.tables earlier (← within? rest change latest))
    | some _ => none

end Entries

/-- One line `key = value`. The key's last part stands apart from those before it. -/
structure Pair where
  path : List String
  key : String
  value : Value

namespace Pair

def putIn? (e : Entries) (p : Pair) : Option Entries := e.put? true p.path p.key p.value

end Pair

def fill? (pairs : List Pair) (e : Entries) : Option Entries := pairs.foldlM Pair.putIn? e

/-- A header with the pairs below it. A repeatable one adds a table at every use. -/
structure Section where
  repeatable : Bool
  path : List String
  key : String
  pairs : List Pair

/-- Adds a section. A table is written out once, though a longer header may have passed through
it before. -/
def Section.addTo? (e : Entries) (s : Section) : Option Entries :=
  e.within? s.path fun parent =>
    if s.repeatable then
      match parent.get? s.key with
      | none => do parent.add? s.key (.tables [] (← fill? s.pairs []))
      | some (.tables earlier latest) =>
        do return parent.replace s.key (.tables (earlier ++ [latest]) (← fill? s.pairs []))
      | some _ => none
    else
      match parent.get? s.key with
      | none => do parent.add? s.key (.table .header (← fill? s.pairs []))
      | some (.table .passed sub) =>
        do return parent.replace s.key (.table .header (← fill? s.pairs sub))
      | some _ => none

end MailboxSync.Toml
