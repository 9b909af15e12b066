import MailboxSync.Toml.Scalar

namespace MailboxSync.Toml

/-- Arrays and tables in braces do not nest deeper than this. -/
def maxNesting : Nat := 79

/-- A dotted key does not have more parts than this. -/
def maxKeyParts : Nat := 79

def isKeyChar (c : Char) : Bool := c.isAlphanum || c = '-' || c = '_'

/-- One part of a key: bare or in quotes. -/
def keyPart (cs : List Char) : Option (String × List Char) :=
  match cs.takeWhile isKeyChar with
  | [] => stringOnLine cs
  | ks => some (String.ofList ks, cs.dropWhile isKeyChar)

/-- Parts with dots between them. The fuel bounds their number. -/
def keyParts : Nat → Reader (List String)
  | 0, _ => none
  | n + 1, cs => do
    let (k, rest) ← keyPart cs
    match skipBlank rest with
    | '.' :: rest =>
      let (ks, rest) ← keyParts n (skipBlank rest)
      return (k :: ks, rest)
    | rest => return ([k], rest)

/-- A key as the path of its earlier parts and its last part. -/
def key (cs : List Char) : Option ((List String × String) × List Char) := do
  let (ks, rest) ← keyParts maxKeyParts cs
  let last ← ks.getLast?
  return ((ks.dropLast, last), rest)

def keyValue (value : Reader Value) (cs : List Char) : Option (Pair × List Char) := do
  let ((path, k), rest) ← key cs
  let (v, rest) ← value (skipBlank (← expect? ['='] rest))
  return (⟨path, k, v⟩, rest)

/-- Blanks, comments and line breaks, as they may stand between the values of an array. -/
def skipLines : Nat → List Char → List Char
  | 0, cs => cs
  | n + 1, cs =>
    match skipBlank cs with
    | '#' :: rest =>
      match lineEnd? (rest.dropWhile isPlain) with
      | some rest => skipLines n rest
      | none => '#' :: rest
    | cs =>
      match lineEnd? cs with
      | some rest => skipLines n rest
      | none => cs

/-- The values of an array up to its closing bracket. A comma may follow the last one. -/
def elements (value : Reader Value) : Nat → Reader (List Value)
  | 0, _ => none
  | n + 1, cs =>
    match skipLines cs.length cs with
    | ']' :: rest => some ([], rest)
    | cs => do
      let (v, rest) ← value cs
      match skipLines rest.length rest with
      | ',' :: rest =>
        let (vs, rest) ← elements value n rest
        return (v :: vs, rest)
      | ']' :: rest => return ([v], rest)
      | _ => none

/-- The pairs of a table in braces, at least one, up to its closing brace. -/
def inlinePairs (value : Reader Value) : Nat → Reader (List Pair)
  | 0, _ => none
  | n + 1, cs => do
    let (p, rest) ← keyValue value (skipBlank cs)
    match skipBlank rest with
    | ',' :: rest =>
      let (ps, rest) ← inlinePairs value n rest
      return (p :: ps, rest)
    | '\x7d' :: rest => return ([p], rest)
    | _ => none

def inlineTable (value : Reader Value) (cs : List Char) : Option (Value × List Char) := do
  let (ps, rest) ← match skipBlank cs with
    | '\x7d' :: rest => some ([], rest)
    | rest => inlinePairs value (rest.length + 1) rest
  return (.table .inline (← fill? ps []), rest)

/-- Any value, with arrays and tables nested at most so deep. -/
def value : Nat → Reader Value
  | n + 1, '[' :: cs => (elements (value n) (cs.length + 1) cs).map fun (vs, rest) => (.array vs, rest)
  | n + 1, '\x7b' :: cs => inlineTable (value n) cs
  | _, cs => scalar cs

/-- What a line of a document says. -/
inductive Line where
  | empty
  | pair (p : Pair)
  | header (repeatable : Bool) (path : List String) (key : String)

/-- Only a comment may follow on the same line. -/
def endOfLine (cs : List Char) : Option (List Char) :=
  let rest :=
    match skipBlank cs with
    | '#' :: rest => rest.dropWhile isPlain
    | rest => rest
  match rest with
  | [] => some []
  | rest => lineEnd? rest

def header (repeatable : Bool) (close : List Char) (cs : List Char) : Option (Line × List Char) := do
  let ((path, k), rest) ← key (skipBlank cs)
  return (.header repeatable path k, ← expect? close rest)

def line (cs : List Char) : Option (Line × List Char) := do
  let (l, rest) ← match skipBlank cs with
    | [] => some (.empty, [])
    | '[' :: '[' :: rest => header true [']', ']'] rest
    | '[' :: rest => header false [']'] rest
    | c :: rest =>
      if c = '#' || c = '\r' || c = '\n' then some (.empty, c :: rest)
      else (keyValue (value maxNesting) (c :: rest)).map fun (p, rest) => (.pair p, rest)
  return (l, ← endOfLine rest)

def lines : Nat → List Char → Option (List Line)
  | _, [] => some []
  | 0, _ :: _ => none
  | n + 1, cs => do
    let (l, rest) ← line cs
    return l :: (← lines n rest)

/-- The pairs before the first header, and the sections. -/
def sections : List Line → List Pair × List Section
  | [] => ([], [])
  | .empty :: rest => sections rest
  | .pair p :: rest =>
    let (ps, ss) := sections rest
    (p :: ps, ss)
  | .header repeatable path k :: rest =>
    let (ps, ss) := sections rest
    ([], ⟨repeatable, path, k, ps⟩ :: ss)

/-- A byte order mark may stand in front of a document. -/
def skipMark : List Char → List Char
  | '\ufeff' :: cs => cs
  | cs => cs

/-- Reads a document as its outermost table. -/
def parse? (text : String) : Option Entries := do
  let cs := skipMark text.toList
  let (ps, ss) := sections (← lines cs.length cs)
  ss.foldlM Section.addTo? (← fill? ps [])

end MailboxSync.Toml
