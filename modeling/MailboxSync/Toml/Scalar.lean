import MailboxSync.Toml.Tree

namespace MailboxSync.Toml

/-- A reader takes a value off the front of a text and leaves the rest. -/
abbrev Reader (α : Type) := List Char → Option (α × List Char)

/-- Takes exactly these characters. -/
def expect? : List Char → List Char → Option (List Char)
  | [], cs => some cs
  | x :: xs, c :: cs => if x = c then expect? xs cs else none
  | _ :: _, [] => none

def isBlankChar (c : Char) : Bool := c = ' ' || c = '\t'

def skipBlank (cs : List Char) : List Char := cs.dropWhile isBlankChar

/-- Lines end in LF or in CR LF. -/
def lineEnd? : List Char → Option (List Char)
  | '\n' :: cs => some cs
  | '\r' :: '\n' :: cs => some cs
  | _ => none

/-- Comments and strings hold no control character but the tab. -/
def isPlain (c : Char) : Bool := c = '\t' || (' ' ≤ c && c ≠ '\x7f')

def isDecimalDigit (c : Char) : Bool := '0' ≤ c && c ≤ '9'

def digitValue? (c : Char) : Option Nat :=
  if '0' ≤ c && c ≤ '9' then some (c.toNat - '0'.toNat)
  else if 'a' ≤ c && c ≤ 'f' then some (c.toNat - 'a'.toNat + 10)
  else if 'A' ≤ c && c ≤ 'F' then some (c.toNat - 'A'.toNat + 10)
  else none

def isDigitOf (base : Nat) (c : Char) : Bool := (digitValue? c).any (· < base)

/-- The number that digits write in a base. -/
def ofDigits (base : Nat) (ds : List Char) : Nat :=
  ds.foldl (fun n d => base * n + (digitValue? d).getD 0) 0

/-! Strings -/

def simpleEscape? : Char → Option Char
  | 'b' => some '\x08'
  | 't' => some '\t'
  | 'n' => some '\n'
  | 'f' => some '\x0c'
  | 'r' => some '\r'
  | '"' => some '"'
  | '\\' => some '\\'
  | _ => none

/-- A code point written in hexadecimal. Surrogates are not code points of text. -/
def codePoint? (ds : List Char) : Option Char :=
  let n := ofDigits 16 ds
  if h : ds.all (isDigitOf 16) ∧ n.isValidChar then some (Char.ofNatAux n h.2) else none

/-- The rest of a string in quotes, up to the closing quote. -/
def quoted (done : List Char) : Reader String
  | '"' :: cs => some (String.ofList done.reverse, cs)
  | '\\' :: 'u' :: a :: b :: c :: d :: cs =>
    match codePoint? [a, b, c, d] with
    | some x => quoted (x :: done) cs
    | none => none
  | '\\' :: 'U' :: a :: b :: c :: d :: e :: f :: g :: h :: cs =>
    match codePoint? [a, b, c, d, e, f, g, h] with
    | some x => quoted (x :: done) cs
    | none => none
  | '\\' :: c :: cs =>
    match simpleEscape? c with
    | some x => quoted (x :: done) cs
    | none => none
  | c :: cs => if isPlain c then quoted (c :: done) cs else none
  | [] => none

/-- The rest of a string in apostrophes, where nothing is escaped. -/
def literal (done : List Char) : Reader String
  | '\'' :: cs => some (String.ofList done.reverse, cs)
  | c :: cs => if isPlain c then literal (c :: done) cs else none
  | [] => none

/-- A backslash at the end of a line takes the line break and the white space after it away. -/
def endsLine (cs : List Char) : Bool := (lineEnd? (skipBlank cs)).isSome

/-- The rest of a string in triple quotes. One or two quotes may stand inside, also directly before
the closing ones. While `trimming`, white space and line breaks are left out. -/
def quotedLines (trimming : Bool) (done : List Char) : Reader String
  | '"' :: '"' :: '"' :: '"' :: '"' :: cs => some (String.ofList ('"' :: '"' :: done).reverse, cs)
  | '"' :: '"' :: '"' :: '"' :: cs => some (String.ofList ('"' :: done).reverse, cs)
  | '"' :: '"' :: '"' :: cs => some (String.ofList done.reverse, cs)
  | '\r' :: '\n' :: cs => quotedLines trimming (if trimming then done else '\n' :: done) cs
  | '\n' :: cs => quotedLines trimming (if trimming then done else '\n' :: done) cs
  | '\\' :: 'u' :: a :: b :: c :: d :: cs =>
    match codePoint? [a, b, c, d] with
    | some x => quotedLines false (x :: done) cs
    | none => none
  | '\\' :: 'U' :: a :: b :: c :: d :: e :: f :: g :: h :: cs =>
    match codePoint? [a, b, c, d, e, f, g, h] with
    | some x => quotedLines false (x :: done) cs
    | none => none
  | '\\' :: c :: cs =>
    match simpleEscape? c with
    | some x => quotedLines false (x :: done) cs
    | none => if endsLine (c :: cs) then quotedLines true done cs else none
  | c :: cs =>
    if trimming && isBlankChar c then quotedLines true done cs
    else if isPlain c then quotedLines false (c :: done) cs
    else none
  | [] => none

/-- The rest of a string in triple apostrophes. -/
def literalLines (done : List Char) : Reader String
  | '\'' :: '\'' :: '\'' :: '\'' :: '\'' :: cs => some (String.ofList ('\'' :: '\'' :: done).reverse, cs)
  | '\'' :: '\'' :: '\'' :: '\'' :: cs => some (String.ofList ('\'' :: done).reverse, cs)
  | '\'' :: '\'' :: '\'' :: cs => some (String.ofList done.reverse, cs)
  | '\r' :: '\n' :: cs => literalLines ('\n' :: done) cs
  | '\n' :: cs => literalLines ('\n' :: done) cs
  | c :: cs => if isPlain c then literalLines (c :: done) cs else none
  | [] => none

/-- A line break right after the opening of a string of lines is not part of it. -/
def skipFirstLineEnd (cs : List Char) : List Char := (lineEnd? cs).getD cs

/-- A string on one line, as keys may be written. -/
def stringOnLine : Reader String
  | '"' :: cs => quoted [] cs
  | '\'' :: cs => literal [] cs
  | _ => none

def string : Reader String
  | '"' :: '"' :: '"' :: cs => quotedLines false [] (skipFirstLineEnd cs)
  | '\'' :: '\'' :: '\'' :: cs => literalLines [] (skipFirstLineEnd cs)
  | cs => stringOnLine cs

/-! Numbers -/

/-- Digits, single underscores between them. -/
def digitRun (isDigit : Char → Bool) : List Char → List Char × List Char
  | '_' :: c :: cs =>
    if isDigit c then
      let (ds, rest) := digitRun isDigit cs
      (c :: ds, rest)
    else ([], '_' :: c :: cs)
  | c :: cs =>
    if isDigit c then
      let (ds, rest) := digitRun isDigit cs
      (c :: ds, rest)
    else ([], c :: cs)
  | [] => ([], [])

def digits (isDigit : Char → Bool) : Reader (List Char)
  | c :: cs => if isDigit c then some (digitRun isDigit (c :: cs)) else none
  | [] => none

/-- The sign in front of a number, true for minus. -/
def sign : List Char → Bool × List Char
  | '-' :: cs => (true, cs)
  | '+' :: cs => (false, cs)
  | cs => (false, cs)

def signed (minus : Bool) (n : Nat) : Int := if minus then -(n : Int) else n

/-- Decimal digits without a zero in front of others. -/
def wholeDigits : Reader (List Char)
  | '0' :: cs => some (['0'], cs)
  | cs => digits isDecimalDigit cs

/-- Integers have 64 bits. -/
def inRange (n : Int) : Bool := Int64.minValue.toInt ≤ n && n ≤ Int64.maxValue.toInt

def integer (cs : List Char) : Option (Value × List Char) :=
  let based (base : Nat) (cs : List Char) : Option (Int × List Char) :=
    (digits (isDigitOf base) cs).map fun (ds, rest) => (ofDigits base ds, rest)
  let read : Option (Int × List Char) :=
    match cs with
    | '0' :: 'x' :: cs => based 16 cs
    | '0' :: 'o' :: cs => based 8 cs
    | '0' :: 'b' :: cs => based 2 cs
    | cs =>
      let (minus, cs) := sign cs
      (wholeDigits cs).map fun (ds, rest) => (signed minus (ofDigits 10 ds), rest)
  match read with
  | some (n, rest) => if inRange n then some (.integer n, rest) else none
  | none => none

/-- The fraction digits of a float, if it has them. -/
def fraction : List Char → Option (List Char × List Char)
  | '.' :: cs => digits isDecimalDigit cs
  | cs => some ([], cs)

/-- The exponent of a float, if it has one. -/
def exponent (cs : List Char) : Option (Int × List Char) :=
  let read (cs : List Char) : Option (Int × List Char) :=
    let (minus, cs) := sign cs
    (digits isDecimalDigit cs).map fun (ds, rest) => (signed minus (ofDigits 10 ds), rest)
  match cs with
  | 'e' :: cs => read cs
  | 'E' :: cs => read cs
  | cs => some (0, cs)

/-- Whether digits, shifted by a power of ten, round to a finite double: the number lies below the
middle between the largest one and the next power of two. Most are seen to do so by their length. -/
def isFinite (ds : List Char) (e : Int) : Bool :=
  let n := ofDigits 10 ds
  let limit := (1 <<< 1024) - (1 <<< 970)
  if n = 0 || ds.length + e ≤ 308 then true
  else if e < 0 then n < limit * Nat.pow 10 (Int.toNat (-e))
  else e ≤ 309 && n * Nat.pow 10 e.toNat < limit

/-- A number with a fraction, an exponent or both. A positive one must not be too large. -/
def float (cs : List Char) : Option (Value × List Char) := do
  let (minus, body) := sign cs
  match expect? ['i', 'n', 'f'] body, expect? ['n', 'a', 'n'] body with
  | some rest, _ | _, some rest => return (.float, rest)
  | none, none =>
    let (whole, afterWhole) ← wholeDigits body
    let (frac, afterFrac) ← fraction afterWhole
    let (exp, rest) ← exponent afterFrac
    if rest.length = afterWhole.length then none
    else if minus || isFinite (whole ++ frac) (exp - frac.length) then
      return (.float, rest)
    else none

/-! Points in time -/

/-- A number of exactly so many digits, within bounds. -/
def field (width low high : Nat) (cs : List Char) : Option (Nat × List Char) :=
  let ds := cs.take width
  let n := ofDigits 10 ds
  if ds.length = width ∧ ds.all isDecimalDigit ∧ low ≤ n ∧ n ≤ high then some (n, cs.drop width)
  else none

def isLeapYear (y : Nat) : Bool := y % 4 = 0 && (y % 100 ≠ 0 || y % 400 = 0)

def daysIn (year month : Nat) : Nat :=
  match month with
  | 2 => if isLeapYear year then 29 else 28
  | 4 | 6 | 9 | 11 => 30
  | _ => 31

def date (cs : List Char) : Option (List Char) := do
  let (y, cs) ← field 4 0 9999 cs
  let (m, cs) ← field 2 1 12 (← expect? ['-'] cs)
  let (_, cs) ← field 2 1 (daysIn y m) (← expect? ['-'] cs)
  return cs

/-- Fractions of a second may have any number of digits. -/
def secondFraction : List Char → List Char
  | '.' :: c :: cs => if isDecimalDigit c then cs.dropWhile isDecimalDigit else '.' :: c :: cs
  | cs => cs

/-- A time of day. The second 60 is there for leap seconds. -/
def time (cs : List Char) : Option (List Char) := do
  let (_, cs) ← field 2 0 23 cs
  let (_, cs) ← field 2 0 59 (← expect? [':'] cs)
  let (_, cs) ← field 2 0 60 (← expect? [':'] cs)
  return secondFraction cs

def offset (cs : List Char) : Option (List Char) :=
  let hours (cs : List Char) : Option (List Char) := do
    let (_, cs) ← field 2 0 23 cs
    let (_, cs) ← field 2 0 59 (← expect? [':'] cs)
    return cs
  match cs with
  | 'Z' :: cs => some cs
  | 'z' :: cs => some cs
  | '+' :: cs => hours cs
  | '-' :: cs => hours cs
  | _ => none

/-- What may follow a date: a time, and after it an offset. -/
def timeOfDate (cs : List Char) : Option (List Char) :=
  match cs with
  | c :: cs =>
    if c = 'T' || c = 't' || c = ' ' then (time cs).map fun rest => (offset rest).getD rest else none
  | [] => none

/-- A date, a time, or both with or without an offset. -/
def moment (cs : List Char) : Option (Value × List Char) :=
  match date cs with
  | some rest => some (.moment, (timeOfDate rest).getD rest)
  | none => (time cs).map fun rest => (.moment, rest)

/-- A value without parts. -/
def scalar (cs : List Char) : Option (Value × List Char) :=
  match cs with
  | '"' :: _ => (string cs).map fun (s, rest) => (.string s, rest)
  | '\'' :: _ => (string cs).map fun (s, rest) => (.string s, rest)
  | 't' :: 'r' :: 'u' :: 'e' :: rest => some (.boolean true, rest)
  | 'f' :: 'a' :: 'l' :: 's' :: 'e' :: rest => some (.boolean false, rest)
  | _ => (moment cs).or ((float cs).or (integer cs))

end MailboxSync.Toml
