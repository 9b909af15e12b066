import MailboxSync.Table.Binary

namespace MailboxSync.Table

/-- A decimal numeral: sign, digits before and after the point, and the power of ten that shifts
them. It is `whole` when it is written without a point and without an exponent. -/
structure Numeral where
  negative : Bool
  before : List Char
  after : List Char
  exponent : Int
  whole : Bool
deriving DecidableEq, Repr

namespace Numeral

def isSpace (c : Char) : Bool := c = ' ' || ('\t' ≤ c && c ≤ '\r')

def trim (cs : List Char) : List Char :=
  ((cs.dropWhile isSpace).reverse.dropWhile isSpace).reverse

def splitSign : List Char → Bool × List Char
  | '-' :: cs => (true, cs)
  | '+' :: cs => (false, cs)
  | cs => (false, cs)

def digit (c : Char) : Nat := c.toNat - '0'.toNat

def ofDigits (ds : List Char) : Nat := ds.foldl (fun n d => 10 * n + digit d) 0

/-- The value of an exponent's digits. Past ten thousand the digits are no longer told apart. -/
def ofExponentDigits (ds : List Char) : Nat :=
  ds.foldl (fun n d => if n < 10000 then 10 * n + digit d else 10000) 0

/-- The exponent after a mantissa, where there is one. Nothing may follow it. -/
def readExponent? : List Char → Option (Option Int)
  | [] => some none
  | c :: cs =>
    let (minus, ds) := splitSign cs
    if (c = 'e' || c = 'E') && !ds.isEmpty && ds.all Char.isDigit then
      some (some (if minus then -(ofExponentDigits ds : Int) else ofExponentDigits ds))
    else none

/-- Reads a text that is a numeral as a whole, spaces at its ends aside. -/
def read? (s : String) : Option Numeral := do
  let (negative, cs) := splitSign (trim s.toList)
  let before := cs.takeWhile Char.isDigit
  let (after, point, rest) := match cs.dropWhile Char.isDigit with
    | '.' :: cs => (cs.takeWhile Char.isDigit, true, cs.dropWhile Char.isDigit)
    | cs => ([], false, cs)
  let exponent ← readExponent? rest
  if before.isEmpty && after.isEmpty then none
  else return { negative, before, after, exponent := exponent.getD 0, whole := !point && exponent.isNone }

/-- From here on one more digit might not fit a 64-bit word. -/
def fullWord : Nat := (UInt64.size - 10) / 10

/-- The leading digits, as many as are sure to fit a word, and the places they are shifted by. -/
def lead (x : Numeral) : Nat × Int :=
  let whole := x.before.foldl
    (fun (n, places) d => if n < fullWord then (10 * n + digit d, places) else (n, places + 1))
    (0, x.exponent)
  x.after.foldl
    (fun (n, places) d => if n < fullWord then (10 * n + digit d, places - 1) else (n, places))
    whole

/-- Takes places into the word while it has room for them. -/
def widen (n : Nat) : Nat → Nat × Nat
  | 0 => (n, 0)
  | places + 1 =>
    if n < (UInt64.size - 2048) / 10 then widen (10 * n) places else (n, places + 1)

/-- Gives off zeros at the end of the word for places. -/
def narrow (n : Nat) : Nat → Nat × Nat
  | 0 => (n, 0)
  | places + 1 => if n % 10 = 0 then narrow (n / 10) places else (n, places + 1)

/-- The value without its sign, as a number of 64 bits. It comes from the leading digits, and the
places are worked in step by step, so it need not be the nearest one. -/
def toBinary (x : Numeral) : Binary :=
  match x.lead with
  | (n, .ofNat places) =>
    let (n, places) := widen n places
    Binary.shift 64 false places ⟨n, 0⟩
  | (n, .negSucc places) =>
    let (n, places) := narrow n (places + 1)
    Binary.shift 64 true places ⟨n, 0⟩

/-- The 64-bit integer a numeral stands for, exactly if it is whole and by way of a double
otherwise. -/
def toInteger? (x : Numeral) : Option Int :=
  let signed (n : Nat) : Int := if x.negative then -(n : Int) else n
  if x.whole then
    let n := signed (ofDigits x.before)
    if Int64.minValue.toInt ≤ n ∧ n ≤ Int64.maxValue.toInt then some n else none
  else (x.toBinary.integralDouble? 63).map signed

end Numeral

end MailboxSync.Table
