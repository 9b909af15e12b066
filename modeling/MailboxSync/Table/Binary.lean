namespace MailboxSync.Table

/-- The quotient rounded to the nearest integer, a half to the even one. -/
def roundDiv (p q : Nat) : Nat :=
  let n := p / q
  let twice := 2 * (p % q)
  if twice > q || (twice = q && n % 2 = 1) then n + 1 else n

/-- The number `mantissa * 2 ^ exponent`. -/
structure Binary where
  mantissa : Nat
  exponent : Int
deriving DecidableEq, Repr

namespace Binary

/-- The nearest number with a mantissa of at most so many bits. -/
def round (bits : Nat) (x : Binary) : Binary :=
  let excess := x.mantissa.log2 + 1 - bits
  ⟨roundDiv x.mantissa (1 <<< excess), x.exponent + excess⟩

def mul (bits : Nat) (x y : Binary) : Binary :=
  round bits ⟨x.mantissa * y.mantissa, x.exponent + y.exponent⟩

/-- The nearest number to a power of ten, or to one over it. -/
def powerOfTen (bits : Nat) (inverse : Bool) (k : Nat) : Binary :=
  let q := Nat.pow 10 k
  if inverse then
    let shift := bits + q.log2
    ⟨roundDiv (1 <<< shift) q, -shift⟩
  else round bits ⟨q, 0⟩

/-- Shifts a number by decimal places: first by hundreds of them, then by tens, then one by one.
Every step rounds. -/
def shift (bits : Nat) (inverse : Bool) (places : Nat) (x : Binary) : Binary :=
  let times (n k : Nat) (x : Binary) : Binary :=
    Nat.repeat (fun x => x.mul bits (powerOfTen bits inverse k)) n x
  times (places % 10) 1 (times (places % 100 / 10) 10 (times (places / 100) 100 x))

/-- The integer a number is, if it is one and has not more than so many bits. -/
def integer? (bits : Nat) (x : Binary) : Option Nat :=
  match x.exponent with
  | .ofNat e =>
    let n := x.mantissa <<< min e bits
    if e ≤ bits && n.log2 < bits then some n else none
  | .negSucc e =>
    let n := x.mantissa >>> (e + 1)
    if n <<< (e + 1) = x.mantissa && n.log2 < bits then some n else none

/-- A number so small that the nearest double is zero. -/
def isNegligible (x : Binary) : Bool :=
  match x.exponent + 1075 with
  | .ofNat 0 => x.mantissa ≤ 1
  | .ofNat (_ + 1) => x.mantissa = 0
  | .negSucc e => x.mantissa ≤ 1 <<< (e + 1)

/-- The nearest double, as an integer if it is one of at most so many bits. A double keeps 53
bits. -/
def integralDouble? (bits : Nat) (x : Binary) : Option Nat :=
  if x.isNegligible then some 0 else (x.round 53).integer? bits

end Binary

end MailboxSync.Table
