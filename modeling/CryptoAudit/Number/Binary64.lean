/-!
# Binary floating point

Numbers with a 53-bit significand, as exact values: a finite number is `mantissa * 2 ^ exponent`.
Arithmetic is exact rational arithmetic followed by one rounding to the nearest number, a tie
going to the even mantissa.

## Main definitions

* `Binary64`: not a number, an infinity, or a finite number
* `Binary64.ofRatio`: the nearest number to a ratio
* `Binary64.ofDecimal`: the nearest number to a decimal
* `Binary64.add`, `Binary64.mul`: rounded arithmetic
* `Binary64.toInt?`: the integer that a number equals
-/

namespace CryptoAudit

/-- A floating-point number. A finite one is canonical if its mantissa has 53 bits, or fewer at
the least exponent. -/
inductive Binary64 where
  | nan
  | infinite (negative : Bool)
  | finite (negative : Bool) (mantissa : Nat) (exponent : Int)
deriving DecidableEq, Repr, Inhabited

namespace Binary64

/-- The least exponent of a finite number. -/
def leastExponent : Int := -1074

/-- The greatest exponent of a finite number. -/
def greatestExponent : Int := 971

/-- The quotient rounded to the nearest integer, a tie to the even one. -/
def roundDiv (num den : Nat) : Nat :=
  let q := num / den
  let r := num % den
  if 2 * r < den then q
  else if den < 2 * r then q + 1
  else q + q % 2

/-- The ratio `num / (den * 2 ^ e)` as a numerator and a denominator. -/
def scale (num den : Nat) (e : Int) : Nat × Nat :=
  if e < 0 then (num * Nat.pow 2 (-e).toNat, den) else (num, den * Nat.pow 2 e.toNat)

/-- The exponent at which a positive ratio has a 53-bit integer part, or the least exponent. -/
def exponentOf (num den : Nat) : Int :=
  let e : Int := Int.ofNat num.log2 - Int.ofNat den.log2 - 52
  let (n, d) := scale num den e
  max leastExponent (if n / d < Nat.pow 2 52 then e - 1 else e)

/-- A mantissa and an exponent as a number: a mantissa of 54 bits is halved, and too great an
exponent gives an infinity. -/
def pack (negative : Bool) (m : Nat) (e : Int) : Binary64 :=
  let (m, e) := if m = Nat.pow 2 53 then (Nat.pow 2 52, e + 1) else (m, e)
  if greatestExponent < e then .infinite negative else .finite negative m e

/-- The nearest number to `num / den`, with the given sign. -/
def ofRatio (negative : Bool) (num den : Nat) : Binary64 :=
  if num = 0 then .finite negative 0 leastExponent
  else
    let e := exponentOf num den
    let (n, d) := scale num den e
    pack negative (roundDiv n d) e

/-- The nearest number to an integer. -/
def ofInt (n : Int) : Binary64 :=
  ofRatio (n < 0) n.natAbs 1

/-- The number of decimal digits of a positive number. -/
def digitCount (n : Nat) : Nat :=
  (Nat.toDigits 10 n).length

/-- The nearest number to `digits * 10 ^ exponent`. Far beyond the range the answer is an
infinity or zero. -/
def ofDecimal (negative : Bool) (digits : Nat) (exponent : Int) : Binary64 :=
  if digits = 0 then .finite negative 0 leastExponent
  else
    let magnitude := Int.ofNat (digitCount digits) + exponent
    if 400 < magnitude then .infinite negative
    else if magnitude < -400 then .finite negative 0 leastExponent
    else if exponent < 0 then ofRatio negative digits (Nat.pow 10 (-exponent).toNat)
    else ofRatio negative (digits * Nat.pow 10 exponent.toNat) 1

/-- A finite number as a signed numerator over a positive denominator. -/
def toRatio? : Binary64 → Option (Int × Nat)
  | .finite negative m e =>
    let (n, d) := if e < 0 then (m, Nat.pow 2 (-e).toNat) else (m * Nat.pow 2 e.toNat, 1)
    some (if negative then -Int.ofNat n else Int.ofNat n, d)
  | _ => none

/-- The nearest number to a signed ratio. -/
def ofSignedRatio (num : Int) (den : Nat) : Binary64 :=
  ofRatio (num < 0) num.natAbs den

/-- The rounded product of two numbers that are not both infinite or zero. -/
def mul (x y : Binary64) : Binary64 :=
  match x.toRatio?, y.toRatio? with
  | some (a, b), some (c, d) => ofSignedRatio (a * c) (b * d)
  | none, _ => x
  | _, none => y

/-- The rounded sum of two numbers of which at most one is infinite. -/
def add (x y : Binary64) : Binary64 :=
  match x.toRatio?, y.toRatio? with
  | some (a, b), some (c, d) => ofSignedRatio (a * d + c * b) (b * d)
  | none, _ => x
  | _, none => y

/-- The number with the opposite sign. -/
def neg : Binary64 → Binary64
  | .nan => .nan
  | .infinite s => .infinite !s
  | .finite s m e => .finite (!s) m e

/-- The integer that a number equals. -/
def toInt? (x : Binary64) : Option Int :=
  match x.toRatio? with
  | some (n, d) => if n % Int.ofNat d = 0 then some (n / Int.ofNat d) else none
  | none => none

/-- Whether a number is a zero of either sign. -/
def isZero : Binary64 → Bool
  | .finite _ m _ => m == 0
  | _ => false

/-- Whether two numbers are equal as values: zeros are, and not-a-number equals nothing. -/
def equals (x y : Binary64) : Bool :=
  match x, y with
  | .nan, _ => false
  | _, .nan => false
  | x, y => x == y || (x.isZero && y.isZero)

example : ofDecimal false 1 (-1) = .finite false 7205759403792794 (-56) := by decide +kernel
example : (ofDecimal false 15 (-1)).toInt? = none := by decide +kernel
example : ofDecimal false 5 (-324) = .finite false 1 (-1074) := by decide +kernel

end Binary64

end CryptoAudit
