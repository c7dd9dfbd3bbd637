import CryptoAudit.Number.Binary64

/-!
# Shortest decimal text

A finite number is written with the fewest decimal digits that read back as the same number,
and of those with the digits nearest to it. The text is positional while the decimal point
stands at most three zeros before the first digit and at most sixteen digits after it, and
scientific beyond.

## Main definitions

* `Binary64.shortest`: the digits and the position of the decimal point
* `Binary64.toText`: the text of a number
-/

namespace CryptoAudit.Binary64

/-- A positive number with the interval of reals that round to it, over one denominator. The ends
belong to the interval if the mantissa is even. -/
structure Neighbourhood where
  /-- The lower end. -/
  low : Nat
  /-- The number itself. -/
  mid : Nat
  /-- The upper end. -/
  high : Nat
  /-- The common denominator. -/
  den : Nat
  /-- Whether the two ends round to the number. -/
  closed : Bool

/-- The reals that round to `m * 2 ^ e`. Below a power of two the numbers lie twice as close. -/
def neighbourhood (m : Nat) (e : Int) : Neighbourhood :=
  let down := if m = Nat.pow 2 52 ∧ leastExponent < e then 1 else 2
  let (up, den) := if e - 2 < 0 then (1, Nat.pow 2 (2 - e).toNat) else (Nat.pow 2 (e - 2).toNat, 1)
  ⟨(4 * m - down) * up, 4 * m * up, (4 * m + 2) * up, den, m % 2 == 0⟩

/-- Whether `digits * 10 ^ exponent`, given as a ratio, lies in the interval. -/
def Neighbourhood.holds (v : Neighbourhood) (num den : Nat) : Bool :=
  if v.closed then v.low * den ≤ num * v.den && num * v.den ≤ v.high * den
  else v.low * den < num * v.den && num * v.den < v.high * den

/-- The digits on the grid `10 ^ exponent` next to the number, if one of them lies in the
interval: of two the nearer, of two equally near the even. -/
def Neighbourhood.onGrid? (v : Neighbourhood) (exponent : Int) : Option Nat :=
  let (up, den) :=
    if exponent < 0 then (1, Nat.pow 10 (-exponent).toNat) else (Nat.pow 10 exponent.toNat, 1)
  let below := v.mid * den / (v.den * up)
  let above := below + 1
  let isIn (d : Nat) := v.holds (d * up) den
  let twice := 2 * v.mid * den
  let middle := (2 * below + 1) * up * v.den
  let nearer :=
    if twice < middle then below
    else if middle < twice then above
    else below + below % 2
  if isIn below && isIn above then some nearer
  else if isIn below then some below
  else if isIn above then some above
  else none

/-- The least number of digits from `17 - fuel` on that has a grid point in the interval, with
that point and the grid's exponent; `point` digits stand before the decimal point. -/
def Neighbourhood.search (v : Neighbourhood) (point : Int) : Nat → Nat × Int
  | 0 => (v.mid / v.den, 0)
  | fuel + 1 =>
    let exponent := point - Int.ofNat (17 - fuel)
    match v.onGrid? exponent with
    | some d => (d, exponent)
    | none => v.search point fuel

/-- The number of decimal digits before the point of `num / den`; zero or negative below one. -/
def pointOf (num den : Nat) : Int :=
  if den ≤ num then Int.ofNat (digitCount (num / den))
  else
    let k := digitCount (den / num)
    1 - Int.ofNat (if den ≤ num * Nat.pow 10 (k - 1) then k - 1 else k)

/-- The digits of the shortest decimal of `m * 2 ^ e`, without zeros at the end, and the position
of the decimal point counted from the first digit. -/
def shortest (m : Nat) (e : Int) : List Char × Int :=
  let v := neighbourhood m e
  let (d, exponent) := v.search (pointOf v.mid v.den) 17
  let digits := Nat.toDigits 10 d
  let kept := (digits.reverse.dropWhile (· = '0')).reverse
  (kept, Int.ofNat digits.length + exponent)

/-- The digits with the decimal point at the given position, in positional notation. -/
def positional (digits : List Char) (point : Int) : List Char :=
  if point ≤ 0 then '0' :: '.' :: (List.replicate (-point).toNat '0' ++ digits)
  else
    let n := point.toNat
    let whole := digits.take n ++ List.replicate (n - digits.length) '0'
    let rest := digits.drop n
    whole ++ '.' :: (if rest.isEmpty then ['0'] else rest)

/-- The digits with one digit before the point and a signed exponent of at least two digits. -/
def scientific (digits : List Char) (point : Int) : List Char :=
  let exponent := point - 1
  let size := Nat.toDigits 10 exponent.natAbs
  let size := List.replicate (2 - size.length) '0' ++ size
  let rest := digits.drop 1
  digits.take 1 ++ (if rest.isEmpty then [] else '.' :: rest) ++
    'e' :: (if exponent < 0 then '-' else '+') :: size

/-- Whether a decimal with its point at the given position is written without exponent. -/
def isPositional (point : Int) : Bool :=
  -4 < point && point ≤ 16

/-- The text of a number. -/
def toText : Binary64 → String
  | .nan => "nan"
  | .infinite negative => if negative then "-inf" else "inf"
  | .finite negative m e =>
    let body :=
      if m = 0 then ['0', '.', '0']
      else
        let (digits, point) := shortest m e
        if isPositional point then positional digits point else scientific digits point
    String.ofList (if negative then '-' :: body else body)

example : (ofDecimal false 1 (-1)).toText = "0.1" := by decide +kernel
example : (ofDecimal false 5 (-324)).toText = "5e-324" := by decide +kernel
example : (ofDecimal false 1 16).toText = "1e+16" := by decide +kernel
example : (ofDecimal true 12345 (-3)).toText = "-12.345" := by decide +kernel

end CryptoAudit.Binary64
