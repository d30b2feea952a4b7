/-!
Finite double-precision numbers as exact data: a sign, a mantissa and a power of two. Every
operation computes its exact result as a ratio of naturals and rounds it once.
-/
namespace BrickPipeline.Json

/-- The number `± mantissa · 2 ^ exponent`, in the normal form that `ofRatio?` produces. -/
structure Double where
  negative : Bool
  mantissa : Nat
  exponent : Int
deriving DecidableEq, Inhabited

namespace Double

def minExponent : Int := -1074

def maxExponent : Int := 971

def zero (negative : Bool) : Double := ⟨negative, 0, minExponent⟩

def isZero (x : Double) : Bool := x.mantissa = 0

/-- The natural number nearest to `num / den`, the even one at a midpoint. -/
def roundEven (num den : Nat) : Nat :=
  let q := num / den
  let r := num % den
  if 2 * r < den then q
  else if den < 2 * r then q + 1
  else q + q % 2

/-- `num / den` divided by `2 ^ e`, as a numerator and a denominator. -/
def scaleDown (num den : Nat) (e : Int) : Nat × Nat :=
  if 0 ≤ e then (num, den * Nat.pow 2 e.toNat) else (num * Nat.pow 2 (-e).toNat, den)

/-- The exponent `k` with `2 ^ k ≤ num / den < 2 ^ (k + 1)`, for positive operands. -/
def binaryExponent (num den : Nat) : Int :=
  let k : Int := (num.log2 : Int) - (den.log2 : Int)
  let (n, d) := scaleDown num den k
  if d ≤ n then k else k - 1

/-- The double nearest to `± num / den`, ties to the even mantissa; `none` beyond the largest. -/
def ofRatio? (negative : Bool) (num den : Nat) : Option Double :=
  if num = 0 then some (zero negative)
  else
    let e := max (binaryExponent num den - 52) minExponent
    let (n, d) := scaleDown num den e
    let m := roundEven n d
    let (m, e) := if m = Nat.pow 2 53 then (Nat.pow 2 52, e + 1) else (m, e)
    if maxExponent < e then none else some ⟨negative, m, e⟩

def toRatio (x : Double) : Nat × Nat :=
  if 0 ≤ x.exponent then (x.mantissa * Nat.pow 2 x.exponent.toNat, 1)
  else (x.mantissa, Nat.pow 2 (-x.exponent).toNat)

def ofInt? (n : Int) : Option Double := ofRatio? (decide (n < 0)) n.natAbs 1

def mul? (x y : Double) : Option Double :=
  let (n, d) := x.toRatio
  let (n', d') := y.toRatio
  ofRatio? (x.negative != y.negative) (n * n') (d * d')

/-- The rounded quotient by a divisor that is not zero. -/
def div? (x y : Double) : Option Double :=
  let (n, d) := x.toRatio
  let (n', d') := y.toRatio
  ofRatio? (x.negative != y.negative) (n * d') (d * n')

/-- The value in units of `2 ^ e`, for an `e` not above the exponent. -/
def inUnits (x : Double) (e : Int) : Int :=
  let magnitude : Int := (x.mantissa * Nat.pow 2 (x.exponent - e).toNat : Nat)
  if x.negative then -magnitude else magnitude

def lt (x y : Double) : Bool :=
  let e := min x.exponent y.exponent
  decide (x.inUnits e < y.inUnits e)

/-- Equality of the denoted values: the two zeros are equal. -/
def sameValue (x y : Double) : Bool :=
  let e := min x.exponent y.exponent
  decide (x.inUnits e = y.inUnits e)

def pow10? (k : Nat) : Option Double := ofRatio? false (Nat.pow 10 k) 1

/--
Scale by a power of ten: one rounded product or quotient for up to 308 places, and quotients by
`1e308` before that for smaller numbers. `none` when the result is out of range.
-/
def scale10? (x : Double) (places : Int) : Option Double :=
  if places.natAbs ≤ 308 then do
    let power ← pow10? places.natAbs
    if 0 ≤ places then x.mul? power else x.div? power
  else if x.isZero then some x
  else if 0 ≤ places then none
  else do
    let power ← pow10? 308
    scale10? (← x.div? power) (places + 308)
termination_by places.natAbs
decreasing_by omega

/-- The double that a decimal literal of a 64-bit significand denotes. -/
def ofLiteral? (negative : Bool) (significand : Nat) (places : Int) : Option Double := do
  let x ← ofRatio? false significand 1
  let y ← scale10? x places
  return { y with negative := negative }

end Double
end BrickPipeline.Json
