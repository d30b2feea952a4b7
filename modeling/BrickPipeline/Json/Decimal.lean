import BrickPipeline.Json.Double

/-!
Decimal text of doubles: the fewest digits that read back, laid out by a `Layout`.
-/
namespace BrickPipeline.Json

/-- The number `digits · 10 ^ exponent`, its digits most significant first. -/
structure Decimal where
  digits : List Char
  exponent : Int
deriving DecidableEq

namespace Decimal

/-- `num / den` and `10 ^ k` brought to one denominator: the two numerators. -/
def againstPow10 (num den : Nat) (k : Int) : Nat × Nat :=
  if 0 ≤ k then (num, den * Nat.pow 10 k.toNat) else (num * Nat.pow 10 (-k).toNat, den)

/-- The exponent `k` with `10 ^ k ≤ num / den < 10 ^ (k + 1)`, for positive operands. -/
def decimalExponent (num den : Nat) : Int :=
  let guess := (Double.binaryExponent num den * 30103).fdiv 100000
  let below := againstPow10 num den guess
  let above := againstPow10 num den (guess + 1)
  if below.1 < below.2 then guess - 1
  else if above.2 ≤ above.1 then guess + 1
  else guess

/--
The two ends of the interval of reals that round to `x`, in quarters of its unit. Below a power
of two the gap is half as wide.
-/
def quarters (x : Double) : Nat × Nat :=
  let narrow := x.mantissa = Nat.pow 2 52 ∧ Double.minExponent < x.exponent
  (4 * x.mantissa - (if narrow then 1 else 2), 4 * x.mantissa + 2)

/-- Whether `candidate · 10 ^ k` rounds to `x`; the ends do iff the mantissa is even. -/
def readsBack (x : Double) (k : Int) (candidate : Nat) : Bool :=
  let (low, high) := quarters x
  let (unitNum, unitDen) := Double.toRatio ⟨false, 1, x.exponent - 2⟩
  let (one, tens) := againstPow10 unitNum unitDen k
  if x.mantissa % 2 = 0 then
    decide (low * one ≤ candidate * tens ∧ candidate * tens ≤ high * one)
  else decide (low * one < candidate * tens ∧ candidate * tens < high * one)

/-- Which of two decimals at the same distance is taken. -/
inductive Tie where
  /-- The one with the even last digit. -/
  | even
  | up
deriving DecidableEq, Inhabited

/-- The natural number nearest to `num / den`. -/
def Tie.nearest (tie : Tie) (num den : Nat) : Nat :=
  match tie with
  | .even => Double.roundEven num den
  | .up => (2 * num + den) / (2 * den)

/-- The nearer neighbour of `x` on the grid of step `10 ^ k` that reads back. -/
def onGrid? (tie : Tie) (x : Double) (k : Int) : Option Nat :=
  let (num, den) := x.toRatio
  let (n, d) := againstPow10 num den k
  let lower := n / d
  let upper := lower + 1
  let nearest := tie.nearest n d
  if readsBack x k nearest then some nearest
  else if readsBack x k lower then some lower
  else if readsBack x k upper then some upper
  else none

def normalize (digits : Nat) (exponent : Int) : Decimal :=
  let reversed := (Nat.toDigits 10 digits).reverse
  let kept := reversed.dropWhile (· = '0')
  ⟨kept.reverse, exponent + (reversed.length - kept.length : Nat)⟩

/-- The shortest decimal that reads back as `x`; seventeen digits always do. -/
def shortest (tie : Tie) (x : Double) : Decimal :=
  if x.isZero then ⟨['0'], 0⟩
  else
    let (num, den) := x.toRatio
    let top := decimalExponent num den
    let found := (List.range 17).findSome? fun (n : Nat) =>
      (onGrid? tie x (top - n)).map fun digits => normalize digits (top - n)
    found.getD ⟨['0'], 0⟩

/-- How the digits of a number are laid out. -/
structure Layout where
  /-- Least and greatest power of ten of the first digit that is written positionally. -/
  positional : Option (Int × Int)
  /-- Whether a whole number is marked by `.0`. -/
  marksWhole : Bool
  /-- The choice between two shortest decimals at the same distance. -/
  tie : Tie

/-- Powers of ten from `1e-5` to below `1e16` are positional, a whole number ends in `.0`, and ties
go to the even digit. -/
def Layout.json : Layout := ⟨some (-5, 15), true, .even⟩

/-- Every number is positional, a whole number has no point, and ties go up. -/
def Layout.plain : Layout := ⟨none, false, .up⟩

/-- A run of zero digits; a negative count is an empty run. -/
def zeros (n : Int) : List Char := List.replicate n.toNat '0'

/-- Digits with a point before, inside or after them. -/
def positionalText (layout : Layout) (d : Decimal) : List Char :=
  let point : Int := d.digits.length + d.exponent
  if 0 ≤ d.exponent then
    d.digits ++ zeros d.exponent ++ (if layout.marksWhole then ['.', '0'] else [])
  else if 0 < point then
    d.digits.take point.toNat ++ '.' :: d.digits.drop point.toNat
  else '0' :: '.' :: zeros (-point) ++ d.digits

/-- One digit before the point and a signed power of ten. -/
def scientificText (d : Decimal) (power : Int) : List Char :=
  let mark := if power < 0 then '-' else '+'
  let fraction := match d.digits.tail with
    | [] => []
    | rest => '.' :: rest
  d.digits.take 1 ++ fraction ++ 'e' :: mark :: Nat.toDigits 10 power.natAbs

def text (layout : Layout) (x : Double) : String :=
  let d := shortest layout.tie x
  let power : Int := d.digits.length + d.exponent - 1
  let body := match layout.positional with
    | none => positionalText layout d
    | some (least, greatest) =>
      if least ≤ power ∧ power ≤ greatest then positionalText layout d
      else scientificText d power
  String.ofList (if x.negative then '-' :: body else body)

end Decimal
end BrickPipeline.Json
