/-!
# Doubles

Finite numbers in the 64-bit binary format of IEEE 754, as their bit patterns, with exact
rounding. A double is `± m · 2 ^ q`; every quotient of naturals has a nearest one, and of two that
are equally near the one with an even `m` is taken.
-/

namespace IssueIntake

/-- A number in the 64-bit binary format. -/
structure Double where
  bits : UInt64
  deriving DecidableEq, Repr

namespace Double

/-- Whether the sign bit is set. -/
def negative (x : Double) : Bool :=
  x.bits.toNat / Nat.pow 2 63 == 1

/-- The bits below the sign. -/
def magnitude (x : Double) : Nat :=
  x.bits.toNat % Nat.pow 2 63

/-- The factor `m` of `m · 2 ^ q`. -/
def significand (x : Double) : Nat :=
  if x.magnitude / Nat.pow 2 52 = 0 then x.magnitude
  else x.magnitude % Nat.pow 2 52 + Nat.pow 2 52

/-- The exponent `q` of `m · 2 ^ q`. -/
def exponent (x : Double) : Int :=
  if x.magnitude / Nat.pow 2 52 = 0 then -1074 else (x.magnitude / Nat.pow 2 52 : Nat) - 1075

/-- The pattern of infinity, above those of all finite numbers. -/
def infinity : Nat := 2047 * Nat.pow 2 52

/-- The double with a sign and the bits below it. -/
def ofMagnitude (negative : Bool) (magnitude : Nat) : Double :=
  ⟨UInt64.ofNat (if negative then Nat.pow 2 63 + magnitude else magnitude)⟩

/-- Positive zero. -/
def zero : Double := ofMagnitude false 0

/-- The number with the other sign. -/
def neg (x : Double) : Double :=
  ofMagnitude (!x.negative) x.magnitude

/-- The whole number nearest to a quotient; halves go to the even neighbour. -/
def roundQuotient (num den : Nat) : Nat :=
  let q := num / den
  let r := num % den
  if 2 * r < den then q else if den < 2 * r then q + 1 else if q % 2 = 0 then q else q + 1

/-- Multiplies a fraction by a power of two. -/
def scaleBy (num den : Nat) (e : Int) : Nat × Nat :=
  if 0 ≤ e then (num * Nat.pow 2 e.toNat, den) else (num, den * Nat.pow 2 (-e).toNat)

/-- The bits of the double nearest to `num / den`, which are `infinity` or more where no finite
one is near. The exponent is chosen so that `m` has 53 bits, unless the number is too small. -/
def nearest (num den : Nat) : Nat :=
  if num = 0 then 0
  else
    let guess : Int := max ((Nat.log2 num : Int) - Nat.log2 den - 53) (-1074)
    let (n, d) := scaleBy num den (-guess)
    let q := if n / d < Nat.pow 2 53 then guess else guess + 1
    let (n, d) := scaleBy num den (-q)
    (q + 1074).toNat * Nat.pow 2 52 + roundQuotient n d

/-- The double nearest to a natural number below `2 ^ 64`. -/
def ofNat (n : Nat) : Double :=
  ofMagnitude false (nearest n 1)

/-- The double nearest to `x · y`, for `x` and `y` that are not negative, if it is finite. -/
def mul? (x y : Double) : Option Double :=
  let (n, d) := scaleBy (x.significand * y.significand) 1 (x.exponent + y.exponent)
  let m := nearest n d
  if m < infinity then some (ofMagnitude false m) else none

/-- The double nearest to `x / y`, for `x` not negative and `y` at least one. -/
def div (x y : Double) : Double :=
  let (n, d) := scaleBy x.significand y.significand (x.exponent - y.exponent)
  ofMagnitude false (nearest n d)

/-- The double nearest to a power of ten. -/
def tenPow (e : Nat) : Double :=
  ofMagnitude false (nearest (Nat.pow 10 e) 1)

/-- The double for `significand · 10 ^ e`, reached by one multiplication or division by a rounded
power of ten, or by two divisions where the exponent is below -308; none if it is not finite. The
result may differ from the nearest double in its last bits. -/
def ofDecimal? (significand : Nat) (e : Int) : Option Double :=
  let x := ofNat significand
  if 0 ≤ e then
    if e ≤ 308 then x.mul? (tenPow e.toNat)
    else if significand = 0 then some zero
    else none
  else if -308 ≤ e then some (x.div (tenPow (-e).toNat))
  else if -616 ≤ e then some ((x.div (tenPow 308)).div (tenPow (-e - 308).toNat))
  else some zero

end Double

end IssueIntake
