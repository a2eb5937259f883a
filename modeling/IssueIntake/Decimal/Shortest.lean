import IssueIntake.Decimal.Double
/-!
# The shortest decimal of a double

The decimals that a reader rounds to a given double fill an interval around it. `shortest` finds
the coarsest power-of-ten grid that has a point in that interval, and of its points the one
nearest to the double: no decimal with fewer digits reads back.
-/

namespace IssueIntake.Double

/-- A positive decimal `digits · 10 ^ e`. -/
structure Decimal where
  digits : Nat
  e : Int
  deriving DecidableEq, Repr

/-- The interval that rounds to a double, in quarters of the last place of its significand: lower
end, the double itself, upper end. Just above a power of two the doubles below are twice as
dense. -/
def interval (x : Double) : Nat × Nat × Nat :=
  let m := x.significand
  let dense := x.magnitude % Nat.pow 2 52 == 0 && 2 ≤ x.magnitude / Nat.pow 2 52
  (4 * m - (if dense then 1 else 2), 4 * m, 4 * m + 2)

/-- Whether the point `n` of a grid lies between `low · num / den` and `high · num / den`. The ends
belong to the interval when it is `closed`. -/
def within (closed : Bool) (low high num den n : Nat) : Bool :=
  if closed then low * num ≤ n * den && n * den ≤ high * num
  else low * num < n * den && n * den < high * num

/-- The point of the grid of step `10 ^ e` that lies in the interval, if there is one: of the two
next to the double the nearer, and the even one where both are equally near. The ends belong to
the interval where the significand is even. -/
def gridPoint? (x : Double) (e : Int) : Option Decimal :=
  let (low, mid, high) := x.interval
  let (up, down) := scaleBy 1 1 (x.exponent - 2)
  let (num, den) :=
    if 0 ≤ e then (up, down * Nat.pow 10 e.toNat) else (up * Nat.pow 10 (-e).toNat, down)
  let inside := within (x.significand % 2 == 0) low high num den
  let near := roundQuotient (mid * num) den
  let below := mid * num / den
  if 0 < near && inside near then some ⟨near, e⟩
  else if 0 < below && inside below then some ⟨below, e⟩
  else if inside (below + 1) then some ⟨below + 1, e⟩
  else none

/-- The first hit among the grids of step `10 ^ e`, `10 ^ (e - 1)` and so on. -/
def firstHit (x : Double) : Nat → Int → Option Decimal
  | 0, _ => none
  | tries + 1, e =>
    match x.gridPoint? e with
    | some d => some d
    | none => x.firstHit tries (e - 1)

/-- The shortest decimal that reads back as a positive finite double. -/
def shortest (x : Double) : Decimal :=
  let bits : Int := x.exponent + Nat.log2 x.significand
  ((x.firstHit 24 (bits * 30103 / 100000 + 2))).getD ⟨0, 0⟩

/-- The digits and the point of a number that is written without an exponent: `point` digits stand
before it. -/
def positional (digits : List Char) (point : Int) : List Char :=
  if point ≤ 0 then '0' :: '.' :: (List.replicate (-point).toNat '0' ++ digits)
  else
    let whole := digits.take point.toNat
    let rest := digits.drop point.toNat
    whole ++ List.replicate (point.toNat - digits.length) '0' ++ '.' ::
      (if rest.isEmpty then ['0'] else rest)

/-- The digits and the exponent of a number in scientific notation. -/
def scientific (digits : List Char) (e : Int) : List Char :=
  let mantissa :=
    match digits with
    | d :: f :: rest => d :: '.' :: f :: rest
    | ds => ds
  mantissa ++ 'e' :: (if e < 0 then '-' else '+') :: Nat.toDigits 10 e.natAbs

/-- A finite double in writing: positional with at least one digit after the point where the
decimal exponent is from -5 to 15, scientific outside. -/
def chars (x : Double) : List Char :=
  let sign := if x.negative then ['-'] else []
  if x.magnitude = 0 then sign ++ ['0', '.', '0']
  else
    let d := x.shortest
    let digits := Nat.toDigits 10 d.digits
    let e := d.e + digits.length - 1
    sign ++ (if -5 ≤ e ∧ e ≤ 15 then positional digits (e + 1) else scientific digits e)

end IssueIntake.Double
