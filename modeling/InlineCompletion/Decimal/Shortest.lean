/-!
The shortest decimal that reads back as a given double. A double stands for all numbers that round
to it; these fill an interval around its value. On the grid of the multiples of a power of ten, if
any point lies in that interval then one of the two neighbours of the value does. The coarsest grid
with such a point gives the shortest decimal, and of two points on it the nearer one is taken.
-/
namespace InlineCompletion.Decimal

/-- Which of two equally near decimals is taken. -/
inductive Tie where
  | up
  | toEven
deriving Repr, DecidableEq

/-- A positive number `digits · 10 ^ exponent`. -/
structure Scientific where
  digits : Nat
  exponent : Int
deriving Repr, DecidableEq

/-- A positive finite double `mantissa · 2 ^ exponent`. -/
structure Binary where
  mantissa : Nat
  exponent : Int
  /-- Whether the next smaller double is only half as far away as the next larger one. -/
  closeBelow : Bool
deriving Repr, DecidableEq

/-- The magnitude of a finite double, from its bits. -/
def Binary.ofBits (bits : Nat) : Binary :=
  let fraction : Nat := bits % Nat.pow 2 52
  let raised : Nat := bits / Nat.pow 2 52 % Nat.pow 2 11
  if raised = 0 then ⟨fraction, -1074, false⟩
  else ⟨Nat.pow 2 52 + fraction, (raised : Int) - 1075, fraction == 0 && decide (1 < raised)⟩

/-- A double's interval and value as whole numbers over a common denominator. -/
structure Interval where
  low : Nat
  value : Nat
  high : Nat
  denominator : Nat
  /-- Whether the ends of the interval read back too. -/
  closed : Bool

/-- The numbers that round to a double reach half way to its neighbours. The ends are included when
the mantissa is even. -/
def Binary.interval (b : Binary) : Interval :=
  let scale := Nat.pow 2 (b.exponent - 2).toNat
  let low := if b.closeBelow then 4 * b.mantissa - 1 else 4 * b.mantissa - 2
  ⟨low * scale, 4 * b.mantissa * scale, (4 * b.mantissa + 2) * scale,
    Nat.pow 2 (2 - b.exponent).toNat, b.mantissa % 2 = 0⟩

/-- The same interval counted in units of `10 ^ exponent`. -/
def Interval.inUnits (i : Interval) (exponent : Int) : Interval :=
  let scale := Nat.pow 10 (-exponent).toNat
  ⟨i.low * scale, i.value * scale, i.high * scale, i.denominator * Nat.pow 10 exponent.toNat,
    i.closed⟩

/-- Whether a whole number lies in an interval. -/
def Interval.holds (i : Interval) (n : Nat) : Bool :=
  if i.closed then i.low ≤ n * i.denominator && n * i.denominator ≤ i.high
  else i.low < n * i.denominator && n * i.denominator < i.high

/-- The whole number of an interval that is nearest to its value, if the interval holds any. -/
def Interval.nearest? (i : Interval) (tie : Tie) : Option Nat :=
  let below := i.value / i.denominator
  let rest := i.value % i.denominator
  let preferUpper : Bool := match tie with
    | .up => decide (i.denominator ≤ 2 * rest)
    | .toEven => decide (i.denominator < 2 * rest) || i.denominator == 2 * rest && below % 2 == 1
  match i.holds below, i.holds (below + 1) with
  | true, true => some (if preferUpper then below + 1 else below)
  | true, false => some below
  | false, true => some (below + 1)
  | false, false => none

/-- The first of `fuel` grids, each ten times finer than the one before, with a point in the
interval. Behind the last grid the value itself is returned. -/
def coarsest (i : Interval) (tie : Tie) : Nat → Int → Scientific
  | 0, exponent => ⟨(i.inUnits exponent).value / (i.inUnits exponent).denominator, exponent⟩
  | fuel + 1, exponent =>
    match (i.inUnits exponent).nearest? tie with
    | some digits => ⟨digits, exponent⟩
    | none => coarsest i tie fuel (exponent - 1)

/-- The shortest decimal that reads back as a double. The search starts at a power of ten above the
value; a double is a whole number of units of the last grid. -/
def shortest (b : Binary) (tie : Tie) : Scientific :=
  let i := b.interval
  let start := (Nat.toDigits 10 (i.value / i.denominator)).length
  coarsest i tie (start + 1074) start

end InlineCompletion.Decimal
