import InlineCompletion.Text.Digit

/-!
Numbers of a JSON text. A numeral is kept as it is written until its value is asked for: a text may
hold numbers beyond the range of the doubles as long as nobody reads them.
-/
namespace InlineCompletion.Json

/-- A number as it is written: its digits by their values. -/
structure Numeral where
  negative : Bool
  whole : List Nat
  /-- The digits after the point, if there is one. -/
  fraction : Option (List Nat)
  /-- The exponent, if there is one: whether it is negative, and its digits. -/
  exponent : Option (Bool × List Nat)
deriving Repr, DecidableEq

/-- What a numeral stands for. -/
inductive Numeral.Value where
  | integer (value : Int)
  | double (value : Float)

/-- Digits appended to a significand as long as it fits 64 bits, and the number of digits that did
not find room. -/
def appendDigits (significand : Nat) : List Nat → Nat × Nat
  | [] => (significand, 0)
  | digit :: rest =>
    if 10 * significand + digit < Nat.pow 2 64 then appendDigits (10 * significand + digit) rest
    else (significand, rest.length + 1)

/-- The double next to a power of ten, for exponents up to 308. -/
def powerOfTen (exponent : Nat) : Float :=
  .ofScientific 1 false exponent

/-- A double divided by a power of ten, in steps of at most `10^308`. -/
def divideByPower (x : Float) (exponent : Nat) : Float :=
  if exponent ≤ 308 then x / powerOfTen exponent
  else if x == 0 then x
  else divideByPower (x / powerOfTen 308) (exponent - 308)
termination_by exponent

/-- A significand times a power of ten: the significand is rounded to a double, and so is the
result. A result beyond the doubles has no value; zero keeps its value whatever the exponent. -/
def scale? (significand : Nat) (exponent : Int) : Option Float :=
  let x := significand.toUInt64.toFloat
  if exponent < 0 then some (divideByPower x exponent.natAbs)
  else if significand = 0 then some x
  else if 308 < exponent then none
  else
    let y := x * powerOfTen exponent.natAbs
    if y.isInf then none else some y

/-- The double that a significand and an exponent stand for, with its sign. -/
def signed? (negative : Bool) (significand : Nat) (exponent : Int) : Option Numeral.Value :=
  (scale? significand exponent).map fun x => .double (if negative then -x else x)

/-- The value of a numeral. Without fraction and exponent it is an integer if it fits 64 bits,
signed or not; negative zero and all else are doubles. The significand takes digits while it fits 64
bits; further digits of the whole part count for their places only, further digits of the fraction
for nothing. -/
def Numeral.value? (n : Numeral) : Option Numeral.Value :=
  let (whole, beyond) := appendDigits 0 n.whole
  match n.fraction, n.exponent, beyond with
  | none, none, 0 =>
    if !n.negative then some (.integer whole)
    else if 0 < whole ∧ whole ≤ Nat.pow 2 63 then some (.integer (-whole))
    else signed? true whole 0
  | fraction, exponent, _ =>
    let digits := fraction.getD []
    let (significand, unread) := appendDigits whole digits
    let shift : Int := match exponent with
      | none => 0
      | some (true, digits) => -(Text.ofDigits 10 digits : Int)
      | some (false, digits) => Text.ofDigits 10 digits
    signed? n.negative significand ((beyond : Int) - ((digits.length - unread : Nat) : Int) + shift)

end InlineCompletion.Json
