import InlineCompletion.Decimal.Shortest

/-!
Written forms of a double. The digits are those of the shortest decimal; a layout says where the
point stands, when an exponent is written, and how the special values are spelled.
-/
namespace InlineCompletion.Decimal

/-- The decisions of a written form. -/
structure Layout where
  /-- Which of two equally near decimals is written. -/
  tie : Tie
  /-- The decimal exponents for which no exponent is written, if not all: the first and the one
  behind the last. -/
  positional : Option (Int × Int)
  /-- What follows a whole number. -/
  wholeMark : String
deriving Repr, DecidableEq

/-- The plain form: always positional, a whole number without a point. -/
def Layout.plain : Layout :=
  ⟨.up, none, ""⟩

/-- The data form: an exponent from `1e+16` on and below `1e-5`, and a point in each whole number
that is written without an exponent. -/
def Layout.data : Layout :=
  ⟨.toEven, some (-5, 16), ".0"⟩

/-- A row of zeros. -/
def zeros (n : Nat) : List Char :=
  List.replicate n '0'

/-- Digits with the decimal point in front of the digit with this index, zeros filled in as needed.
A whole number is followed by `wholeMark`. -/
def pointAt (digits : List Char) (index : Int) (wholeMark : String) : List Char :=
  if index ≤ 0 then ['0', '.'] ++ zeros (-index).toNat ++ digits
  else if digits.length ≤ index.toNat then
    digits ++ zeros (index.toNat - digits.length) ++ wholeMark.toList
  else digits.take index.toNat ++ ['.'] ++ digits.drop index.toNat

/-- Digits in front of a power of ten: one digit, then a point and the others if there are any. -/
def withExponent (digits : List Char) (exponent : Int) : List Char :=
  let fraction := match digits.drop 1 with
    | [] => []
    | others => '.' :: others
  let sign := if exponent < 0 then '-' else '+'
  digits.take 1 ++ fraction ++ ['e', sign] ++ Nat.toDigits 10 exponent.natAbs

/-- A decimal in writing. Its exponent is that of its first digit. -/
def Scientific.layOut (d : Scientific) (layout : Layout) : List Char :=
  let digits := Nat.toDigits 10 d.digits
  let exponent := (digits.length : Int) + d.exponent - 1
  match layout.positional with
  | some (first, last) =>
    if first ≤ exponent ∧ exponent < last then pointAt digits (exponent + 1) layout.wholeMark
    else withExponent digits exponent
  | none => pointAt digits (exponent + 1) layout.wholeMark

/-- A double in writing. -/
def writeFloat (layout : Layout) (x : Float) : String :=
  if x.isNaN then "NaN"
  else
    let bits := x.toBits.toNat
    let magnitude :=
      if x.isInf then "inf".toList
      else if bits % Nat.pow 2 63 = 0 then '0' :: layout.wholeMark.toList
      else (shortest (Binary.ofBits bits) layout.tie).layOut layout
    .ofList (if bits / Nat.pow 2 63 = 1 then '-' :: magnitude else magnitude)

end InlineCompletion.Decimal
