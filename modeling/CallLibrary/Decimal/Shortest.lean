import CallLibrary.Decimal.Binary64

/-!
# The fewest digits that read back

A double is written with the fewest decimal digits that lie nearer to it than to any other double.
Of several such decimals the nearest is taken. Everything is compared in natural numbers: the
double, and the middle between it and each of its neighbours, are multiples of a quarter of its last
bit.
-/

namespace CallLibrary.Decimal

/-- Which of two equally near decimals is taken. -/
inductive Tie
  | even
  | up
  deriving DecidableEq, Repr

/-- A decimal `digits * 10 ^ exponent`. -/
structure Scientific where
  digits : Nat
  exponent : Int
  deriving DecidableEq, Repr

def digitCount (n : Nat) : Nat := (Nat.toDigits 10 n).length

/-- The power of ten of the leading digit of a positive quotient. -/
def leadingPower (num den : Nat) : Int :=
  if den ≤ num then (digitCount (num / den) : Int) - 1
  else
    let count := digitCount (den / num)
    if den ≤ num * Nat.pow 10 (count - 1) then 1 - (count : Int) else -(count : Int)

/-- The decimals that read back to a double, in units of a quarter of its last bit. -/
structure Interval where
  low : Nat
  high : Nat
  closed : Bool
  /-- The exponent of two of the unit. -/
  unit : Int

namespace Interval

/-- Half way to the neighbours of a positive double. The ends belong to it when its mantissa is
even; the neighbour below a power of two is twice as near. -/
def around (x : Magnitude) : Interval where
  low :=
    if x.mantissa = Nat.pow 2 52 && -1074 < x.exponent then 4 * x.mantissa - 1
    else 4 * x.mantissa - 2
  high := 4 * x.mantissa + 2
  closed := x.mantissa % 2 == 0
  unit := x.exponent - 2

/-- Whether a decimal reads back. -/
def contains (i : Interval) (d : Scientific) : Bool :=
  let point := d.digits * Nat.pow 10 d.exponent.toNat * Nat.pow 2 (-i.unit).toNat
  let scale := Nat.pow 2 i.unit.toNat * Nat.pow 10 (-d.exponent).toNat
  if i.closed then i.low * scale ≤ point && point ≤ i.high * scale
  else i.low * scale < point && point < i.high * scale

end Interval

/-- The decimal with `count` digits that reads back and is nearest, if there is one. -/
def nearest? (tie : Tie) (x : Magnitude) (count : Nat) : Option Scientific :=
  let power := leadingPower x.numerator x.denominator - ((count : Int) - 1)
  let num := x.numerator * Nat.pow 10 (-power).toNat
  let den := x.denominator * Nat.pow 10 power.toNat
  let below : Scientific := ⟨num / den, power⟩
  let above : Scientific := ⟨num / den + 1, power⟩
  let interval := Interval.around x
  match interval.contains below, interval.contains above with
  | true, true =>
    let twice := 2 * (num % den)
    if twice < den then some below
    else if den < twice then some above
    else if tie = .even && below.digits % 2 = 0 then some below
    else some above
  | true, false => some below
  | false, true => some above
  | false, false => none

/-- A decimal without zeros at its end; a number of `fuel` digits loses them all. -/
def Scientific.trim (d : Scientific) : Nat → Scientific
  | 0 => d
  | fuel + 1 =>
    if d.digits ≠ 0 && d.digits % 10 = 0 then
      (⟨d.digits / 10, d.exponent + 1⟩ : Scientific).trim fuel
    else d

/-- The shortest decimal that reads back. Seventeen digits are enough for every double. -/
def shortest (tie : Tie) (x : Magnitude) : Scientific :=
  if x.mantissa = 0 then ⟨0, 0⟩
  else match (List.range 17).findSome? fun n => nearest? tie x (n + 1) with
    | some d => d.trim (digitCount d.digits)
    | none => ⟨x.numerator / x.denominator, 0⟩

end CallLibrary.Decimal
