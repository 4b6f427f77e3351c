/-!
# Doubles

A double is kept as an integer mantissa times a power of two, so that every comparison with a
decimal is one of natural numbers. Rounding takes the nearest double, and of two equally near ones
the one with an even mantissa.
-/

namespace CallLibrary.Decimal

/-- The size of a finite double: `mantissa * 2 ^ exponent`, with a mantissa below `2 ^ 53` and an
exponent of at least `-1074`. -/
structure Magnitude where
  mantissa : Nat
  exponent : Int
  deriving DecidableEq, Repr

inductive Binary64
  | finite (negative : Bool) (magnitude : Magnitude)
  | infinite (negative : Bool)
  | notANumber
  deriving DecidableEq, Repr

/-- The integer nearest to a quotient; a half goes to the even neighbour. -/
def roundHalfEven (num den : Nat) : Nat :=
  let quotient := num / den
  let twice := 2 * (num % den)
  if twice < den then quotient
  else if den < twice then quotient + 1
  else if quotient % 2 = 0 then quotient
  else quotient + 1

namespace Magnitude

def zero : Magnitude := ⟨0, -1074⟩

/-- The size as a quotient of natural numbers. -/
def numerator (x : Magnitude) : Nat := x.mantissa * Nat.pow 2 x.exponent.toNat

def denominator (x : Magnitude) : Nat := Nat.pow 2 (-x.exponent).toNat

/-- The power of two that the last bit of the mantissa stands for in a double near a positive
quotient. -/
def lastBit (num den : Nat) : Int :=
  let estimate : Int := (num.log2 : Int) - den.log2
  let leading :=
    if num * Nat.pow 2 (-estimate).toNat < den * Nat.pow 2 estimate.toNat then estimate - 1
    else estimate
  max (leading - 52) (-1074)

/-- The double nearest to a quotient, `none` beyond the largest one. -/
def ofRatio? (num den : Nat) : Option Magnitude :=
  if num = 0 then some zero
  else
    let last := lastBit num den
    let mantissa := roundHalfEven (num * Nat.pow 2 (-last).toNat) (den * Nat.pow 2 last.toNat)
    let (mantissa, last) :=
      if mantissa = Nat.pow 2 53 then (Nat.pow 2 52, last + 1) else (mantissa, last)
    if 971 < last then none else some ⟨mantissa, last⟩

/-- The double nearest to a decimal `digits * 10 ^ exponent`, `none` beyond the largest one. The
comparison by the number of digits keeps the powers of ten small. -/
def ofDecimal? (digits : Nat) (exponent : Int) : Option Magnitude :=
  let size : Int := (Nat.toDigits 10 digits).length + exponent
  if digits = 0 then some zero
  else if 310 < size then none
  else if size < -330 then some zero
  else ofRatio? (digits * Nat.pow 10 exponent.toNat) (Nat.pow 10 (-exponent).toNat)

/-- The rounded product with the double nearest to `10 ^ power`. -/
def timesPower? (x : Magnitude) (power : Nat) : Option Magnitude := do
  let p ← ofRatio? (Nat.pow 10 power) 1
  ofRatio? (x.numerator * p.numerator) (x.denominator * p.denominator)

/-- The rounded quotient by the double nearest to `10 ^ power`. -/
def dividePower? (x : Magnitude) (power : Nat) : Option Magnitude := do
  let p ← ofRatio? (Nat.pow 10 power) 1
  ofRatio? (x.numerator * p.denominator) (x.denominator * p.numerator)

/-- A double moved by a power of ten in single rounded steps of at most `10 ^ 308`, `none` beyond
the largest double. Four steps down take every double to zero. -/
def shift? (x : Magnitude) (exponent : Int) : Nat → Option Magnitude
  | 0 => some zero
  | steps + 1 =>
    if x.mantissa = 0 then some zero
    else if 308 < exponent then none
    else if 0 ≤ exponent then x.timesPower? exponent.toNat
    else if -308 ≤ exponent then x.dividePower? (-exponent).toNat
    else do
      let smaller ← x.dividePower? 308
      smaller.shift? (exponent + 308) steps

end Magnitude

end CallLibrary.Decimal
