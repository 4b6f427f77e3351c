import CallLibrary.Decimal.Shortest

/-!
# The text of a double

A double is written with its shortest digits. A style says for which sizes the point stands among
the digits and for which there is an exponent, and which of two equally near decimals is taken.
-/

namespace CallLibrary.Decimal

/-- How doubles are written. -/
structure Style where
  /-- Whether a number whose leading digit stands for this power of ten is written without an
  exponent. -/
  isPlain : Int → Bool
  tie : Tie

namespace Style

/-- Digits without an exponent. A whole number keeps a zero after its point. -/
def plain (digits : List Char) (power : Int) : List Char :=
  let whole := (power + 1).toNat
  if power < 0 then ['0', '.'] ++ List.replicate (-power - 1).toNat '0' ++ digits
  else if digits.length ≤ whole then
    digits ++ List.replicate (whole - digits.length) '0' ++ ['.', '0']
  else digits.take whole ++ '.' :: digits.drop whole

/-- Digits with an exponent that always carries its sign. -/
def scientific (digits : List Char) (power : Int) : List Char :=
  let mark := if power < 0 then ['e', '-'] else ['e', '+']
  let point := if digits.length ≤ 1 then [] else '.' :: digits.drop 1
  digits.take 1 ++ point ++ mark ++ Nat.toDigits 10 power.natAbs

def magnitude (style : Style) (x : Magnitude) : List Char :=
  let decimal := shortest style.tie x
  let digits := Nat.toDigits 10 decimal.digits
  let power := decimal.exponent + digits.length - 1
  if style.isPlain power then plain digits power else scientific digits power

def render (style : Style) : Binary64 → String
  | .finite false x => String.ofList (style.magnitude x)
  | .finite true x => String.ofList ('-' :: style.magnitude x)
  | .infinite false => "inf"
  | .infinite true => "-inf"
  | .notANumber => "NaN"

end Style

end CallLibrary.Decimal
