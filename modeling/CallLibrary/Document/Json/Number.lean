import CallLibrary.Document.Node
import CallLibrary.Text.Hex

/-!
# JSON numbers

A number without point and exponent is an integer if 64 bits hold it. Every other number is a
double. Its digits are read as long as the number that they spell fits 64 bits; later digits only
count for the size. The double is that number moved by a power of ten in rounded steps.
-/

namespace CallLibrary.Document.Json

open Decimal (Binary64 Magnitude)

/-- The largest number that the digits of a double are read into. -/
def digitsLimit : Nat := Nat.pow 2 64 - 1

def digitValue (c : Char) : Nat := c.toNat - 48

/-- Reads digits onto a number as long as it stays within the limit: the number, and the digits that
are left. -/
def takeDigits (value : Nat) : List Char → Nat × List Char
  | [] => (value, [])
  | c :: rest =>
    let next := value * 10 + digitValue c
    if next ≤ digitsLimit then takeDigits next rest else (value, c :: rest)

/-- The parts of a number as written. -/
structure Literal where
  negative : Bool
  /-- The digits before the point. -/
  whole : List Char
  /-- The digits after the point, if there is a point. -/
  fraction : Option (List Char)
  /-- Whether the exponent is negative, and its digits, if there is an exponent. -/
  exponent : Option (Bool × List Char)

namespace Literal

/-- The largest size of an exponent that is added up; a larger one moves any number but zero out of
range. -/
def exponentLimit : Nat := Nat.pow 2 31 - 1

/-- The size of the double that a number stands for, `none` beyond the largest double. -/
def magnitude? (l : Literal) : Option Magnitude := do
  let (whole, surplus) := takeDigits 0 l.whole
  let fraction := l.fraction.getD []
  let (digits, ignored) := takeDigits whole fraction
  let power : Int := (surplus.length : Int) - (fraction.length - ignored.length : Nat)
  let start ← Magnitude.ofRatio? digits 1
  match l.exponent with
  | none => start.shift? power 4
  | some (isNegative, text) =>
    let size := (Text.digitsValue? 10 text).getD 0
    if exponentLimit < size then
      if digits = 0 || isNegative then some .zero else none
    else start.shift? (if isNegative then power - size else power + size) 4

/-- The value of a number. A double out of range has none. -/
def value (l : Literal) : Scalar :=
  let double : Scalar := match l.magnitude? with
    | some m => .float (.finite l.negative m)
    | none => .brokenNumber
  match l.fraction, l.exponent with
  | none, none =>
    let size := (Text.digitsValue? 10 l.whole).getD 0
    if l.negative then
      if 0 < size && size ≤ Nat.pow 2 63 then .integer (-(size : Int)) else double
    else if size ≤ digitsLimit then .integer size
    else double
  | _, _ => double

/-- Reads a number at the start of a text: the number and the rest. There are no leading zeros, and
a point or an exponent has at least one digit. -/
def read (text : List Char) : Option (Literal × List Char) := do
  let (negative, text) := match text with
    | '-' :: rest => (true, rest)
    | text => (false, text)
  let whole := text.takeWhile Char.isDigit
  let text := text.dropWhile Char.isDigit
  if whole.isEmpty || (whole.head? == some '0' && whole.length ≠ 1) then none
  else
    let (fraction, text) ← match text with
      | '.' :: rest =>
        let digits := rest.takeWhile Char.isDigit
        if digits.isEmpty then none else some (some digits, rest.dropWhile Char.isDigit)
      | text => some (none, text)
    let (exponent, text) ← match text with
      | c :: rest =>
        if c = 'e' || c = 'E' then
          let (isNegative, rest) := match rest with
            | '-' :: rest => (true, rest)
            | '+' :: rest => (false, rest)
            | rest => (false, rest)
          let digits := rest.takeWhile Char.isDigit
          if digits.isEmpty then none
          else some (some (isNegative, digits), rest.dropWhile Char.isDigit)
        else some (none, c :: rest)
      | [] => some (none, [])
    some (⟨negative, whole, fraction, exponent⟩, text)

end Literal

end CallLibrary.Document.Json
