/-!
# Base sixteen

Digits are written in lower case; both cases are read.
-/

namespace CallLibrary.Text

def hexDigit (n : Nat) : Char :=
  if n < 10 then Char.ofNat (48 + n) else Char.ofNat (87 + n)

/-- The value of a digit in either case. -/
def hexValue? (c : Char) : Option Nat :=
  if '0' ≤ c ∧ c ≤ '9' then some (c.toNat - 48)
  else if 'a' ≤ c ∧ c ≤ 'f' then some (c.toNat - 87)
  else if 'A' ≤ c ∧ c ≤ 'F' then some (c.toNat - 55)
  else none

def isHexDigit (c : Char) : Bool :=
  (hexValue? c).isSome

/-- Each byte as two digits, high digit first. -/
def hexBytes : List UInt8 → List Char
  | [] => []
  | b :: rest => hexDigit (b.toNat / 16) :: hexDigit (b.toNat % 16) :: hexBytes rest

/-- The bytes that digits spell two by two. There are none for an odd number of characters, nor
where one of them is no digit. -/
def bytesOfHex? : List Char → Option (List UInt8)
  | [] => some []
  | [_] => none
  | high :: low :: rest => do
    let high ← hexValue? high
    let low ← hexValue? low
    let bytes ← bytesOfHex? rest
    return UInt8.ofNat (16 * high + low) :: bytes

/-- The number that digits of a base below seventeen spell, most significant digit first; `none`
when a character is not a digit of that base. -/
def digitsValue? (base : Nat) (digits : List Char) : Option Nat :=
  digits.foldl
    (fun value? c => do
      let value ← value?
      let digit ← hexValue? c
      if digit < base then some (value * base + digit) else none)
    (some 0)

/-- The digits of a number in base sixteen, without leading zeros. -/
def hexNat (n : Nat) : List Char :=
  Nat.toDigits 16 n

end CallLibrary.Text
