import CallLibrary.Document.Node
import CallLibrary.Text.Hex

/-!
# TOML numbers, dates and times

Everything that is neither a string nor has brackets is one word: a boolean, a number, a date or a
time. Whether a word is a number is seen from its form, and the number is only worked out
afterwards, so a word in the form of a number may have no value: an integer that 128 bits do not
hold or that has digits of a larger base, and a double out of range. Doubles are rounded to the
nearest one.
-/

namespace CallLibrary.Document.Toml

open Decimal (Magnitude)

def wordEnds : List Char := ['=', ',', '[', ']', '\x7b', '\x7d', ' ', '\t', '#', '\r', '\n']

def isWordChar (c : Char) : Bool := !wordEnds.contains c

/-- The characters of a number without the underscores between them. An underscore has a digit on
both sides; `mayGroup` says whether a digit stands in front of the text. -/
def ungroup? (isDigit : Char → Bool) (mayGroup : Bool) : List Char → Option (List Char)
  | [] => some []
  | c :: rest =>
    if c = '_' then
      if mayGroup && rest.head?.any isDigit then ungroup? isDigit false rest else none
    else (c :: ·) <$> ungroup? isDigit (isDigit c) rest

/-- A number as an integer, if 128 bits hold it. -/
def integer (negative : Bool) (size : Nat) : Scalar :=
  if negative then if size ≤ Nat.pow 2 127 then .integer (-(size : Int)) else .brokenNumber
  else if size < Nat.pow 2 128 then .integer size
  else .brokenNumber

/-- Reads an integer with the digits of a base, after the letter for the base. Without digits it has
no value. -/
def readBase? (base : Nat) (word : List Char) : Option Scalar := do
  let digits ← ungroup? Text.isHexDigit false word
  let size ← Text.digitsValue? base digits
  some (if digits.isEmpty then .brokenNumber else integer false size)

/-- Whether a number is negative, and what follows its sign. -/
def splitSign : List Char → Bool × List Char
  | '-' :: rest => (true, rest)
  | '+' :: rest => (false, rest)
  | rest => (false, rest)

/-- Whether digits start with a zero that is not the only one of them. -/
def isPadded (digits : List Char) : Bool := digits.head? == some '0' && digits.length ≠ 1

/-- Reads a decimal integer after its sign. It has no value if other characters follow the digits
before an underscore or are grouped like digits. -/
def readInteger? (negative : Bool) (word : List Char) : Option Scalar := do
  let digits ← ungroup? Text.isHexDigit false word
  if digits.isEmpty || isPadded digits then none
  else match Text.digitsValue? 10 digits with
    | some size => some (integer negative size)
    | none => some .brokenNumber

/-- The value of a row of decimal digits that is not empty. -/
def digits? (word : List Char) : Option Nat :=
  if word.isEmpty then none
  else if word.all Char.isDigit then Text.digitsValue? 10 word
  else none

def readExponent? (word : List Char) : Option Int := do
  let (negative, word) := splitSign word
  let size ← digits? word
  some (if negative then -(size : Int) else size)

def isExponentMark (c : Char) : Bool := c == 'e' || c == 'E'

/-- Reads a double with a point, an exponent or both, after its sign. -/
def readFloat? (negative : Bool) (word : List Char) : Option Scalar := do
  let number ← ungroup? Char.isDigit false word
  let mantissa := number.takeWhile fun c => !isExponentMark c
  let exponent ← match number.drop mantissa.length with
    | [] => some 0
    | _ :: rest => readExponent? rest
  let whole := mantissa.takeWhile (· != '.')
  let fraction := (mantissa.drop whole.length).drop 1
  if isPadded whole || (whole.length ≠ mantissa.length && fraction.isEmpty) then none
  else do
    let _ ← digits? whole
    let digits ← digits? (whole ++ fraction)
    match Magnitude.ofDecimal? digits (exponent - fraction.length) with
    | some magnitude => some (.float (.finite negative magnitude))
    | none => some .brokenNumber

/-- Reads a decimal number after its sign. It is a double if a point or an exponent follows its
first digits at any distance, and otherwise an integer. -/
def readDecimal? (negative : Bool) (word : List Char) : Option Scalar :=
  let rest := word.dropWhile Char.isDigit
  if rest.any fun c => c == '.' || isExponentMark c then readFloat? negative word
  else if rest.isEmpty || rest.head? == some '_' then readInteger? negative word
  else none

/-- A number of exactly `count` digits at the start of a word, and what follows it. -/
def takeNumber (count : Nat) (word : List Char) : Option (Nat × List Char) := do
  let value ← digits? (word.take count)
  if count ≤ word.length then some (value, word.drop count) else none

/-- What follows a character at the start of a word. -/
def dropChar (c : Char) : List Char → Option (List Char)
  | d :: rest => if c = d then some rest else none
  | [] => none

def daysIn (year month : Nat) : Nat :=
  if month = 2 then
    if year % 4 = 0 && (year % 100 ≠ 0 || year % 400 = 0) then 29 else 28
  else if month = 4 || month = 6 || month = 9 || month = 11 then 30
  else 31

def dropDate (word : List Char) : Option (List Char) := do
  let (year, word) ← takeNumber 4 word
  let word ← dropChar '-' word
  let (month, word) ← takeNumber 2 word
  let word ← dropChar '-' word
  let (day, word) ← takeNumber 2 word
  if 1 ≤ month && month ≤ 12 && 1 ≤ day && day ≤ daysIn year month then some word else none

/-- What follows seconds at the start of a word, if there are any. A leap second counts, and there
may be a fraction. -/
def dropSeconds (word : List Char) : Option (List Char) :=
  match word with
  | ':' :: rest => do
    let (second, rest) ← takeNumber 2 rest
    if 60 < second then none
    else match rest with
      | '.' :: rest =>
        if (rest.head?.any Char.isDigit) then some (rest.dropWhile Char.isDigit) else none
      | rest => some rest
  | word => some word

def dropMinutes (word : List Char) : Option (List Char) := do
  let (hour, word) ← takeNumber 2 word
  let word ← dropChar ':' word
  let (minute, word) ← takeNumber 2 word
  if hour ≤ 23 && minute ≤ 59 then some word else none

def dropTime (word : List Char) : Option (List Char) := do
  let word ← dropMinutes word
  dropSeconds word

/-- Whether a word is nothing or the distance to universal time. -/
def isOffset (word : List Char) : Bool :=
  match word with
  | [] => true
  | ['Z'] => true
  | ['z'] => true
  | sign :: rest => (sign == '+' || sign == '-') && (dropMinutes rest).any (·.isEmpty)

def isTime (word : List Char) : Bool := (dropTime word).any (·.isEmpty)

/-- Whether a word is a date, with or without a time after it. -/
def isDate (word : List Char) : Bool :=
  match dropDate word with
  | none => false
  | some [] => true
  | some (mark :: rest) =>
    (mark == 'T' || mark == 't') && (dropTime rest).any isOffset

def readWord? (word : List Char) : Option Scalar :=
  let (negative, unsigned) := splitSign word
  if word = "true".toList then some (.boolean true)
  else if word = "false".toList then some (.boolean false)
  else if unsigned = "inf".toList then some (.float (.infinite negative))
  else if unsigned = "nan".toList then some (.float .notANumber)
  else if isDate word || isTime word then some .date
  else match word with
    | '0' :: 'x' :: rest => readBase? 16 rest
    | '0' :: 'o' :: rest => readBase? 8 rest
    | '0' :: 'b' :: rest => readBase? 2 rest
    | _ => readDecimal? negative unsigned

/-- The word at the start of a text, and the rest. A date and a time with a space between them are
one word. -/
def splitWord (text : List Char) : List Char × List Char :=
  let word := text.takeWhile isWordChar
  let rest := text.drop word.length
  match dropDate word, rest with
  | some [], ' ' :: c :: others =>
    if c.isDigit then
      let time := (c :: others).takeWhile isWordChar
      (word ++ 'T' :: time, (c :: others).drop time.length)
    else (word, rest)
  | _, _ => (word, rest)

end CallLibrary.Document.Toml
