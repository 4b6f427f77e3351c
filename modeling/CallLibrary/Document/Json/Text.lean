import CallLibrary.Text.Hex

/-!
# JSON strings

Characters outside the range of four hexadecimal digits are escaped as a surrogate pair. An escape
for half of such a pair spells no text, but the string around it is still well formed.
-/

namespace CallLibrary.Document.Json

/-- What a string spells: its characters, and whether all of its escapes spell a character. -/
structure Spelling where
  characters : List Char
  isWhole : Bool

namespace Spelling

def text? (s : Spelling) : Option String :=
  if s.isWhole then some (String.ofList s.characters) else none

def push (s : Spelling) (c : Char) : Spelling := { s with characters := c :: s.characters }

/-- Half of a surrogate pair in front. -/
def spoil (s : Spelling) : Spelling := { s with isWhole := false }

end Spelling

def simpleEscape? (c : Char) : Option Char :=
  match c with
  | '"' => some '"'
  | '\\' => some '\\'
  | '/' => some '/'
  | 'b' => some '\x08'
  | 'f' => some '\x0c'
  | 'n' => some '\n'
  | 'r' => some '\r'
  | 't' => some '\t'
  | _ => none

def isHighSurrogate (unit : Nat) : Bool := 0xD800 ≤ unit && unit < 0xDC00

def isLowSurrogate (unit : Nat) : Bool := 0xDC00 ≤ unit && unit < 0xE000

def joinSurrogates (high low : Nat) : Char :=
  Char.ofNat (0x10000 + (high - 0xD800) * 0x400 + (low - 0xDC00))

def codeUnit? (a b c d : Char) : Option Nat := Text.digitsValue? 16 [a, b, c, d]

/-- The second half of a surrogate pair, if a text starts with an escape for one. -/
def lowSurrogate? : List Char → Option Nat
  | '\\' :: 'u' :: a :: b :: c :: d :: _ =>
    match codeUnit? a b c d with
    | some low => if isLowSurrogate low then some low else none
    | none => none
  | _ => none

/-- Reads a string after its opening quote: what it spells, and the text after its closing quote.
`high` is the first half of a surrogate pair whose second half comes next. -/
def readSpelling (high : Option Nat) : List Char → Option (Spelling × List Char)
  | [] => none
  | '"' :: rest => some (⟨[], true⟩, rest)
  | '\\' :: 'u' :: a :: b :: c :: d :: rest => do
    let unit ← codeUnit? a b c d
    match high with
    | some high =>
      let (spelling, rest) ← readSpelling none rest
      some (spelling.push (joinSurrogates high unit), rest)
    | none =>
      if isHighSurrogate unit && (lowSurrogate? rest).isSome then
        readSpelling (some unit) rest
      else
        let (spelling, rest) ← readSpelling none rest
        if isHighSurrogate unit || isLowSurrogate unit then some (spelling.spoil, rest)
        else some (spelling.push (Char.ofNat unit), rest)
  | '\\' :: c :: rest => do
    let c ← simpleEscape? c
    let (spelling, rest) ← readSpelling none rest
    some (spelling.push c, rest)
  | c :: rest =>
    if c.toNat < 0x20 then none
    else do
      let (spelling, rest) ← readSpelling none rest
      some (spelling.push c, rest)

end CallLibrary.Document.Json
