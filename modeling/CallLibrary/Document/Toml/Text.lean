import CallLibrary.Text.Hex

/-!
# TOML strings

There are basic strings with escapes and literal strings without, each on one line or on several. A
string is read one character at a time; what a character means depends on the state that the
characters before it left, and for quotes and line ends on the characters after it.
-/

namespace CallLibrary.Document.Toml

/-- Where in an escape the next character stands. -/
inductive EscapeState
  /-- Outside of escapes. -/
  | plain
  /-- After a backslash. -/
  | opened
  /-- Before the last `left` digits of a code point, which so far has the given value. -/
  | digits (left value : Nat)
  /-- After a backslash at the end of a line, where blanks are dropped; whether the line has ended.
  -/
  | trimming (ended : Bool)
  deriving DecidableEq, Repr

/-- What one character of a string does. -/
inductive Step
  /-- It makes a character of the text. -/
  | emit (c : Char) (next : EscapeState)
  /-- It makes none. -/
  | skip (next : EscapeState)
  /-- It starts the closing quotes: the text before them, and what follows them. -/
  | close (last rest : List Char)
  /-- It cannot stand here. -/
  | refuse

/-- Whether a character may stand in a string on one line: all but control characters other than the
tab. -/
def isStringChar (c : Char) : Bool := c == '\t' || (0x20 ≤ c.toNat && c.toNat != 0x7F)

/-- Whether a carriage return belongs to a line end, given what follows it. -/
def startsLineFeed (rest : List Char) : Bool := rest.head? == some '\n'

def simpleEscape? (c : Char) : Option Char :=
  match c with
  | '"' => some '"'
  | '\\' => some '\\'
  | 'b' => some '\x08'
  | 'e' => some '\x1b'
  | 'f' => some '\x0c'
  | 'n' => some '\n'
  | 'r' => some '\r'
  | 't' => some '\t'
  | _ => none

/-- The number of digits after a backslash and a letter. -/
def digitCount? (c : Char) : Option Nat :=
  match c with
  | 'x' => some 2
  | 'u' => some 4
  | 'U' => some 8
  | _ => none

/-- A character after a backslash that starts no line end. -/
def escapeStep (c : Char) : Step :=
  match simpleEscape? c with
  | some escaped => .emit escaped .plain
  | none =>
    match digitCount? c with
    | some count => .skip (.digits count 0)
    | none => .refuse

def digitStep (left value : Nat) (c : Char) : Step :=
  match Text.hexValue? c with
  | none => .refuse
  | some digit =>
    let value := value * 16 + digit
    if 1 < left then .skip (.digits (left - 1) value)
    else if Nat.isValidChar value then .emit (Char.ofNat value) .plain
    else .refuse

def basicStep (state : EscapeState) (c : Char) (rest : List Char) : Step :=
  match state with
  | .plain =>
    if c = '"' then .close [] rest
    else if c = '\\' then .skip .opened
    else if isStringChar c then .emit c .plain
    else .refuse
  | .opened => escapeStep c
  | .digits left value => digitStep left value c
  | .trimming _ => .refuse

def literalStep (_ : EscapeState) (c : Char) (rest : List Char) : Step :=
  if c = '\'' then .close [] rest
  else if isStringChar c then .emit c .plain
  else .refuse

/-- A character outside of escapes in a string on several lines with the given quote. Three quotes
close the string; up to two more just before them belong to the text. -/
def multilineStep (quote c : Char) (rest : List Char) : Step :=
  if c = quote then
    let run := ((c :: rest).takeWhile (· == quote)).length
    if run < 3 then .emit c .plain
    else
      let taken := min run 5
      .close (List.replicate (taken - 3) quote) ((c :: rest).drop taken)
  else if c = '\n' || (c = '\r' && startsLineFeed rest) || isStringChar c then .emit c .plain
  else .refuse

def multilineBasicStep (c : Char) (rest : List Char) : Step :=
  if c = '\\' then .skip .opened else multilineStep '"' c rest

/-- Whether a character is a blank that a backslash at the end of a line drops. -/
def isTrimmed (c : Char) (rest : List Char) : Bool :=
  c == ' ' || c == '\t' || c == '\n' || (c == '\r' && startsLineFeed rest)

def multilineEscapeStep (state : EscapeState) (c : Char) (rest : List Char) : Step :=
  match state with
  | .plain => multilineBasicStep c rest
  | .opened => if isTrimmed c rest then .skip (.trimming (c == '\n')) else escapeStep c
  | .digits left value => digitStep left value c
  | .trimming ended =>
    if isTrimmed c rest then .skip (.trimming (ended || c == '\n'))
    else if ended then multilineBasicStep c rest
    else .refuse

/-- Reads a string after its opening quotes: its characters, and the text after its closing
quotes. -/
def readWith (step : EscapeState → Char → List Char → Step) (state : EscapeState) :
    List Char → Option (List Char × List Char)
  | [] => none
  | c :: rest =>
    match step state c rest with
    | .emit d next => do
      let (text, rest) ← readWith step next rest
      some (d :: text, rest)
    | .skip next => readWith step next rest
    | .close last rest => some (last, rest)
    | .refuse => none

def dropLineEnd : List Char → List Char
  | '\n' :: rest => rest
  | '\r' :: '\n' :: rest => rest
  | text => text

/-- Reads a string on one line, quotes included. -/
def readLine : List Char → Option (List Char × List Char)
  | '"' :: rest => readWith basicStep .plain rest
  | '\'' :: rest => readWith literalStep .plain rest
  | _ => none

/-- Reads a string of any kind, quotes included. A line end right after three opening quotes does
not belong to the text. -/
def readString : List Char → Option (List Char × List Char)
  | '"' :: '"' :: '"' :: rest => readWith multilineEscapeStep .plain (dropLineEnd rest)
  | '\'' :: '\'' :: '\'' :: rest =>
    readWith (fun _ => multilineStep '\'') .plain (dropLineEnd rest)
  | text => readLine text

end CallLibrary.Document.Toml
