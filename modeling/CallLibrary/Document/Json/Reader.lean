import CallLibrary.Document.Json.Number
import CallLibrary.Document.Json.Text
import CallLibrary.Document.Shape

/-!
# Reading JSON

A document is one value with blanks around it. Members stay in the order in which they are written,
repeated ones included.

Two readings are told apart. The lenient one accepts texts that spell half of a surrogate pair,
doubles out of range and any depth of nesting; this is enough wherever a value is not looked at. The
strict one accepts none of these. A document that does not have the expected structure is only said
to have the wrong structure if it passes the strict reading.
-/

namespace CallLibrary.Document.Json

def isSpace (c : Char) : Bool := c == ' ' || c == '\t' || c == '\n' || c == '\r'

def skipSpace (text : List Char) : List Char := text.dropWhile isSpace

def Spelling.scalar (s : Spelling) : Scalar :=
  match s.text? with
  | some text => .text text
  | none => .brokenText

mutual

/-- Reads a value that starts at the first character: the value and the rest. The first argument
bounds the depth of the recursion. -/
def readValue : Nat → List Char → Option (Node Unit × List Char)
  | 0, _ => none
  | fuel + 1, text =>
    match text with
    | 'n' :: 'u' :: 'l' :: 'l' :: rest => some (.scalar () .null, rest)
    | 't' :: 'r' :: 'u' :: 'e' :: rest => some (.scalar () (.boolean true), rest)
    | 'f' :: 'a' :: 'l' :: 's' :: 'e' :: rest => some (.scalar () (.boolean false), rest)
    | '"' :: rest => do
      let (spelling, rest) ← readSpelling none rest
      some (.scalar () spelling.scalar, rest)
    | '[' :: rest =>
      match skipSpace rest with
      | ']' :: rest => some (.array () [], rest)
      | rest => do
        let (items, rest) ← readItems fuel rest
        some (.array () items, rest)
    | '\x7b' :: rest =>
      match skipSpace rest with
      | '\x7d' :: rest => some (.table () [], rest)
      | rest => do
        let (members, rest) ← readMembers fuel rest
        some (.table () members, rest)
    | text => do
      let (number, rest) ← Literal.read text
      some (.scalar () number.value, rest)

def readItems : Nat → List Char → Option (List (Node Unit) × List Char)
  | 0, _ => none
  | fuel + 1, text => do
    let (item, rest) ← readValue fuel text
    match skipSpace rest with
    | ']' :: rest => some ([item], rest)
    | ',' :: rest =>
      let (items, rest) ← readItems fuel (skipSpace rest)
      some (item :: items, rest)
    | _ => none

def readMembers : Nat → List Char → Option (List (Key Unit × Node Unit) × List Char)
  | 0, _ => none
  | fuel + 1, text =>
    match text with
    | '"' :: rest => do
      let (spelling, rest) ← readSpelling none rest
      match skipSpace rest with
      | ':' :: rest =>
        let (value, rest) ← readValue fuel (skipSpace rest)
        let member := (⟨(), spelling.text?⟩, value)
        match skipSpace rest with
        | '\x7d' :: rest => some ([member], rest)
        | ',' :: rest =>
          let (members, rest) ← readMembers fuel (skipSpace rest)
          some (member :: members, rest)
        | _ => none
      | _ => none
    | _ => none

end

/-- Reads a document leniently. Every step of the recursion takes at least one character. -/
def read? (text : String) : Option (Node Unit) :=
  let characters := text.toList
  match readValue (characters.length + 1) (skipSpace characters) with
  | some (value, rest) => if (skipSpace rest).isEmpty then some value else none
  | none => none

/-- The number of arrays and tables that the strict reading allows around a value and in it. -/
def depthLimit : Nat := 127

def isStrictScalar : Scalar → Bool
  | .brokenText => false
  | .brokenNumber => false
  | _ => true

mutual

/-- Whether a value passes the strict reading with at most `depth` levels of nesting. -/
def isStrict (depth : Nat) : Node Unit → Bool
  | .scalar _ value => isStrictScalar value
  | .array _ items => depth ≠ 0 && areStrict (depth - 1) items
  | .table _ entries => depth ≠ 0 && areStrictMembers (depth - 1) entries

def areStrict (depth : Nat) : List (Node Unit) → Bool
  | [] => true
  | item :: rest => isStrict depth item && areStrict depth rest

def areStrictMembers (depth : Nat) : List (Key Unit × Node Unit) → Bool
  | [] => true
  | (key, value) :: rest =>
    key.text.isSome && isStrict depth value && areStrictMembers depth rest

end

/-- Reads the name of a variant: a text, or an object with the name as its one key and null as its
value. -/
def readVariant {P α : Type} (known : List String) (ofName? : String → Option α) :
    Node P → Except (Error P) α
  | .scalar mark (.text name) =>
    match ofName? name with
    | some value => .ok value
    | none => .error ⟨.unknownVariant name known, mark⟩
  | .table mark ((key, payload) :: others) =>
    match key.text with
    | none => .error ⟨.brokenText, key.mark⟩
    | some name =>
      match ofName? name with
      | none => .error ⟨.unknownVariant name known, key.mark⟩
      | some value =>
        match payload with
        | .scalar _ .null =>
          if others.isEmpty then .ok value else .error ⟨.valueExpected, mark⟩
        | payload => payload.refuse .unit
  | node => .error ⟨.valueExpected, node.mark⟩

/-- How doubles are written in messages: with an exponent unless they are at least `1e-5` and less
than `1e16`. -/
def style : Decimal.Style := ⟨fun power => -5 ≤ power && power < 16, .even⟩

/-- How JSON documents are read: an array gives exactly the fields of a structure. -/
def format {P : Type} : Format P where
  allowsSurplus := false
  allowsAside _ := true
  variant := readVariant

/-- Reads a document as a value. Places in the text are not kept. -/
def decode {α : Type} (read : Node Unit → Except (Error Unit) α) (text : String) :
    Except Failure α :=
  match read? text with
  | none => .error .malformed
  | some node =>
    match read node with
    | .ok value => .ok value
    | .error e =>
      if isStrict depthLimit node then .error (.misfit e.cause none) else .error .malformed

end CallLibrary.Document.Json
