import CallLibrary.Document.Toml.Number
import CallLibrary.Document.Toml.Table
import CallLibrary.Document.Toml.Text

/-!
# TOML statements

A document is a list of statements, one to a line at least: an entry, the header of a table, or the
header of the next element of an array of tables. Arrays and inline tables may go over several
lines, with comments in them, but a key and its dots stay on one line.
-/

namespace CallLibrary.Document.Toml

def isSpace (c : Char) : Bool := c == ' ' || c == '\t'

def skipSpace (text : List Char) : List Char := text.dropWhile isSpace

def isCommentChar (c : Char) : Bool := isStringChar c

/-- The text after the end of a line: blanks, perhaps a comment, and a line feed or the end of the
document. -/
def lineEnd (text : List Char) : Option (List Char) :=
  let text := skipSpace text
  let text := if text.head? == some '#' then text.dropWhile isCommentChar else text
  match text with
  | [] => some []
  | '\n' :: rest => some rest
  | '\r' :: '\n' :: rest => some rest
  | _ => none

/-- The text without blanks, comments and line ends at its start. `inComment` says whether the text
starts in a comment. -/
def skipTrivia (inComment : Bool) : List Char → Option (List Char)
  | [] => some []
  | c :: rest =>
    if c = '\n' then skipTrivia false rest
    else if c = '\r' then if startsLineFeed rest then skipTrivia false rest else none
    else if inComment then if isCommentChar c then skipTrivia true rest else none
    else if isSpace c then skipTrivia false rest
    else if c = '#' then skipTrivia true rest
    else some (c :: rest)

def isBareChar (c : Char) : Bool := c.isAlphanum || c == '-' || c == '_'

def readKeyPart (text : List Char) : Option (Key Extent × List Char) := do
  let (name, rest) ←
    if text.head? == some '"' || text.head? == some '\'' then readLine text
    else
      let name := text.takeWhile isBareChar
      if name.isEmpty then none else some (name, text.drop name.length)
  some (⟨⟨text, rest⟩, some (String.ofList name)⟩, rest)

/-- Reads a key of at most so many parts with dots between them: the parts before the last one, the
last one, and the text after the blanks that follow. -/
def readKey : Nat → List Char → Option (List (Key Extent) × Key Extent × List Char)
  | 0, _ => none
  | room + 1, text => do
    let (part, rest) ← readKeyPart text
    match skipSpace rest with
    | '.' :: rest =>
      let (path, last, rest) ← readKey room (skipSpace rest)
      some (part :: path, last, rest)
    | rest => some ([], part, rest)

/-- The number of arrays and inline tables that may stand in each other, and of parts that a key may
have. -/
def depthLimit : Nat := 80

/-- Reads a key and the equals sign after it. `skip` is what may stand around the sign. -/
def readEntryKey (skip : List Char → Option (List Char)) (text : List Char) :
    Option (List (Key Extent) × Key Extent × List Char) := do
  let (path, key, rest) ← readKey depthLimit text
  match ← skip rest with
  | '=' :: rest =>
    let rest ← skip rest
    some (path, key, rest)
  | _ => none

mutual

/-- Reads a value in which `room` levels of brackets may stand. The first argument bounds the depth
of the recursion. -/
def readValue : Nat → Nat → List Char → Option (Item × List Char)
  | 0, _, _ => none
  | fuel + 1, room, text =>
    match text with
    | '[' :: rest =>
      if room = 0 then none
      else do
        let (items, rest) ← readItems fuel (room - 1) (← skipTrivia false rest)
        some (.array ⟨text, rest⟩ false items, rest)
    | '\x7b' :: rest =>
      if room = 0 then none
      else do
        let (entries, rest) ← readEntries fuel (room - 1) [] (← skipTrivia false rest)
        some (.table ⟨text, rest⟩ .inline entries, rest)
    | text =>
      if text.head? == some '"' || text.head? == some '\'' then do
        let (characters, rest) ← readString text
        some (.scalar ⟨text, rest⟩ (.text (String.ofList characters)), rest)
      else do
        let (word, rest) := splitWord text
        let value ← readWord? word
        some (.scalar ⟨text, rest⟩ value, rest)

/-- Reads the items of an array up to its closing bracket. A comma may follow the last one. -/
def readItems : Nat → Nat → List Char → Option (List Item × List Char)
  | 0, _, _ => none
  | fuel + 1, room, text =>
    match text with
    | ']' :: rest => some ([], rest)
    | text => do
      let (item, rest) ← readValue fuel room text
      match ← skipTrivia false rest with
      | ']' :: rest => some ([item], rest)
      | ',' :: rest =>
        let (items, rest) ← readItems fuel room (← skipTrivia false rest)
        some (item :: items, rest)
      | _ => none

/-- Reads the entries of an inline table up to its closing brace, after the given ones. A comma may
follow the last one. -/
def readEntries : Nat → Nat → Entries → List Char → Option (Entries × List Char)
  | 0, _, _, _ => none
  | fuel + 1, room, entries, text =>
    match text with
    | '\x7d' :: rest => some (entries, rest)
    | text => do
      let (path, key, rest) ← readEntryKey (skipTrivia false) text
      let (value, rest) ← readValue fuel room rest
      let entries ← insertEntry path key value .inline entries
      match ← skipTrivia false rest with
      | '\x7d' :: rest => some (entries, rest)
      | ',' :: rest => readEntries fuel room entries (← skipTrivia false rest)
      | _ => none

end

def readHeaderKey (text : List Char) : Option (List (Key Extent) × Key Extent × List Char) :=
  readKey depthLimit (skipSpace text)

def readStatement (text : List Char) : Option (Statement × List Char) :=
  match text with
  | '[' :: '[' :: rest => do
    let (path, key, rest) ← readHeaderKey rest
    match rest with
    | ']' :: ']' :: rest => some (.element ⟨text, rest⟩ path key, rest)
    | _ => none
  | '[' :: rest => do
    let (path, key, rest) ← readHeaderKey rest
    match rest with
    | ']' :: rest => some (.header ⟨text, rest⟩ path key, rest)
    | _ => none
  | text => do
    let (path, key, rest) ← readEntryKey (fun rest => some (skipSpace rest)) text
    let (value, rest) ← readValue (rest.length + 1) depthLimit rest
    some (.entry path key value, rest)

/-- Whether a line without blanks in front holds no statement. -/
def isIdle (text : List Char) : Bool :=
  match text with
  | [] => true
  | c :: _ => c == '\n' || c == '\r' || c == '#'

/-- Reads the statements of a document. Every line takes at least one character. -/
def readStatements : Nat → List Char → Option (List Statement)
  | 0, _ => none
  | fuel + 1, text =>
    if text.isEmpty then some []
    else
      let text := skipSpace text
      if isIdle text then do
        let rest ← lineEnd text
        readStatements fuel rest
      else do
        let (statement, rest) ← readStatement text
        let rest ← lineEnd rest
        let statements ← readStatements fuel rest
        some (statement :: statements)

end CallLibrary.Document.Toml
