/-!
# Solidity identifiers

A name is a letter, an underscore or a dollar sign, followed by any number of these and of digits.
Only ASCII letters and digits count, as in the language itself. Words that the language keeps for
itself are no names.
-/

namespace CallLibrary.Solidity

/-- The keywords of the language and the words that it reserves. -/
def reservedWords : List String :=
  ["abstract", "address", "anonymous", "as", "assembly", "bool", "break", "bytes", "calldata",
    "catch", "constant", "constructor", "continue", "contract", "delete", "do", "else", "emit",
    "enum", "error", "event", "external", "fallback", "false", "for", "function", "if", "immutable",
    "import", "indexed", "interface", "internal", "is", "library", "mapping", "memory", "modifier",
    "new", "override", "payable", "pragma", "private", "public", "pure", "receive", "return",
    "returns", "revert", "storage", "string", "struct", "true", "try", "type", "unchecked", "using",
    "view", "virtual", "while", "after", "alias", "apply", "auto", "byte", "case", "copyof",
    "default", "define", "final", "implements", "in", "inline", "let", "macro", "match", "mutable",
    "null", "of", "partial", "promise", "reference", "relocatable", "sealed", "sizeof", "static",
    "supports", "switch", "typedef", "typeof"]

def isReserved (name : String) : Bool := reservedWords.contains name

/-- Why a text is no identifier. -/
inductive NameDefect
  | empty
  | badStart
  | badCharacter
  deriving DecidableEq, Repr

def NameDefect.reason : NameDefect → String
  | .empty => "name cannot be empty"
  | .badStart => "name must start with a letter, underscore or '$'"
  | .badCharacter => "name must contain only letters, numbers, underscores and '$'"

def isNameStart (c : Char) : Bool := c.isAlpha || c == '_' || c == '$'

def isNameRest (c : Char) : Bool := c.isAlphanum || c == '_' || c == '$'

def nameDefectOf? : List Char → Option NameDefect
  | [] => some .empty
  | c :: rest =>
    if !isNameStart c then some .badStart
    else if rest.all isNameRest then none
    else some .badCharacter

/-- The first reason why a text is no identifier, `none` for an identifier. Reserved words are
identifiers in this sense. -/
def nameDefect? (name : String) : Option NameDefect := nameDefectOf? name.toList

end CallLibrary.Solidity
