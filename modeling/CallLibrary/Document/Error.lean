import CallLibrary.Decimal.Style
import CallLibrary.Document.Node
import CallLibrary.Interface.Parameter
import CallLibrary.Text.Quoted
import CallLibrary.Text.Span

/-!
# Values that do not fit

When a document is well formed but does not have the expected structure, the error says which value
is at fault, what it is and what was expected.
-/

namespace CallLibrary.Document

/-- What a value is, as messages call it. -/
inductive Kind
  | null
  | boolean (value : Bool)
  | integer (value : Int)
  | float (value : Decimal.Binary64)
  | text (value : String)
  | sequence
  | map
  deriving DecidableEq, Repr

inductive Expected
  | text
  | sequence
  | structure (name : String)
  | unit
  deriving DecidableEq, Repr

/-- Why a document does not have the expected structure. -/
inductive Cause
  | wrongType (found : Kind) (expected : Expected)
  | unknownField (name : String) (known : List String)
  | duplicateField (name : String)
  | missingField (name : String)
  | wrongLength (count : Nat) (shape : String) (fields : Nat)
  | surplusItems
  | unknownVariant (name : String) (known : List String)
  | declaration (error : Interface.DeclarationError)
  | brokenText
  | brokenNumber
  | valueExpected
  | variantExpected
  | noVariant
  | manyVariants
  | payloadNotTable (found : String)
  | payloadNotEmpty (kind : String)
  deriving DecidableEq, Repr

/-- A cause and the mark of the value at fault. -/
structure Error (P : Type) where
  cause : Cause
  mark : P
  deriving DecidableEq, Repr

/-- Why a document cannot be read as a value. -/
inductive Failure
  /-- It is no document of its format. -/
  | malformed
  /-- It does not have the expected structure. -/
  | misfit (cause : Cause) (span : Option Text.Span)
  deriving DecidableEq, Repr

def Kind.describe (style : Decimal.Style) : Kind → String
  | .null => "null"
  | .boolean value => "boolean `" ++ (if value then "true" else "false") ++ "`"
  | .integer value => "integer `" ++ toString value ++ "`"
  | .float value => "floating point `" ++ style.render value ++ "`"
  | .text value => "string " ++ Text.quote value
  | .sequence => "sequence"
  | .map => "map"

def Expected.describe : Expected → String
  | .text => "a string"
  | .sequence => "a sequence"
  | .structure name => "struct " ++ name
  | .unit => "unit"

/-- Names to choose from; two names are joined by a word, more are listed. -/
def oneOf (names : List String) : String :=
  match names with
  | [] => "there are no fields"
  | [a] => "expected `" ++ a ++ "`"
  | [a, b] => "expected `" ++ a ++ "` or `" ++ b ++ "`"
  | names => "expected one of " ++ String.intercalate ", " (names.map fun n => "`" ++ n ++ "`")

def Cause.message (style : Decimal.Style) : Cause → String
  | .wrongType found expected =>
    "invalid type: " ++ found.describe style ++ ", expected " ++ expected.describe
  | .unknownField name known => "unknown field `" ++ name ++ "`, " ++ oneOf known
  | .duplicateField name => "duplicate field `" ++ name ++ "`"
  | .missingField name => "missing field `" ++ name ++ "`"
  | .wrongLength count shape fields =>
    "invalid length " ++ toString count ++ ", expected struct " ++ shape ++ " with "
      ++ toString fields ++ " elements"
  | .surplusItems => "trailing characters"
  | .unknownVariant name known => "unknown variant `" ++ name ++ "`, " ++ oneOf known
  | .declaration error => error.message
  | .brokenText => "lone leading surrogate in hex escape"
  | .brokenNumber => "number out of range"
  | .valueExpected => "expected value"
  | .variantExpected => "wanted string or table"
  | .noVariant => "wanted exactly 1 element, found 0 elements"
  | .manyVariants => "wanted exactly 1 element, more than 1 element"
  | .payloadNotTable found => "expected table, found " ++ found
  | .payloadNotEmpty kind => "expected empty " ++ kind

end CallLibrary.Document
