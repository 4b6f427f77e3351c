import CallLibrary.Document.Shape
import CallLibrary.Document.Toml.Statement

/-!
# Reading TOML

The statements of a document make one table. Its entries, and those of every table in it, are
visited in the order of their keys. A byte-order mark in front of the document is skipped.

Numbers without a value are accepted where nothing is read: in the items of an array behind the
fields of a structure. Integers that 64 bits do not hold are accepted as well under keys that are no
fields. A document that does not have the expected structure is only said to have the wrong
structure if it has neither.
-/

namespace CallLibrary.Document.Toml

/-- The text after a byte-order mark. -/
def skipMark : List Char → List Char
  | '\ufeff' :: rest => rest
  | text => text

/-- Reads a document. The place of the document as a whole is its start. -/
def read? (text : List Char) : Option (Node Extent) := do
  let statements ← readStatements (text.length + 1) (skipMark text)
  let draft ← statements.foldlM Draft.apply Draft.empty
  some (.table ⟨text, text⟩ (entriesOf draft.entries))

def isReadable : Scalar → Bool
  | .brokenNumber => false
  | _ => true

/-- Whether a single value can be read, and 64 bits hold it if it is an integer. -/
def isStrict : Scalar → Bool
  | .brokenNumber => false
  | .integer value => -(Nat.pow 2 63 : Int) ≤ value && value < (Nat.pow 2 63 : Int)
  | _ => true

/-- What messages call the type of a single value. -/
def typeName : Scalar → String
  | .null => "null"
  | .boolean _ => "boolean"
  | .integer _ => "integer"
  | .float _ => "float"
  | .text _ => "string"
  | .brokenText => "string"
  | .brokenNumber => "number"
  | .date => "datetime"

/-- Checks that a value has no content: it is an empty table or array. -/
def checkEmpty {P : Type} : Node P → Except (Error P) Unit
  | .scalar mark value => .error ⟨.payloadNotTable (typeName value), mark⟩
  | .array mark items =>
    if items.isEmpty then .ok () else .error ⟨.payloadNotEmpty "array", mark⟩
  | .table mark entries =>
    if entries.isEmpty then .ok () else .error ⟨.payloadNotEmpty "table", mark⟩

/-- Reads the name of a variant: a text, or a table with the name as its one key and an empty value.
-/
def readVariant {P α : Type} (known : List String) (ofName? : String → Option α) :
    Node P → Except (Error P) α
  | .scalar mark (.text name) =>
    match ofName? name with
    | some value => .ok value
    | none => .error ⟨.unknownVariant name known, mark⟩
  | .table mark [] => .error ⟨.noVariant, mark⟩
  | .table _ [(key, payload)] => do
    let name := key.text.getD ""
    match ofName? name with
    | some value =>
      checkEmpty payload
      return value
    | none => .error ⟨.unknownVariant name known, key.mark⟩
  | .table mark (_ :: _ :: _) => .error ⟨.manyVariants, mark⟩
  | node => .error ⟨.variantExpected, node.mark⟩

/-- How doubles are written in messages: without an exponent. -/
def style : Decimal.Style := ⟨fun _ => true, .up⟩

/-- How TOML documents are read: an array may give more than the fields of a structure, and every
number that is read has a value. -/
def format {P : Type} : Format P where
  allowsSurplus := true
  allowsAside := Node.all isReadable
  variant := readVariant

def decode {α : Type} (read : Node Extent → Except (Error Extent) α) (text : String) :
    Except Failure α :=
  let characters := text.toList
  match read? characters with
  | none => .error .malformed
  | some node =>
    match read node with
    | .ok value => .ok value
    | .error e =>
      if node.all isStrict then
        .error (.misfit e.cause (some (e.mark.span (Text.byteLength characters))))
      else .error .malformed

end CallLibrary.Document.Toml
