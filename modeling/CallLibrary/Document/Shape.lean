import CallLibrary.Document.Error

/-!
# Shapes of structures

A structure is read from a table by the names of its fields, or from an array by their order. A
shape lists the fields once for both. Reading fills a draft, a record in which every field may still
be missing; what is missing in the end decides whether the draft makes a value.

A table's entries are visited in order, and the first error ends the reading; missing fields are
noticed after all entries.
-/

namespace CallLibrary.Document

/-- Whether a field may be left out. -/
inductive Presence
  /-- It has to be given. -/
  | required
  /-- It may be missing from a table but not from an array. -/
  | optional
  /-- It may be missing from both. -/
  | defaulted
  deriving DecidableEq, Repr

/-- One field of a structure with drafts of type `σ`. -/
structure Field (P σ : Type) where
  name : String
  /-- Other names under which a table may give the field. -/
  aliases : List String
  presence : Presence
  isGiven : σ → Bool
  /-- Reads the field's value into a draft. -/
  read : Node P → σ → Except (Error P) σ

/-- A structure of type `α` with drafts of type `σ`. -/
structure Shape (P σ α : Type) where
  /-- The name of the structure in messages. -/
  name : String
  /-- The fields in the order in which an array gives them. -/
  fields : List (Field P σ)
  /-- Whether a table may only have entries for fields. -/
  isClosed : Bool
  /-- The draft without any field. -/
  start : σ
  /-- The value of a draft, or the first field that it misses. -/
  finish : σ → Except String α

/-- What reading depends on besides the shape. -/
structure Format (P : Type) where
  /-- Whether an array may have more items than the structure has fields. They are not looked at. -/
  allowsSurplus : Bool
  /-- Whether a value may stand under a key that is no field. -/
  allowsAside : Node P → Bool
  /-- Reads one of several named variants without content. The arguments are the names that messages
  list, and the variant that a name stands for. -/
  variant : {α : Type} → List String → (String → Option α) → Node P → Except (Error P) α

variable {P σ α : Type}

/-- What a single value is, or why it has no value. Dates are maps with a private key. -/
def Scalar.kind : Scalar → Except Cause Kind
  | .null => .ok .null
  | .boolean value => .ok (.boolean value)
  | .integer value => .ok (.integer value)
  | .float value => .ok (.float value)
  | .text value => .ok (.text value)
  | .brokenText => .error .brokenText
  | .brokenNumber => .error .brokenNumber
  | .date => .ok .map

def Node.kind : Node P → Except Cause Kind
  | .scalar _ value => value.kind
  | .array _ _ => .ok .sequence
  | .table _ _ => .ok .map

def Node.refuse (node : Node P) (expected : Expected) : Except (Error P) α :=
  match node.kind with
  | .ok found => .error ⟨.wrongType found expected, node.mark⟩
  | .error cause => .error ⟨cause, node.mark⟩

def Node.readText : Node P → Except (Error P) String
  | .scalar _ (.text value) => .ok value
  | node => node.refuse .text

def Node.readText? : Node P → Except (Error P) (Option String)
  | .scalar _ .null => .ok none
  | node => some <$> node.readText

def Node.readList (read : Node P → Except (Error P) α) : Node P → Except (Error P) (List α)
  | .array _ items => items.mapM read
  | node => node.refuse .sequence

namespace Shape

/-- Reads one entry of a table that starts at `mark` into a draft. -/
def readEntry (format : Format P) (shape : Shape P σ α) (mark : P) (draft : σ)
    (entry : Key P × Node P) : Except (Error P) σ :=
  match entry.1.text with
  | none => .error ⟨.brokenText, entry.1.mark⟩
  | some name =>
    match shape.fields.find? fun field => field.name == name || field.aliases.contains name with
    | some field =>
      if field.isGiven draft then .error ⟨.duplicateField field.name, mark⟩
      else field.read entry.2 draft
    | none =>
      if shape.isClosed then
        .error ⟨.unknownField name (shape.fields.map (·.name)), entry.1.mark⟩
      else if format.allowsAside entry.2 then .ok draft
      else .error ⟨.brokenNumber, entry.2.mark⟩

/-- The value of a draft read from a table or array at `mark`. -/
def complete (shape : Shape P σ α) (mark : P) (draft : σ) : Except (Error P) α :=
  match shape.finish draft with
  | .ok value => .ok value
  | .error name => .error ⟨.missingField name, mark⟩

def readTable (format : Format P) (shape : Shape P σ α) (mark : P)
    (entries : List (Key P × Node P)) : Except (Error P) α := do
  let draft ← entries.foldlM (shape.readEntry format mark) shape.start
  shape.complete mark draft

/-- Reads the items of an array into the fields from the one with index `index` on. -/
def readItems (format : Format P) (shape : Shape P σ α) (mark : P) (index : Nat) (draft : σ) :
    List (Field P σ) → List (Node P) → Except (Error P) σ
  | [], items =>
    if items.isEmpty || format.allowsSurplus then .ok draft else .error ⟨.surplusItems, mark⟩
  | field :: fields, [] =>
    if field.presence = .defaulted then
      readItems format shape mark (index + 1) draft fields []
    else .error ⟨.wrongLength index shape.name shape.fields.length, mark⟩
  | field :: fields, item :: items => do
    let draft ← field.read item draft
    readItems format shape mark (index + 1) draft fields items

/-- Reads a structure. A date stands for a table with a private key. -/
def read (format : Format P) (shape : Shape P σ α) : Node P → Except (Error P) α
  | .table mark entries => shape.readTable format mark entries
  | .array mark items => do
    let draft ← readItems format shape mark 0 shape.start shape.fields items
    shape.complete mark draft
  | .scalar mark .date =>
    shape.readTable format mark [(⟨mark, some "$__toml_private_datetime"⟩, .scalar mark .null)]
  | node => node.refuse (.structure shape.name)

end Shape

end CallLibrary.Document
