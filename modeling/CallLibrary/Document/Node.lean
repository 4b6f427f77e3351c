import CallLibrary.Decimal.Binary64

/-!
# Document trees

A document is read into a tree of tables, arrays and single values. Every value and every key
carries a mark of where it was written; the type of these marks is a parameter, so that a format
without marks uses the unit type.
-/

namespace CallLibrary.Document

inductive Scalar
  | null
  | boolean (value : Bool)
  | integer (value : Int)
  | float (value : Decimal.Binary64)
  | text (value : String)
  /-- A text with an escape for half of a surrogate pair: no text can be read from it. -/
  | brokenText
  /-- A number without a value, such as one beyond the range of its type: no number can be read from
  it. -/
  | brokenNumber
  | date
  deriving DecidableEq, Repr

/-- The key of a table entry; a broken key has no text. -/
structure Key (P : Type) where
  mark : P
  text : Option String
  deriving DecidableEq, Repr

/-- A value of a document. The entries of a table stand in the order in which they are visited, and
one key may occur several times. -/
inductive Node (P : Type) where
  | scalar (mark : P) (value : Scalar)
  | array (mark : P) (items : List (Node P))
  | table (mark : P) (entries : List (Key P × Node P))

namespace Node

def mark {P : Type} : Node P → P
  | .scalar mark _ => mark
  | .array mark _ => mark
  | .table mark _ => mark

mutual

/-- Whether all single values in a value have a property. -/
def all {P : Type} (p : Scalar → Bool) : Node P → Bool
  | .scalar _ value => p value
  | .array _ items => allItems p items
  | .table _ entries => allEntries p entries

def allItems {P : Type} (p : Scalar → Bool) : List (Node P) → Bool
  | [] => true
  | item :: rest => item.all p && allItems p rest

def allEntries {P : Type} (p : Scalar → Bool) : List (Key P × Node P) → Bool
  | [] => true
  | (_, value) :: rest => value.all p && allEntries p rest

end

end Node

end CallLibrary.Document
