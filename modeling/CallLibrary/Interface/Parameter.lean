import CallLibrary.Text.Blank

/-!
# Parameter declarations

A parameter is declared as `<type> [location] [name]`. The type is one word that is kept as written
and never interpreted, except that `address payable` is one type of two words. A data location is
read only right after the type; any later word is the name, whatever it spells.
-/

namespace CallLibrary.Interface

/-- Where a value of a reference type is kept. -/
inductive DataLocation
  | memory
  | calldata
  | storage
  deriving DecidableEq, Repr

namespace DataLocation

def keyword : DataLocation → String
  | .memory => "memory"
  | .calldata => "calldata"
  | .storage => "storage"

def ofKeyword? (word : String) : Option DataLocation :=
  if word = "memory" then some .memory
  else if word = "calldata" then some .calldata
  else if word = "storage" then some .storage
  else none

end DataLocation

/-- A typed declaration; return values often have no name. -/
structure Parameter where
  type : String
  location : Option DataLocation
  name : Option String
  deriving DecidableEq, Repr

/-- Why a text is no declaration. -/
inductive DeclarationDefect
  | empty
  | noType
  | extraWord
  deriving DecidableEq, Repr

def DeclarationDefect.reason : DeclarationDefect → String
  | .empty => "declaration is empty"
  | .noType => "declaration must start with a type"
  | .extraWord => "expected '<type> [location] [name]'"

structure DeclarationError where
  declaration : String
  defect : DeclarationDefect
  deriving DecidableEq, Repr

def DeclarationError.message (e : DeclarationError) : String :=
  "invalid parameter declaration '" ++ e.declaration ++ "': " ++ e.defect.reason

namespace Parameter

def ofType (type : String) : Parameter := ⟨type, none, none⟩

def named (type name : String) : Parameter := ⟨type, none, some name⟩

/-- The words after a type and a location: a name or nothing. -/
def afterLocation (type : String) (location : Option DataLocation) :
    List String → Except DeclarationDefect Parameter
  | [] => .ok ⟨type, location, none⟩
  | [name] => .ok ⟨type, location, some name⟩
  | _ :: _ :: _ => .error .extraWord

def afterType (type : String) : List String → Except DeclarationDefect Parameter
  | [] => .ok (ofType type)
  | word :: rest =>
    match DataLocation.ofKeyword? word with
    | some location => afterLocation type (some location) rest
    | none => afterLocation type none (word :: rest)

/-- The parameter that a declaration's words spell. -/
def ofWords : List String → Except DeclarationDefect Parameter
  | [] => .error .empty
  | type :: rest =>
    if (DataLocation.ofKeyword? type).isSome then .error .noType
    else if type = "address" ∧ rest.head? = some "payable" then
      afterType "address payable" rest.tail
    else afterType type rest

def parse (declaration : String) : Except DeclarationError Parameter :=
  match ofWords (Text.words declaration) with
  | .ok parameter => .ok parameter
  | .error defect => .error ⟨declaration, defect⟩

/-- Writes a declaration: its parts with single spaces between them. -/
def declaration (p : Parameter) : String :=
  let location := match p.location with
    | some l => " " ++ l.keyword
    | none => ""
  let name := match p.name with
    | some n => " " ++ n
    | none => ""
  p.type ++ location ++ name

end Parameter

end CallLibrary.Interface
