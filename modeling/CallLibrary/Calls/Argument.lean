import CallLibrary.Interface.Basic
import CallLibrary.Layout.Fragment
import CallLibrary.Solidity.Import

/-!
# Arguments and results of a call

Calls hand on arguments by name, so every input has to be named. Results come back as bytes and are
decoded by their declared types.
-/

namespace CallLibrary.Calls

open Interface (Function ImportRequest Parameter)
open Layout (Fragment)
open Solidity (Import ImportTable)

/-- Why no library can be generated. -/
inductive GenerationError
  | ambiguousImport (symbol first second : String)
  | unnamedParameter (function : String) (position : Nat)
  deriving DecidableEq, Repr

def GenerationError.message : GenerationError → String
  | .ambiguousImport symbol first second =>
    "symbol '" ++ symbol ++ "' is imported from both '" ++ first ++ "' and '" ++ second ++ "'"
  | .unnamedParameter function position =>
    "parameter " ++ toString position ++ " of function '" ++ function ++ "' has no name"

/-- The names of parameters, the first of which stands at `position`. -/
def namesFrom (function : String) (position : Nat) :
    List Parameter → Except GenerationError (List String)
  | [] => .ok []
  | parameter :: rest =>
    match parameter.name with
    | none => .error (.unnamedParameter function position)
    | some name => do
      let names ← namesFrom function (position + 1) rest
      return name :: names

/-- The arguments of a call: the names of all parameters with commas between them. -/
def argumentNames (function : String) (parameters : List Parameter) :
    Except GenerationError String := do
  let names ← namesFrom function 0 parameters
  return String.intercalate ", " names

/-- The expression that encodes a call of an interface's function. -/
def encodedCall (interface : String) (function : Function) : Except GenerationError String := do
  let arguments ← argumentNames function.name function.parameters
  return "abi.encodeCall(" ++ interface ++ "." ++ function.name ++ ", (" ++ arguments ++ "))"

/-- Statements that evaluate an expression and return its bytes decoded as the declared types. An
expression without results stands as a statement. -/
def decodedResult (expression : String) (returns : List Parameter) : List Fragment :=
  if returns.isEmpty then [.line (expression ++ ";")]
  else
    let types := String.intercalate ", " (returns.map (·.type))
    [.line ("bytes memory result = " ++ expression ++ ";"),
      .line ("return abi.decode(result, (" ++ types ++ "));")]

/-- The first import whose symbol a table has from two paths. -/
def ambiguity? (table : ImportTable) : List ImportRequest → Option GenerationError
  | [] => none
  | request :: rest =>
    match table.pathsOf request.symbol with
    | first :: second :: _ => some (.ambiguousImport request.symbol first second)
    | _ => ambiguity? table rest

/-- One import for each path. Symbols that the file defines itself are not imported, and no symbol
may come from two paths. -/
def resolveImports (requests : List ImportRequest) (defined : List String) :
    Except GenerationError (List Import) :=
  let table := defined.foldl (·.erase ·) (ImportTable.ofRequests requests)
  match ambiguity? table requests with
  | some e => .error e
  | none => .ok table.entries

end CallLibrary.Calls
