import CallLibrary.Calls.Form
import CallLibrary.Interface.Basic

/-!
# The report of a check

A check that succeeds lists what the library of a manifest would hold.
-/

namespace CallLibrary.Command

open Interface (ErrorSignature Function Options)

/-- A number of things, in the plural unless there is one. -/
def counted (count : Nat) (thing : String) : String :=
  toString count ++ " " ++ thing ++ (if count = 1 then "" else "s")

def formNames (isRoot : Bool) (function : Function) : List String :=
  ["direct", "forwarded"]
    ++ (if Calls.hasRootForm isRoot function.mutability then ["root"] else [])

def functionLine (isRoot : Bool) (function : Function) : String :=
  "    " ++ function.name ++ " (" ++ function.mutability.keyword ++ ") ["
    ++ String.intercalate ", " (formNames isRoot function) ++ "]"

/-- The lines for errors, none if there are no errors. -/
def errorLines (errors : List ErrorSignature) : List String :=
  if errors.isEmpty then []
  else ["", "  " ++ counted errors.length "error" ++ ":"] ++ errors.map fun e => "    " ++ e.name

def reportLines (manifest : String) (options : Options) : List String :=
  let namespaceText :=
    if options.isRoot then "root namespace" else "namespace '" ++ options.namespaceName ++ "'"
  ["✓ " ++ manifest ++ " is valid", "",
    "  " ++ options.libraryName ++ " (" ++ namespaceText ++ ")",
    "  resource id " ++ options.resourceId, "",
    "  " ++ counted options.functions.length "function" ++ ":"]
    ++ options.functions.map (functionLine options.isRoot)
    ++ errorLines options.errors

def report (manifest : String) (options : Options) : String :=
  String.join ((reportLines manifest options).map (· ++ "\n"))

end CallLibrary.Command
