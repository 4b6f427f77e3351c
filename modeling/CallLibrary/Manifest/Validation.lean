import CallLibrary.Manifest.Basic
import CallLibrary.Manifest.Violation

/-!
# Validation

A manifest that can be read may still be unfit for generating a library from it. The rules are
checked in a fixed order, and the first one that is broken is reported: the sizes of the name and
the namespace, the resource id, the label and the library, then imports, functions and errors one
after the other.
-/

namespace CallLibrary

open Interface (ErrorSignature Function ImportRequest Parameter)

/-- Where in a manifest a name is checked: the names of the declarations around it. -/
structure Scope where
  path : List String
  deriving DecidableEq, Repr

namespace Scope

/-- Outside of all declarations. -/
def top : Scope := ⟨[]⟩

def push (scope : Scope) (name : String) : Scope := ⟨scope.path ++ [name]⟩

def dotted (scope : Scope) : String := String.intercalate "." scope.path

def describe (scope : Scope) (kind : String) : String :=
  if scope.path.isEmpty then kind else kind ++ " in '" ++ scope.dotted ++ "'"

/-- Checks that a text can be a name in a Solidity source. -/
def checkName (scope : Scope) (name kind : String) : Except Violation Unit :=
  if Solidity.isReserved name then .error (.reservedName name (scope.describe kind))
  else match Solidity.nameDefect? name with
    | some defect => .error (.badName name (scope.describe kind) defect)
    | none => .ok ()

end Scope

def require (holds : Bool) (violation : Violation) : Except Violation Unit :=
  if holds then .ok () else .error violation

def checkAll {α : Type} (check : α → Except Violation Unit) : List α → Except Violation Unit
  | [] => .ok ()
  | a :: rest => do
    check a
    checkAll check rest

def checkResourceId : Option String → Except Violation Unit
  | none => .ok ()
  | some id => require (ResourceId.isValid id) (.badResourceId id)

def SystemIdentity.check (system : SystemIdentity) : Except Violation Unit := do
  require (!system.name.isEmpty) .emptySystemName
  require (system.name.utf8ByteSize ≤ ResourceId.nameBytes) (.longSystemName system.name)
  require (system.namespaceName.utf8ByteSize ≤ ResourceId.namespaceBytes)
    (.longNamespace system.namespaceName)
  checkResourceId system.resourceId?
  Scope.top.checkName system.label "system label"
  Scope.top.checkName system.library "library"

def checkImport (request : ImportRequest) : Except Violation Unit := do
  Scope.top.checkName request.symbol "import"
  require (!request.path.isEmpty) (.emptyImportPath request.symbol)

/-- Checks the parameter at a position of a declaration. Calls hand on the inputs of functions by
name, so these have to be named. -/
def checkParameter (owner : String) (areInputs : Bool) (position : Nat) (parameter : Parameter) :
    Except Violation Unit :=
  match parameter.name with
  | some name => (Scope.top.push owner).checkName name "parameter"
  | none => require (!areInputs) (.unnamedParameter owner position parameter)

/-- Checks the parameters of a declaration, the first of which stands at a position. -/
def checkParameters (owner : String) (areInputs : Bool) (position : Nat) :
    List Parameter → Except Violation Unit
  | [] => .ok ()
  | parameter :: rest => do
    checkParameter owner areInputs position parameter
    checkParameters owner areInputs (position + 1) rest

def checkFunction (function : Function) : Except Violation Unit := do
  Scope.top.checkName function.name "function"
  checkParameters function.name true 0 function.parameters
  checkParameters function.name false 0 function.returns

def checkError (error : ErrorSignature) : Except Violation Unit := do
  Scope.top.checkName error.name "error"
  checkParameters error.name false 0 error.parameters

def Manifest.validate (m : Manifest) : Except Violation Unit := do
  m.system.check
  checkAll checkImport m.imports
  checkAll checkFunction m.functions
  checkAll checkError m.errors

end CallLibrary
