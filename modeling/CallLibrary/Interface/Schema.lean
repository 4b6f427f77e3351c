import CallLibrary.Document.Shape
import CallLibrary.Interface.Basic

/-!
# Reading an interface from a document

The shapes of the interface's structures. Parameters are written as declarations, and a function's
results may be given under a shorter name.
-/

namespace CallLibrary.Interface

open Document (Error Field Format Node Shape)

variable {P : Type}

/-- Reads a declaration. A text that is no declaration counts against the value marked `mark`. -/
def readParameterAt (mark : P) (node : Node P) : Except (Error P) Parameter := do
  let declaration ← node.readText
  match Parameter.parse declaration with
  | .ok parameter => return parameter
  | .error e => .error ⟨.declaration e, mark⟩

/-- Reads a parameter that stands alone. -/
def readParameter (node : Node P) : Except (Error P) Parameter :=
  readParameterAt node.mark node

/-- Reads a list of parameters. A text that is no declaration counts against the whole list. -/
def readParameters (node : Node P) : Except (Error P) (List Parameter) :=
  node.readList (readParameterAt node.mark)

def readMutability (format : Format P) (node : Node P) : Except (Error P) Mutability :=
  format.variant Mutability.keywords Mutability.ofKeyword? node

/-- The field of a draft that is missing when it has no value. -/
def given {α : Type} (name : String) : Option α → Except String α
  | some value => .ok value
  | none => .error name

structure ImportDraft where
  symbol : Option String := none
  path : Option String := none

def ImportRequest.shape : Shape P ImportDraft ImportRequest where
  name := "ImportSpec"
  fields :=
    [⟨"symbol", [], .required, (·.symbol.isSome),
        fun node draft => return { draft with symbol := some (← node.readText) }⟩,
      ⟨"path", [], .required, (·.path.isSome),
        fun node draft => return { draft with path := some (← node.readText) }⟩]
  isClosed := false
  start := {}
  finish draft := do
    let symbol ← given "symbol" draft.symbol
    let path ← given "path" draft.path
    return ⟨symbol, path⟩

structure FunctionDraft where
  name : Option String := none
  parameters : Option (List Parameter) := none
  mutability : Option Mutability := none
  returns : Option (List Parameter) := none

def Function.shape (format : Format P) : Shape P FunctionDraft Function where
  name := "InterfaceFunction"
  fields :=
    [⟨"name", [], .required, (·.name.isSome),
        fun node draft => return { draft with name := some (← node.readText) }⟩,
      ⟨"parameters", [], .defaulted, (·.parameters.isSome),
        fun node draft => return { draft with parameters := some (← readParameters node) }⟩,
      ⟨"state_mutability", [], .defaulted, (·.mutability.isSome),
        fun node draft => return { draft with mutability := some (← readMutability format node) }⟩,
      ⟨"return_parameters", ["returns"], .defaulted, (·.returns.isSome),
        fun node draft => return { draft with returns := some (← readParameters node) }⟩]
  isClosed := false
  start := {}
  finish draft := do
    let name ← given "name" draft.name
    return ⟨name, draft.parameters.getD [], draft.mutability.getD .nonpayable,
      draft.returns.getD []⟩

structure ErrorDraft where
  name : Option String := none
  parameters : Option (List Parameter) := none

def ErrorSignature.shape : Shape P ErrorDraft ErrorSignature where
  name := "InterfaceError"
  fields :=
    [⟨"name", [], .required, (·.name.isSome),
        fun node draft => return { draft with name := some (← node.readText) }⟩,
      ⟨"parameters", [], .defaulted, (·.parameters.isSome),
        fun node draft => return { draft with parameters := some (← readParameters node) }⟩]
  isClosed := false
  start := {}
  finish draft := do
    let name ← given "name" draft.name
    return ⟨name, draft.parameters.getD []⟩

def readImports (format : Format P) : Node P → Except (Error P) (List ImportRequest) :=
  Node.readList (ImportRequest.shape.read format)

def readFunctions (format : Format P) : Node P → Except (Error P) (List Function) :=
  Node.readList ((Function.shape format).read format)

def readErrors (format : Format P) : Node P → Except (Error P) (List ErrorSignature) :=
  Node.readList (ErrorSignature.shape.read format)

structure OptionsDraft where
  libraryName : Option String := none
  systemLabel : Option String := none
  systemName : Option String := none
  namespaceName : Option String := none
  resourceId : Option String := none
  functions : Option (List Function) := none
  errors : Option (List ErrorSignature) := none
  imports : Option (List ImportRequest) := none
  worldPath : Option String := none
  storePath : Option String := none

def Options.shape (format : Format P) : Shape P OptionsDraft Options where
  name := "RenderOptions"
  fields :=
    [⟨"library_name", [], .required, (·.libraryName.isSome),
        fun node draft => return { draft with libraryName := some (← node.readText) }⟩,
      ⟨"system_label", [], .required, (·.systemLabel.isSome),
        fun node draft => return { draft with systemLabel := some (← node.readText) }⟩,
      ⟨"system_name", [], .required, (·.systemName.isSome),
        fun node draft => return { draft with systemName := some (← node.readText) }⟩,
      ⟨"namespace", [], .required, (·.namespaceName.isSome),
        fun node draft => return { draft with namespaceName := some (← node.readText) }⟩,
      ⟨"resource_id", [], .required, (·.resourceId.isSome),
        fun node draft => return { draft with resourceId := some (← node.readText) }⟩,
      ⟨"functions", [], .defaulted, (·.functions.isSome),
        fun node draft => return { draft with functions := some (← readFunctions format node) }⟩,
      ⟨"errors", [], .defaulted, (·.errors.isSome),
        fun node draft => return { draft with errors := some (← readErrors format node) }⟩,
      ⟨"imports", [], .defaulted, (·.imports.isSome),
        fun node draft => return { draft with imports := some (← readImports format node) }⟩,
      ⟨"world_import_path", [], .required, (·.worldPath.isSome),
        fun node draft => return { draft with worldPath := some (← node.readText) }⟩,
      ⟨"store_import_path", [], .required, (·.storePath.isSome),
        fun node draft => return { draft with storePath := some (← node.readText) }⟩]
  isClosed := false
  start := {}
  finish draft := do
    let libraryName ← given "library_name" draft.libraryName
    let systemLabel ← given "system_label" draft.systemLabel
    let systemName ← given "system_name" draft.systemName
    let namespaceName ← given "namespace" draft.namespaceName
    let resourceId ← given "resource_id" draft.resourceId
    let worldPath ← given "world_import_path" draft.worldPath
    let storePath ← given "store_import_path" draft.storePath
    return {
      libraryName, systemLabel, systemName, namespaceName, resourceId
      functions := draft.functions.getD []
      errors := draft.errors.getD []
      imports := draft.imports.getD []
      worldPath, storePath }

end CallLibrary.Interface
