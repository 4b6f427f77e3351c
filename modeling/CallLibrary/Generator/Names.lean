import CallLibrary.Calls.Wrapper
import CallLibrary.Interface.Basic
import CallLibrary.Text.LowerCase

/-!
# Names of a library

The names that a generated file introduces follow from the names of the library and the system.
-/

namespace CallLibrary.Generator

open Calls (Wrapper)
open Interface (ImportRequest Options)

/-- The derived names that callers of a library rely on. -/
structure Names where
  library : String
  handleType : String
  handleConstant : String
  guardError : String
  deriving DecidableEq, Repr

namespace Names

def ofOptions (options : Options) : Names where
  library := options.libraryName
  handleType := options.systemLabel ++ "Type"
  handleConstant := Text.decapitalize options.systemLabel
  guardError := options.libraryName ++ "_CallingFromRootSystem"

/-- The names that the file declares at file level. -/
def defined (names : Names) : List String :=
  [names.library, names.handleType, names.handleConstant, Wrapper.world.name, Wrapper.root.name]

end Names

def requiredImports (worldPath storePath : String) : List ImportRequest :=
  [⟨"revertWithBytes", worldPath ++ "/revertWithBytes.sol"⟩,
    ⟨"IWorldCall", worldPath ++ "/IWorldKernel.sol"⟩,
    ⟨"SystemCall", worldPath ++ "/SystemCall.sol"⟩,
    ⟨"Systems", worldPath ++ "/codegen/tables/Systems.sol"⟩,
    ⟨"ResourceId", storePath ++ "/ResourceId.sol"⟩,
    ⟨"StoreSwitch", storePath ++ "/StoreSwitch.sol"⟩]

/-- The imports of a library: those asked for, then those that every library needs. -/
def allImports (options : Options) : List ImportRequest :=
  options.imports ++ requiredImports options.worldPath options.storePath

end CallLibrary.Generator
