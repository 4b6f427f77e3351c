import CallLibrary.Interface.Mutability
import CallLibrary.Interface.Parameter

/-!
# The interface of a system

What a library is generated from: the functions and errors of a system contract, the imports that
its types need, and the names under which the system is registered.
-/

namespace CallLibrary.Interface

/-- A function that can be called on a system. -/
structure Function where
  name : String
  parameters : List Parameter
  mutability : Mutability
  returns : List Parameter
  deriving DecidableEq, Repr

structure ErrorSignature where
  name : String
  parameters : List Parameter
  deriving DecidableEq, Repr

/-- A symbol and the source path that it is imported from. -/
structure ImportRequest where
  symbol : String
  path : String
  deriving DecidableEq, Repr

/-- Everything that one library is generated from. The namespace is empty for a system of the root
namespace, and the resource id is copied into the library as written. -/
structure Options where
  libraryName : String
  systemLabel : String
  systemName : String
  namespaceName : String
  resourceId : String
  functions : List Function
  errors : List ErrorSignature
  imports : List ImportRequest
  worldPath : String
  storePath : String
  deriving DecidableEq, Repr

def Options.isRoot (options : Options) : Bool := options.namespaceName.isEmpty

end CallLibrary.Interface
