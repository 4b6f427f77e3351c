import CallLibrary.Calls.Form
import CallLibrary.Generator.Names
import CallLibrary.Solidity.SourceUnit

/-!
# The generated file

A generated file holds the imports, the handle of the system, the two wrappers, the library and the
bindings that make the library's functions available on the handle and the wrappers. The library
holds the errors, all direct variants, all forwarded variants, all root variants and the utilities,
each kind in the order of the interface. An error in any part leaves no file at all.
-/

namespace CallLibrary.Generator

open Calls (Form GenerationError Setting Wrapper)
open Interface (ErrorSignature Function Options Parameter)
open Solidity (Declaration Library SourceUnit)

/-- The errors of a library: the one that refuses forwarded calls, then those of the system. -/
def allErrors (names : Names) (options : Options) : List ErrorSignature :=
  ⟨names.guardError, []⟩ :: options.errors

/-- The functions of every library: they make wrappers, convert the handle, find the system's
address and reach the world. -/
def utilities (handleType : String) : List Solidity.Function :=
  let self := Parameter.named handleType "self"
  let sender := Parameter.named "address" "from"
  [{ name := "callFrom"
     parameters := [self, sender]
     access := .pure
     returns := [Wrapper.world.value]
     body := [.line ("return " ++ Wrapper.world.construct "self.toResourceId()" "from" ++ ";")] },
   { name := "callAsRoot"
     parameters := [self]
     access := .view
     returns := [Wrapper.root.value]
     body := [.line
       ("return " ++ Wrapper.root.construct "self.toResourceId()" "msg.sender" ++ ";")] },
   { name := "callAsRootFrom"
     parameters := [self, sender]
     access := .pure
     returns := [Wrapper.root.value]
     body := [.line ("return " ++ Wrapper.root.construct "self.toResourceId()" "from" ++ ";")] },
   { name := "toResourceId"
     parameters := [self]
     access := .pure
     returns := [.ofType "ResourceId"]
     body := [.line ("return ResourceId.wrap(" ++ handleType ++ ".unwrap(self));")] },
   { name := "fromResourceId"
     parameters := [.named "ResourceId" "resourceId"]
     access := .pure
     returns := [.ofType handleType]
     body := [.line ("return " ++ handleType ++ ".wrap(resourceId.unwrap());")] },
   { name := "getAddress"
     parameters := [self]
     access := .view
     returns := [.ofType "address"]
     body := [.line "return Systems.getSystem(self.toResourceId());"] },
   { name := "_world"
     isPrivate := true
     access := .view
     returns := [.ofType "IWorldCall"]
     body := [.line "return IWorldCall(StoreSwitch.getStoreAddress());"] }]

def setting (names : Names) (options : Options) : Setting where
  handleType := names.handleType
  interface := options.systemLabel
  guardError := names.guardError
  isRoot := options.isRoot

/-- The variants of functions in one form, in the order of the functions. -/
def variantsIn (s : Setting) (form : Form) :
    List Function → Except GenerationError (List Solidity.Function)
  | [] => .ok []
  | function :: rest => do
    let variant? ← form.variant? s function
    let variants ← variantsIn s form rest
    return variant?.toList ++ variants

/-- The variants of functions in several forms, one form after the other. -/
def variants (s : Setting) (functions : List Function) :
    List Form → Except GenerationError (List Solidity.Function)
  | [] => .ok []
  | form :: rest => do
    let first ← variantsIn s form functions
    let others ← variants s functions rest
    return first ++ others

def library (names : Names) (options : Options) (variants : List Solidity.Function) : Library :=
  (((Library.empty names.library).document ("@title " ++ names.library)).document
    ("@dev This library is automatically generated from the corresponding system contract. "
      ++ "Do not edit manually.")).addGroup (Solidity.errorLines (allErrors names options))
    |>.addAll (variants.map fun f => [f.fragment])
    |>.addAll ((utilities names.handleType).map fun f => [f.fragment])

/-- The handle of the system, with a comment that says how its resource id comes about. -/
def handleConstant (names : Names) (options : Options) : Declaration :=
  .constant names.handleType names.handleConstant
    (names.handleType ++ ".wrap(" ++ options.resourceId ++ ")")
    (some ("equivalent to WorldResourceIdLib.encode(\x7b typeId: RESOURCE_SYSTEM, namespace: \""
      ++ options.namespaceName ++ "\", name: \"" ++ options.systemName ++ "\" \x7d)"))

def sourceUnit (names : Names) (options : Options) (imports : List Solidity.Import)
    (library : Library) : SourceUnit :=
  (SourceUnit.empty.withHeader Solidity.standardHeader).withImports imports
    |>.add (.valueType names.handleType "bytes32")
    |>.add (handleConstant names options)
    |>.add Wrapper.world.declaration
    |>.add Wrapper.root.declaration
    |>.add (.library library)
    |>.addGroup
      [.binding names.library names.handleType,
        .binding names.library Wrapper.world.name,
        .binding names.library Wrapper.root.name]

def render (options : Options) : Except GenerationError String := do
  let names := Names.ofOptions options
  let imports ← Calls.resolveImports (allImports options) names.defined
  let functions ← variants (setting names options) options.functions Form.all
  return (sourceUnit names options imports (library names options functions)).render

def fileName (options : Options) : String := options.libraryName ++ ".sol"

end CallLibrary.Generator
