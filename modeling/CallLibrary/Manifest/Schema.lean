import CallLibrary.Interface.Schema
import CallLibrary.Manifest.Basic

/-!
# Reading a manifest from a document

Tables of a manifest may only have entries for its fields, so that a misspelt field is noticed. The
system's name is the one thing that has to be given.
-/

namespace CallLibrary

open Document (Error Format Node Shape)
open Interface (ErrorSignature Function ImportRequest given)

variable {P : Type}

structure SystemDraft where
  name : Option String := none
  label : Option (Option String) := none
  namespaceName : Option String := none
  library : Option (Option String) := none
  resourceId : Option (Option String) := none

def SystemIdentity.shape : Shape P SystemDraft SystemIdentity where
  name := "SystemConfig"
  fields :=
    [⟨"name", [], .required, (·.name.isSome),
        fun node draft => return { draft with name := some (← node.readText) }⟩,
      ⟨"label", [], .optional, (·.label.isSome),
        fun node draft => return { draft with label := some (← node.readText?) }⟩,
      ⟨"namespace", [], .defaulted, (·.namespaceName.isSome),
        fun node draft => return { draft with namespaceName := some (← node.readText) }⟩,
      ⟨"library", [], .optional, (·.library.isSome),
        fun node draft => return { draft with library := some (← node.readText?) }⟩,
      ⟨"resource_id", [], .optional, (·.resourceId.isSome),
        fun node draft => return { draft with resourceId := some (← node.readText?) }⟩]
  isClosed := true
  start := {}
  finish draft := do
    let name ← given "name" draft.name
    return {
      name
      label? := draft.label.getD none
      namespaceName := draft.namespaceName.getD ""
      library? := draft.library.getD none
      resourceId? := draft.resourceId.getD none }

structure RootsDraft where
  world : Option String := none
  store : Option String := none

def ImportRoots.shape : Shape P RootsDraft ImportRoots where
  name := "PathsConfig"
  fields :=
    [⟨"world", [], .defaulted, (·.world.isSome),
        fun node draft => return { draft with world := some (← node.readText) }⟩,
      ⟨"store", [], .defaulted, (·.store.isSome),
        fun node draft => return { draft with store := some (← node.readText) }⟩]
  isClosed := true
  start := {}
  finish draft :=
    let standard : ImportRoots := {}
    return ⟨draft.world.getD standard.world, draft.store.getD standard.store⟩

structure ManifestDraft where
  system : Option SystemIdentity := none
  paths : Option ImportRoots := none
  imports : Option (List ImportRequest) := none
  functions : Option (List Function) := none
  errors : Option (List ErrorSignature) := none

def Manifest.shape (format : Format P) : Shape P ManifestDraft Manifest where
  name := "Manifest"
  fields :=
    [⟨"system", [], .required, (·.system.isSome),
        fun node draft =>
          return { draft with system := some (← SystemIdentity.shape.read format node) }⟩,
      ⟨"paths", [], .defaulted, (·.paths.isSome),
        fun node draft =>
          return { draft with paths := some (← ImportRoots.shape.read format node) }⟩,
      ⟨"imports", [], .defaulted, (·.imports.isSome),
        fun node draft =>
          return { draft with imports := some (← Interface.readImports format node) }⟩,
      ⟨"functions", [], .defaulted, (·.functions.isSome),
        fun node draft =>
          return { draft with functions := some (← Interface.readFunctions format node) }⟩,
      ⟨"errors", [], .defaulted, (·.errors.isSome),
        fun node draft =>
          return { draft with errors := some (← Interface.readErrors format node) }⟩]
  isClosed := true
  start := {}
  finish draft := do
    let system ← given "system" draft.system
    return {
      system
      paths := draft.paths.getD {}
      imports := draft.imports.getD []
      functions := draft.functions.getD []
      errors := draft.errors.getD [] }

end CallLibrary
