import CallLibrary.Interface.Basic
import CallLibrary.ResourceId

/-!
# Manifests

A manifest describes one system. What it leaves out follows from what it says: the label is the
system's name, the library is named after the label, and the resource id is made of the namespace
and the name.
-/

namespace CallLibrary

open Interface (ErrorSignature Function ImportRequest Options)

/-- The part of a manifest that says under which names the system goes. -/
structure SystemIdentity where
  name : String
  label? : Option String
  /-- Empty for the root namespace. -/
  namespaceName : String
  library? : Option String
  resourceId? : Option String
  deriving DecidableEq, Repr

namespace SystemIdentity

/-- The label that names are derived from. -/
def label (system : SystemIdentity) : String := system.label?.getD system.name

def library (system : SystemIdentity) : String := system.library?.getD (system.label ++ "Lib")

def resourceId (system : SystemIdentity) : String :=
  system.resourceId?.getD (ResourceId.encode system.namespaceName system.name)

end SystemIdentity

/-- Where the sources of the world and the store are imported from. -/
structure ImportRoots where
  world : String := "@latticexyz/world/src"
  store : String := "@latticexyz/store/src"
  deriving DecidableEq, Repr

structure Manifest where
  system : SystemIdentity
  paths : ImportRoots
  imports : List ImportRequest
  functions : List Function
  errors : List ErrorSignature
  deriving DecidableEq, Repr

/-- What the system's library is generated from. -/
def Manifest.options (m : Manifest) : Options where
  libraryName := m.system.library
  systemLabel := m.system.label
  systemName := m.system.name
  namespaceName := m.system.namespaceName
  resourceId := m.system.resourceId
  functions := m.functions
  errors := m.errors
  imports := m.imports
  worldPath := m.paths.world
  storePath := m.paths.store

end CallLibrary
