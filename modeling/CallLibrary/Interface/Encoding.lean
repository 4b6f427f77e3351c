import CallLibrary.Document.Node
import CallLibrary.Interface.Basic

/-!
# Writing an interface as a document

Structures are written as tables that give every field under its own name, and parameters as
declarations.
-/

namespace CallLibrary.Interface

open Document (Key Node)

def textNode (s : String) : Node Unit := .scalar () (.text s)

def tableNode (entries : List (String × Node Unit)) : Node Unit :=
  .table () (entries.map fun entry => (⟨(), some entry.1⟩, entry.2))

def listNode {α : Type} (write : α → Node Unit) (values : List α) : Node Unit :=
  .array () (values.map write)

def Parameter.toNode (p : Parameter) : Node Unit := textNode p.declaration

def Mutability.toNode (m : Mutability) : Node Unit := textNode m.keyword

def Function.toNode (f : Function) : Node Unit :=
  tableNode
    [("name", textNode f.name),
      ("parameters", listNode Parameter.toNode f.parameters),
      ("state_mutability", f.mutability.toNode),
      ("return_parameters", listNode Parameter.toNode f.returns)]

def ErrorSignature.toNode (e : ErrorSignature) : Node Unit :=
  tableNode
    [("name", textNode e.name), ("parameters", listNode Parameter.toNode e.parameters)]

def ImportRequest.toNode (i : ImportRequest) : Node Unit :=
  tableNode [("symbol", textNode i.symbol), ("path", textNode i.path)]

def Options.toNode (o : Options) : Node Unit :=
  tableNode
    [("library_name", textNode o.libraryName),
      ("system_label", textNode o.systemLabel),
      ("system_name", textNode o.systemName),
      ("namespace", textNode o.namespaceName),
      ("resource_id", textNode o.resourceId),
      ("functions", listNode Function.toNode o.functions),
      ("errors", listNode ErrorSignature.toNode o.errors),
      ("imports", listNode ImportRequest.toNode o.imports),
      ("world_import_path", textNode o.worldPath),
      ("store_import_path", textNode o.storePath)]

end CallLibrary.Interface
