import CallLibrary.Proofs.Document.Trees
import CallLibrary.Proofs.Interface.Spellings

/-!
# Interfaces in both formats

The structures of an interface are read alike from JSON and TOML documents that hold the same tree.
The formats differ only in structures that are written as arrays and in mutabilities that are
written as tables.
-/

namespace CallLibrary.Interface

open Document
open Outcome

/-- A tree that may stand for an import or an error. -/
def Tabular (tree : Tree) : Prop := tree.Tabular fun _ _ => True

def FunctionTree (tree : Tree) : Prop :=
  tree.Tabular fun name value => name = "state_mutability" → value.isTable = false

variable {P Q : Type} {kind : Tree → Prop}

theorem agree_readParameterAt (mark : P) (mark' : Q) :
    Agree kind (readParameterAt mark) (readParameterAt mark') := by
  intro tree fits node node' holds holds'
  simp only [readParameterAt, toOption_bind, agree_readText tree fits node node' holds holds']
  congr 1
  funext declaration
  cases Parameter.parse declaration <;> rfl

theorem agree_readParameters :
    Agree kind (readParameters (P := P)) (readParameters (P := Q)) := by
  intro tree _ node node' holds holds'
  have items : Agree (fun _ => True) (readParameterAt node.mark) (readParameterAt node'.mark) :=
    agree_readParameterAt node.mark node'.mark
  exact items.readList tree (fun _ _ => trivial) node node' holds holds'

theorem agree_readMutability :
    Agree (fun tree => tree.isTable = false) (readMutability (P := P) Json.format)
      (readMutability (P := Q) Toml.format) :=
  agree_variant _ _

theorem ImportRequest.agree_read :
    Agree Tabular (shape.read (Json.format (P := P))) (shape.read (Toml.format (P := Q))) := by
  have alike : (shape (P := P)).Alike (fun _ _ => True) (shape (P := Q)) :=
    { fields := .cons (.of_put fun _ _ => agree_readText) <|
        .cons (.of_put fun _ _ => agree_readText) .nil
      isClosed := rfl
      start := rfl
      finish := rfl }
  exact alike.agree_formats shape_orderly shape_orderly

theorem ErrorSignature.agree_read :
    Agree Tabular (shape.read (Json.format (P := P))) (shape.read (Toml.format (P := Q))) := by
  have alike : (shape (P := P)).Alike (fun _ _ => True) (shape (P := Q)) :=
    { fields := .cons (.of_put fun _ _ => agree_readText) <|
        .cons (.of_put fun _ _ => agree_readParameters) .nil
      isClosed := rfl
      start := rfl
      finish := rfl }
  exact alike.agree_formats shape_orderly shape_orderly

/-- A function is read alike from documents of both formats. -/
theorem Function.agree_read :
    Agree FunctionTree ((shape Json.format).read (Json.format (P := P)))
      ((shape Toml.format).read (Toml.format (P := Q))) := by
  have mutability : ∀ name ∈ ["state_mutability"],
      Agree (fun tree => name = "state_mutability" → tree.isTable = false)
        (readMutability (P := P) Json.format) (readMutability (P := Q) Toml.format) := by
    intro name named
    exact agree_readMutability.mono fun _ fits => fits (List.mem_singleton.mp named)
  have alike : (shape (P := P) Json.format).Alike
      (fun name tree => name = "state_mutability" → tree.isTable = false)
      (shape (P := Q) Toml.format) :=
    { fields := .cons (.of_put fun _ _ => agree_readText) <|
        .cons (.of_put fun _ _ => agree_readParameters) <| .cons (.of_put mutability) <|
        .cons (.of_put fun _ _ => agree_readParameters) .nil
      isClosed := rfl
      start := rfl
      finish := rfl }
  exact alike.agree_formats (shape_orderly _) (shape_orderly _)

theorem agree_readImports :
    Agree (fun tree => ∀ item ∈ tree.items, Tabular item)
      (readImports (P := P) Json.format) (readImports (P := Q) Toml.format) :=
  ImportRequest.agree_read.readList

theorem agree_readFunctions :
    Agree (fun tree => ∀ item ∈ tree.items, FunctionTree item)
      (readFunctions (P := P) Json.format) (readFunctions (P := Q) Toml.format) :=
  Function.agree_read.readList

theorem agree_readErrors :
    Agree (fun tree => ∀ item ∈ tree.items, Tabular item)
      (readErrors (P := P) Json.format) (readErrors (P := Q) Toml.format) :=
  ErrorSignature.agree_read.readList

end CallLibrary.Interface
