import CallLibrary.Document.Json.Reader
import CallLibrary.Interface.Encoding
import CallLibrary.Interface.Schema
import CallLibrary.Proofs.Document.Drafts
import CallLibrary.Proofs.Interface.Declaration

/-!
# Writing what was read

More spellings are read than are written: other orders, arrays, the shorter name of a function's
results, missing fields, and declarations with any blanks. What was read holds only parameters that
can be read from their own declarations, and a structure of such parameters is read from what is
written for it.
-/

namespace CallLibrary.Interface

open Document (Error Field Format Json.format Node Shape)
open Outcome

variable {P : Type}

/-! ## What was read -/

/-- The parameters of a function can be read from their declarations. -/
structure Function.Declared (f : Function) : Prop where
  parameters : ∀ p ∈ f.parameters, p.Declared
  returns : ∀ p ∈ f.returns, p.Declared

def ErrorSignature.Declared (e : ErrorSignature) : Prop := ∀ p ∈ e.parameters, p.Declared

structure Options.Declared (options : Options) : Prop where
  functions : ∀ f ∈ options.functions, f.Declared
  errors : ∀ e ∈ options.errors, e.Declared

theorem declared_of_readParameterAt {mark : P} {node : Node P} {p : Parameter}
    (read : readParameterAt mark node = .ok p) : p.Declared := by
  obtain ⟨declaration, _, read⟩ := bind_eq_ok.mp read
  cases parsed : Parameter.parse declaration with
  | error e => simp [parsed] at read
  | ok p' =>
    rw [parsed] at read
    cases read
    exact Parameter.declared_of_parse parsed

theorem declared_of_readParameters {node : Node P} {parameters : List Parameter}
    (read : readParameters node = .ok parameters) : ∀ p ∈ parameters, p.Declared :=
  Node.forall_of_readList (fun _ _ => declared_of_readParameterAt) read

structure FunctionDraft.Declared (draft : FunctionDraft) : Prop where
  parameters : ∀ p ∈ draft.parameters.getD [], p.Declared
  returns : ∀ p ∈ draft.returns.getD [], p.Declared

theorem Function.declared_of_read {format : Format P} {node : Node P} {f : Function}
    (read : (shape format).read format node = .ok f) : f.Declared := by
  have keeps : ∀ field ∈ (shape format).fields, field.Keeps FunctionDraft.Declared := by
    simp only [shape, List.forall_mem_cons, List.not_mem_nil, false_imp_iff, implies_true,
      and_true]
    refine ⟨.of_put fun _ _ _ _ held => ?_, .of_put fun _ _ _ read held => ?_,
      .of_put fun _ _ _ _ held => ?_, .of_put fun _ _ _ read held => ?_⟩
    · exact ⟨held.parameters, held.returns⟩
    · exact ⟨declared_of_readParameters read, held.returns⟩
    · exact ⟨held.parameters, held.returns⟩
    · exact ⟨held.parameters, declared_of_readParameters read⟩
  have start : (shape format).start.Declared := ⟨by simp [shape], by simp [shape]⟩
  obtain ⟨draft, held, finished⟩ := Shape.exists_draft_of_read start keeps read
  obtain ⟨name, _, made⟩ := bind_eq_ok.mp finished
  cases made
  exact ⟨held.parameters, held.returns⟩

def ErrorDraft.Declared (draft : ErrorDraft) : Prop :=
  ∀ p ∈ draft.parameters.getD [], p.Declared

theorem ErrorSignature.declared_of_read {format : Format P} {node : Node P} {e : ErrorSignature}
    (read : shape.read format node = .ok e) : e.Declared := by
  have keeps : ∀ field ∈ (shape (P := P)).fields, field.Keeps ErrorDraft.Declared := by
    simp only [shape, List.forall_mem_cons, List.not_mem_nil, false_imp_iff, implies_true,
      and_true]
    exact ⟨.of_put fun _ _ _ _ held => held,
      .of_put fun _ _ _ read _ => declared_of_readParameters read⟩
  have start : (shape (P := P)).start.Declared := by simp [ErrorDraft.Declared, shape]
  obtain ⟨draft, held, finished⟩ := Shape.exists_draft_of_read start keeps read
  obtain ⟨name, _, made⟩ := bind_eq_ok.mp finished
  cases made
  exact held

theorem declared_of_readFunctions {format : Format P} {node : Node P} {functions : List Function}
    (read : readFunctions format node = .ok functions) : ∀ f ∈ functions, f.Declared :=
  Node.forall_of_readList (fun _ _ => Function.declared_of_read) read

theorem declared_of_readErrors {format : Format P} {node : Node P} {errors : List ErrorSignature}
    (read : readErrors format node = .ok errors) : ∀ e ∈ errors, e.Declared :=
  Node.forall_of_readList (fun _ _ => ErrorSignature.declared_of_read) read

structure OptionsDraft.Declared (draft : OptionsDraft) : Prop where
  functions : ∀ f ∈ draft.functions.getD [], f.Declared
  errors : ∀ e ∈ draft.errors.getD [], e.Declared

/-- The parameters in options that were read can be read from their declarations. -/
theorem Options.declared_of_read {format : Format P} {node : Node P} {options : Options}
    (read : (shape format).read format node = .ok options) : options.Declared := by
  have keeps : ∀ field ∈ (shape format).fields, field.Keeps OptionsDraft.Declared := by
    simp only [shape, List.forall_mem_cons, List.not_mem_nil, false_imp_iff, implies_true,
      and_true]
    refine ⟨?_, ?_, ?_, ?_, ?_,
      .of_put fun _ _ _ read held => ⟨declared_of_readFunctions read, held.errors⟩,
      .of_put fun _ _ _ read held => ⟨held.functions, declared_of_readErrors read⟩, ?_, ?_, ?_⟩
    all_goals exact .of_put fun _ _ _ _ held => ⟨held.functions, held.errors⟩
  have start : (shape format).start.Declared := ⟨by simp [shape], by simp [shape]⟩
  obtain ⟨draft, held, finished⟩ := Shape.exists_draft_of_read start keeps read
  simp only [shape, bind_eq_ok] at finished
  obtain ⟨libraryName, _, systemLabel, _, systemName, _, namespaceName, _, resourceId, _,
    worldPath, _, storePath, _, made⟩ := finished
  cases made
  exact ⟨held.functions, held.errors⟩

/-! ## What is written -/

theorem readText_textNode (s : String) : (textNode s).readText = .ok s := rfl

theorem readParameterAt_toNode {p : Parameter} (declared : p.Declared) :
    readParameterAt () p.toNode = .ok p := by
  unfold Parameter.Declared at declared
  simp [readParameterAt, Parameter.toNode, readText_textNode, declared, bind, Except.bind]

theorem readList_listNode {α : Type} {write : α → Node Unit}
    {read : Node Unit → Except (Error Unit) α} {values : List α}
    (each : ∀ value ∈ values, read (write value) = .ok value) :
    (listNode write values).readList read = .ok values :=
  mapM_map_eq_ok each

theorem readParameters_listNode {parameters : List Parameter}
    (declared : ∀ p ∈ parameters, p.Declared) :
    readParameters (listNode Parameter.toNode parameters) = .ok parameters :=
  readList_listNode fun p member => readParameterAt_toNode (declared p member)

theorem readMutability_toNode (m : Mutability) :
    readMutability Json.format m.toNode = .ok m := by
  cases m <;> rfl

theorem Function.read_toNode {f : Function} (declared : f.Declared) :
    (shape Json.format).read Json.format f.toNode = .ok f := by
  have parameters := readParameters_listNode declared.parameters
  have returns := readParameters_listNode declared.returns
  simp [toNode, tableNode, Shape.read, Shape.readTable, Shape.readEntry, Shape.complete, shape,
    readText_textNode, readMutability_toNode, parameters, returns, given, ok_bind]

theorem ErrorSignature.read_toNode {e : ErrorSignature} (declared : e.Declared) :
    shape.read Json.format e.toNode = .ok e := by
  have parameters := readParameters_listNode declared
  simp [toNode, tableNode, Shape.read, Shape.readTable, Shape.readEntry, Shape.complete, shape,
    readText_textNode, parameters, given, ok_bind]

theorem ImportRequest.read_toNode (i : ImportRequest) :
    shape.read Json.format i.toNode = .ok i := by
  simp [toNode, tableNode, Shape.read, Shape.readTable, Shape.readEntry, Shape.complete, shape,
    readText_textNode, given, ok_bind]

/-- Options are read back as they were written. -/
theorem Options.read_toNode {options : Options} (declared : options.Declared) :
    (shape Json.format).read Json.format options.toNode = .ok options := by
  have functions : readFunctions Json.format (listNode Function.toNode options.functions) =
      .ok options.functions :=
    readList_listNode fun f member => Function.read_toNode (declared.functions f member)
  have errors : readErrors Json.format (listNode ErrorSignature.toNode options.errors) =
      .ok options.errors :=
    readList_listNode fun e member => ErrorSignature.read_toNode (declared.errors e member)
  have imports : readImports Json.format (listNode ImportRequest.toNode options.imports) =
      .ok options.imports :=
    readList_listNode fun i _ => ImportRequest.read_toNode i
  simp [toNode, tableNode, Shape.read, Shape.readTable, Shape.readEntry, Shape.complete, shape,
    readText_textNode, functions, errors, imports, given, ok_bind]

end CallLibrary.Interface
