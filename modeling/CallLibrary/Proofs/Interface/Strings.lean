import CallLibrary.Interface.Basic
import CallLibrary.Proofs.Text.OneLine

/-!
# The texts of an interface

All texts that occur in the options of a library, at any depth. If none of them holds a line feed,
then nothing that is put together from them does.
-/

namespace CallLibrary.Interface

open Text (OneLine)

def Parameter.strings (p : Parameter) : List String := p.type :: p.name.toList

def Function.strings (f : Function) : List String :=
  f.name :: (f.parameters ++ f.returns).flatMap (·.strings)

def ErrorSignature.strings (e : ErrorSignature) : List String :=
  e.name :: e.parameters.flatMap (·.strings)

def ImportRequest.strings (i : ImportRequest) : List String := [i.symbol, i.path]

def Options.strings (options : Options) : List String :=
  [options.libraryName, options.systemLabel, options.systemName, options.namespaceName,
      options.resourceId, options.worldPath, options.storePath]
    ++ options.functions.flatMap (·.strings) ++ options.errors.flatMap (·.strings)
    ++ options.imports.flatMap (·.strings)

/-- Both texts of a parameter stand on one line each. -/
def Parameter.OnLines (p : Parameter) : Prop := OneLine p.type ∧ ∀ name ∈ p.name, OneLine name

theorem onLines_of_strings {parameters : List Parameter}
    (oneLine : ∀ s ∈ parameters.flatMap (·.strings), OneLine s) :
    ∀ p ∈ parameters, p.OnLines := by
  intro p member
  have inside : ∀ s ∈ p.strings, OneLine s := fun s text =>
    oneLine s (List.mem_flatMap.mpr ⟨p, member, text⟩)
  refine ⟨inside p.type (by simp [Parameter.strings]), fun name given => inside name ?_⟩
  simpa [Parameter.strings] using .inr given

theorem Parameter.onLines_ofType {type : String} : (ofType type).OnLines ↔ OneLine type := by
  simp [OnLines, ofType]

theorem Parameter.onLines_named {type name : String} :
    (named type name).OnLines ↔ OneLine type ∧ OneLine name := by
  simp [OnLines, named]

/-- A declaration only adds spaces and keywords. -/
theorem Parameter.OnLines.declaration {p : Parameter} (oneLine : p.OnLines) :
    OneLine p.declaration := by
  obtain ⟨type, location, name⟩ := p
  obtain ⟨typeLine, nameLine⟩ := oneLine
  simp only [Parameter.declaration, Text.oneLine_append]
  refine ⟨⟨typeLine, ?_⟩, ?_⟩
  · cases location with
    | none => decide
    | some location => cases location <;> decide
  · cases name with
    | none => decide
    | some name => exact Text.oneLine_append.mpr ⟨by decide, nameLine name rfl⟩

structure Function.OnLines (f : Function) : Prop where
  name : OneLine f.name
  parameters : ∀ p ∈ f.parameters, p.OnLines
  returns : ∀ p ∈ f.returns, p.OnLines

structure ErrorSignature.OnLines (e : ErrorSignature) : Prop where
  name : OneLine e.name
  parameters : ∀ p ∈ e.parameters, p.OnLines

structure Options.OnLines (options : Options) : Prop where
  libraryName : OneLine options.libraryName
  systemLabel : OneLine options.systemLabel
  systemName : OneLine options.systemName
  namespaceName : OneLine options.namespaceName
  resourceId : OneLine options.resourceId
  worldPath : OneLine options.worldPath
  storePath : OneLine options.storePath
  functions : ∀ f ∈ options.functions, f.OnLines
  errors : ∀ e ∈ options.errors, e.OnLines
  imports : ∀ i ∈ options.imports, OneLine i.symbol ∧ OneLine i.path

theorem Function.onLines_of_strings {f : Function} (oneLine : ∀ s ∈ f.strings, OneLine s) :
    f.OnLines := by
  simp only [Function.strings, List.forall_mem_cons, List.flatMap_append, List.forall_mem_append]
    at oneLine
  obtain ⟨name, parameters, returns⟩ := oneLine
  exact ⟨name, Interface.onLines_of_strings parameters, Interface.onLines_of_strings returns⟩

theorem ErrorSignature.onLines_of_strings {e : ErrorSignature}
    (oneLine : ∀ s ∈ e.strings, OneLine s) : e.OnLines := by
  simp only [ErrorSignature.strings, List.forall_mem_cons] at oneLine
  exact ⟨oneLine.1, Interface.onLines_of_strings oneLine.2⟩

/-- Options stand on one line each if none of their texts has a line feed. -/
theorem Options.onLines_of_strings {options : Options}
    (oneLine : ∀ s ∈ options.strings, OneLine s) : options.OnLines := by
  simp only [Options.strings, List.forall_mem_append, List.forall_mem_cons, List.forall_mem_flatMap]
    at oneLine
  obtain ⟨⟨⟨names, functions⟩, errors⟩, imports⟩ := oneLine
  obtain ⟨libraryName, systemLabel, systemName, namespaceName, resourceId, worldPath, storePath,
    _⟩ := names
  refine ⟨libraryName, systemLabel, systemName, namespaceName, resourceId, worldPath, storePath,
    ?_, ?_, ?_⟩
  · intro f member
    exact Function.onLines_of_strings (functions f member)
  · intro e member
    exact ErrorSignature.onLines_of_strings (errors e member)
  · intro i member
    have both := imports i member
    simpa [ImportRequest.strings] using both

end CallLibrary.Interface
