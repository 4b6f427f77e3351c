import CallLibrary.Proofs.Generator.OneLines

/-!
# The declarations of a file

A generated file is its header and a list of declarations: the imports, the handle, the wrappers,
the library and the bindings. What a file introduces is read off from these declarations and not
from its text, which holds nothing else.
-/

namespace CallLibrary.Solidity

/-- The names that a declaration introduces in the scope in which it stands. A binding introduces no
name, and verbatim fragments are not looked into. -/
def Declaration.introduced : Declaration → List String
  | .error signature => [signature.name]
  | .valueType name _ => [name]
  | .constant _ name _ _ => [name]
  | .binding _ _ => []
  | .struct name _ => [name]
  | .importing statement => statement.symbols
  | .function definition => [definition.name]
  | .library definition => [definition.name]
  | .verbatim _ => []

end CallLibrary.Solidity

namespace CallLibrary.Generator

open Calls (Form Wrapper)
open Interface (Options)
open Layout (Fragment)
open Outcome
open Solidity (Declaration Import Library SourceUnit standardHeader)

/-- A file is made of these imports and these variants. -/
structure MadeOf (options : Options) (text : String) (imports : List Import)
    (given : List Solidity.Function) : Prop where
  resolved : Calls.resolveImports (allImports options) (Names.ofOptions options).defined =
    .ok imports
  variants_given :
    variants (setting (Names.ofOptions options) options) options.functions Form.all = .ok given
  text_eq : text = (sourceUnit (Names.ofOptions options) options imports
    (library (Names.ofOptions options) options given)).render

/-- A file is generated exactly if there are imports and variants to make it of. -/
theorem render_eq_ok {options : Options} {text : String} :
    render options = .ok text ↔ ∃ imports given, MadeOf options text imports given := by
  constructor
  · intro rendered
    obtain ⟨imports, resolved, rest⟩ := bind_eq_ok.mp rendered
    obtain ⟨given, succeeded, made⟩ := bind_eq_ok.mp rest
    exact ⟨imports, given, resolved, succeeded, (Except.ok.inj made).symm⟩
  · intro parts
    obtain ⟨imports, given, resolved, succeeded, rfl⟩ := parts
    exact bind_eq_ok.mpr ⟨imports, resolved, bind_eq_ok.mpr ⟨given, succeeded, rfl⟩⟩

def declarations (names : Names) (options : Options) (imports : List Import) (library : Library) :
    List Declaration :=
  imports.map .importing ++
    [.valueType names.handleType "bytes32", handleConstant names options,
      Wrapper.world.declaration, Wrapper.root.declaration, .library library,
      .binding names.library names.handleType, .binding names.library Wrapper.world.name,
      .binding names.library Wrapper.root.name]

/-- A text is the header and the declarations of a list, in sections with blank lines between
them. -/
def Declares (text : String) (declared : List Declaration) : Prop :=
  ∃ sections : List (List Fragment),
    text = Layout.render (List.intercalate [.blank] sections) ∧
    sections.flatten =
      SourceUnit.headerFragments standardHeader ++ declared.flatMap (·.fragments)

/-- Import statements are one line each. -/
theorem flatMap_importing (imports : List Import) :
    (imports.map Declaration.importing).flatMap (·.fragments) =
      imports.map fun i => .line i.statement := by
  induction imports with
  | nil => rfl
  | cons first rest ih =>
    simp only [List.map_cons, List.flatMap_cons, ih]
    rfl

/-- A file declares what it is made of. -/
theorem MadeOf.declares {options : Options} {text : String} {imports : List Import}
    {given : List Solidity.Function} (made : MadeOf options text imports given) :
    Declares text (declarations (Names.ofOptions options) options imports
      (library (Names.ofOptions options) options given)) := by
  let unit := sourceUnit (Names.ofOptions options) options imports
    (library (Names.ofOptions options) options given)
  have importSection :
      (if imports.isEmpty then [] else [imports.map fun i => Fragment.line i.statement]).flatten =
        imports.map fun i => Fragment.line i.statement := by
    cases imports with
    | nil => rfl
    | cons first rest => simp
  refine ⟨unit.sections, made.text_eq, ?_⟩
  rw [sections_sourceUnit, frontSections, List.cons_append, List.cons_append, List.flatten_cons,
    List.flatten_append, List.flatten_append, importSection, declarations, List.flatMap_append,
    flatMap_importing, List.append_assoc]
  simp [bindings, Declaration.fragments]

/-- The names that a file introduces: the imported symbols, and those that it declares itself. -/
theorem introduced_declarations (names : Names) (options : Options) (imports : List Import)
    (library : Library) :
    (declarations names options imports library).flatMap (·.introduced) =
      imports.flatMap (·.symbols) ++
        [names.handleType, names.handleConstant, "CallWrapper", "RootCallWrapper",
          library.name] := by
  have importing : (imports.map Declaration.importing).flatMap (·.introduced) =
      imports.flatMap (·.symbols) := by
    rw [List.flatMap_map]
    rfl
  rw [declarations, List.flatMap_append, importing]
  rfl

end CallLibrary.Generator
