import CallLibrary.Proofs.Calls.Ambiguity
import CallLibrary.Proofs.Calls.OneLines
import CallLibrary.Proofs.Generator.Variants

/-!
# A file on lines

If no text of the options holds a line feed, then no text of the generated file does, so that every
line of the file is one row of its fragments.
-/

namespace CallLibrary.Generator

open Calls (Form Setting Wrapper)
open Interface (ErrorSignature ImportRequest Options Parameter)
open Layout (Fragment OneLines oneLines_line)
open Solidity (Declaration SourceUnit)
open Text (OneLine oneLine_append oneLine_ofList)

theorem setting_onLines {options : Options} (oneLine : options.OnLines) :
    (setting (Names.ofOptions options) options).OnLines where
  handleType := oneLine_append.mpr ⟨oneLine.systemLabel, by decide⟩
  interface := oneLine.systemLabel
  guardError := oneLine_append.mpr ⟨oneLine.libraryName, oneLine_ofList (by decide)⟩

theorem allErrors_onLines {options : Options} (oneLine : options.OnLines) :
    ∀ e ∈ allErrors (Names.ofOptions options) options, e.OnLines := by
  refine List.forall_mem_cons.mpr ⟨⟨(setting_onLines oneLine).guardError, ?_⟩, oneLine.errors⟩
  intro p member
  cases member

theorem allImports_oneLine {options : Options} (oneLine : options.OnLines) :
    ∀ i ∈ allImports options, OneLine i.symbol ∧ OneLine i.path := by
  refine List.forall_mem_append.mpr ⟨oneLine.imports, ?_⟩
  simp only [requiredImports, List.forall_mem_cons, oneLine_append, oneLine.worldPath,
    oneLine.storePath, true_and]
  exact ⟨⟨oneLine_ofList (by decide), oneLine_ofList (by decide)⟩,
    ⟨oneLine_ofList (by decide), oneLine_ofList (by decide)⟩,
    ⟨oneLine_ofList (by decide), oneLine_ofList (by decide)⟩,
    ⟨oneLine_ofList (by decide), oneLine_ofList (by decide)⟩,
    ⟨oneLine_ofList (by decide), oneLine_ofList (by decide)⟩,
    ⟨oneLine_ofList (by decide), oneLine_ofList (by decide)⟩, by simp⟩

theorem utilities_onLines {handleType : String} (oneLine : OneLine handleType) :
    ∀ f ∈ utilities handleType, f.OnLines := by
  have none : ∀ p ∈ ([] : List Parameter), p.OnLines := by simp
  have one : ∀ {p : Parameter}, p.OnLines → ∀ q ∈ [p], q.OnLines := fun p => by simpa using p
  have self : (Parameter.named handleType "self").OnLines :=
    Parameter.onLines_named.mpr ⟨oneLine, by decide⟩
  have both : ∀ p ∈ [.named handleType "self", Parameter.named "address" "from"], p.OnLines :=
    List.forall_mem_cons.mpr
      ⟨self, one (Parameter.onLines_named.mpr ⟨by decide, by decide⟩)⟩
  have construct : ∀ (w : Wrapper) (sender : String), OneLine sender →
      OneLines [.line ("return " ++ w.construct "self.toResourceId()" sender ++ ";")] := by
    intro w sender known
    have id : OneLine "self.toResourceId()" := oneLine_ofList (by decide)
    have call := w.oneLine_construct id known
    exact oneLines_line.mpr
      (oneLine_append.mpr ⟨oneLine_append.mpr ⟨by decide, call⟩, by decide⟩)
  have wrap : OneLine ("return ResourceId.wrap(" ++ handleType ++ ".unwrap(self));") := by
    simp only [oneLine_append, oneLine, and_true]
    exact ⟨oneLine_ofList (by decide), oneLine_ofList (by decide)⟩
  have unwrap : OneLine ("return " ++ handleType ++ ".wrap(resourceId.unwrap());") := by
    simp only [oneLine_append, oneLine, and_true]
    exact ⟨by decide, oneLine_ofList (by decide)⟩
  have resource : (Parameter.named "ResourceId" "resourceId").OnLines :=
    Parameter.onLines_named.mpr ⟨by decide, by decide⟩
  have address : (Parameter.ofType "address").OnLines := Parameter.onLines_ofType.mpr (by decide)
  have id : (Parameter.ofType "ResourceId").OnLines := Parameter.onLines_ofType.mpr (by decide)
  have handle : (Parameter.ofType handleType).OnLines := Parameter.onLines_ofType.mpr oneLine
  have world : (Parameter.ofType "IWorldCall").OnLines := Parameter.onLines_ofType.mpr (by decide)
  simp only [utilities, List.forall_mem_cons]
  refine ⟨?callFrom, ?callAsRoot, ?callAsRootFrom, ?toResourceId, ?fromResourceId, ?getAddress,
    ?world, by simp⟩
  case callFrom =>
    exact ⟨oneLine_ofList (by decide), both, one Wrapper.world.value_onLines,
      construct .world "from" (by decide)⟩
  case callAsRoot =>
    exact ⟨oneLine_ofList (by decide), one self, one Wrapper.root.value_onLines,
      construct .root "msg.sender" (by decide)⟩
  case callAsRootFrom =>
    exact ⟨oneLine_ofList (by decide), both, one Wrapper.root.value_onLines,
      construct .root "from" (by decide)⟩
  case toResourceId =>
    exact ⟨oneLine_ofList (by decide), one self, one id, oneLines_line.mpr wrap⟩
  case fromResourceId =>
    exact ⟨oneLine_ofList (by decide), one resource, one handle, oneLines_line.mpr unwrap⟩
  case getAddress =>
    exact ⟨oneLine_ofList (by decide), one self, one address,
      oneLines_line.mpr (oneLine_ofList (by decide))⟩
  case world =>
    exact ⟨oneLine_ofList (by decide), none, one world,
      oneLines_line.mpr (oneLine_ofList (by decide))⟩

/-! ## The sections of a file -/

def frontSections (names : Names) (options : Options) (imports : List Solidity.Import) :
    List (List Fragment) :=
  SourceUnit.headerFragments Solidity.standardHeader ::
    (if imports.isEmpty then [] else [imports.map fun i => .line i.statement]) ++
    [(Declaration.valueType names.handleType "bytes32").fragments,
      (handleConstant names options).fragments, Wrapper.world.declaration.fragments,
      Wrapper.root.declaration.fragments]

/-- The section after the library. -/
def bindings (names : Names) : List Fragment :=
  [Declaration.binding names.library names.handleType,
    .binding names.library Wrapper.world.name,
    .binding names.library Wrapper.root.name].flatMap (·.fragments)

theorem sections_sourceUnit (names : Names) (options : Options) (imports : List Solidity.Import)
    (library : Solidity.Library) :
    (sourceUnit names options imports library).sections =
      frontSections names options imports ++ [library.fragments, bindings names] := by
  simp [sourceUnit, frontSections, SourceUnit.sections, SourceUnit.add, SourceUnit.addGroup,
    SourceUnit.withImports, SourceUnit.withHeader, SourceUnit.empty, Declaration.fragments,
    bindings]

theorem headerFragments_standardHeader :
    SourceUnit.headerFragments Solidity.standardHeader =
      [.line "// SPDX-License-Identifier: MIT", .line "pragma solidity >=0.8.24;", .blank,
        .line "/* Autogenerated file. Do not edit manually. */"] := by
  have cut : Text.lines Solidity.standardHeader =
      ["// SPDX-License-Identifier: MIT", "pragma solidity >=0.8.24;", "",
        "/* Autogenerated file. Do not edit manually. */"] := by
    have whole : Solidity.standardHeader = String.ofList (_ ++ _) := String.ofList_append.symm
    rw [whole, Text.lines_ofList]
    rfl
  rw [SourceUnit.headerFragments, cut]
  rfl

theorem oneLines_importSection {options : Options} (oneLine : options.OnLines)
    {imports : List Solidity.Import} {defined : List String}
    (resolved : Calls.resolveImports (allImports options) defined = .ok imports) :
    OneLines (imports.map fun i => .line i.statement) := by
  have requests := allImports_oneLine oneLine
  refine Layout.oneLines_map_line fun i member => ?_
  obtain ⟨⟨request, asked, samePath⟩, symbols⟩ := Calls.requested_of_resolveImports resolved member
  refine Solidity.Import.oneLine_statement ?_ fun symbol listed => ?_
  · exact samePath ▸ (requests request asked).2
  · exact (requests _ (symbols symbol listed)).1

theorem oneLines_handleConstant {options : Options} (oneLine : options.OnLines) :
    OneLines (handleConstant (Names.ofOptions options) options).fragments := by
  have handleType := (setting_onLines oneLine).handleType
  have label := Text.oneLine_decapitalize oneLine.systemLabel
  refine Layout.oneLines_cons.mpr ⟨Layout.oneLines_comment.mpr ?_, oneLines_line.mpr ?_⟩
  · simp only [oneLine_append, oneLine.namespaceName, oneLine.systemName, and_true]
    exact ⟨⟨oneLine_ofList (by decide), oneLine_ofList (by decide)⟩, oneLine_ofList (by decide)⟩
  · simp only [oneLine_append]
    exact ⟨⟨⟨⟨⟨handleType, by decide⟩, label⟩, by decide⟩,
      ⟨⟨handleType, by decide⟩, oneLine.resourceId⟩, by decide⟩, by decide⟩

theorem oneLines_struct (w : Wrapper) : OneLines w.declaration.fragments := by
  cases w with
  | world => decide +kernel
  | root => decide +kernel

theorem oneLines_bindings {names : Names} (library : OneLine names.library)
    (handleType : OneLine names.handleType) : OneLines (bindings names) := by
  have binding : ∀ target, OneLine target →
      OneLines (Declaration.binding names.library target).fragments := by
    intro target known
    refine oneLines_line.mpr ?_
    simp only [oneLine_append, library, known, and_true]
    decide
  simp only [bindings, List.flatMap_cons, List.flatMap_nil, Layout.oneLines_append]
  exact ⟨binding _ handleType, binding _ Wrapper.world.oneLine_name,
    binding _ Wrapper.root.oneLine_name, Layout.oneLines_nil⟩

theorem oneLines_frontSections {options : Options} (oneLine : options.OnLines)
    {imports : List Solidity.Import} {defined : List String}
    (resolved : Calls.resolveImports (allImports options) defined = .ok imports) :
    ∀ part ∈ frontSections (Names.ofOptions options) options imports, OneLines part := by
  have header : OneLines (SourceUnit.headerFragments Solidity.standardHeader) := by
    rw [headerFragments_standardHeader]
    simp only [@Layout.oneLines_cons _ (_ :: _), oneLines_line]
    exact ⟨oneLine_ofList (by decide), oneLine_ofList (by decide), by decide,
      oneLine_ofList (by decide)⟩
  have importing : ∀ part ∈
      (if imports.isEmpty then [] else [imports.map fun i => Fragment.line i.statement]),
      OneLines part := by
    intro part member
    split at member
    next => cases member
    next =>
      rw [List.mem_singleton.mp member]
      exact oneLines_importSection oneLine resolved
  have valueType : OneLines
      (Declaration.valueType (Names.ofOptions options).handleType "bytes32").fragments := by
    have handleType : OneLine (Names.ofOptions options).handleType :=
      (setting_onLines oneLine).handleType
    refine oneLines_line.mpr ?_
    simp only [oneLine_append, handleType, and_true]
    decide
  rw [frontSections, List.cons_append, List.forall_mem_cons, List.forall_mem_append]
  refine ⟨header, importing, ?_⟩
  simp only [List.forall_mem_cons]
  exact ⟨valueType, oneLines_handleConstant oneLine, oneLines_struct .world, oneLines_struct .root,
    by simp⟩

/-! ## The library -/

theorem documentation_library (names : Names) (options : Options)
    (given : List Solidity.Function) :
    (library names options given).documentation =
      ["@title " ++ names.library,
        "@dev This library is automatically generated from the corresponding system contract. "
          ++ "Do not edit manually."] := rfl

/-- The errors are one member, each function is a member of its own. -/
theorem members_library (names : Names) (options : Options) (given : List Solidity.Function) :
    (library names options given).members =
      Solidity.errorLines (allErrors names options) ::
        (given ++ utilities names.handleType).map fun f => [f.fragment] := by
  rw [List.map_append, ← List.cons_append]
  rfl

theorem oneLines_library {options : Options} (oneLine : options.OnLines)
    {given : List Solidity.Function} (each : ∀ f ∈ given, f.OnLines) :
    OneLines (library (Names.ofOptions options) options given).fragments := by
  refine Solidity.Library.oneLines_fragments oneLine.libraryName ?_ ?_
  · rw [documentation_library]
    simp only [List.forall_mem_cons, oneLine_append]
    exact ⟨⟨by decide, oneLine.libraryName⟩,
      ⟨oneLine_ofList (by decide), oneLine_ofList (by decide)⟩, by simp⟩
  · rw [members_library, List.forall_mem_cons, List.forall_mem_map, List.forall_mem_append]
    refine ⟨?_, ?_, ?_⟩
    · exact Layout.oneLines_map_line fun e member =>
        Solidity.oneLine_errorLine (allErrors_onLines oneLine e member)
    · intro f member
      exact (each f member).fragment
    · intro f member
      exact (utilities_onLines (setting_onLines oneLine).handleType f member).fragment

/-- Options on one line each give variants on one line each. -/
theorem variants_onLines {options : Options} (oneLine : options.OnLines)
    {given : List Solidity.Function}
    (succeeded : variants (setting (Names.ofOptions options) options) options.functions Form.all =
      .ok given) :
    ∀ f ∈ given, f.OnLines := by
  rw [(variants_eq_ok.mp succeeded).2]
  intro v member
  obtain ⟨form, _, variant⟩ := List.mem_flatMap.mp member
  obtain ⟨f, listed, rfl⟩ := List.mem_map.mp variant
  exact form.variantOf_onLines (setting_onLines oneLine)
    (oneLine.functions f (List.mem_of_mem_filter listed))

end CallLibrary.Generator
