import CallLibrary.Proofs.Calls.Imports
import CallLibrary.Proofs.Generator.Declarations
import CallLibrary.Proofs.Manifest.NeededImports

/-!
# Names at file level

The imports of a file get along with each other and with what the file declares: ambiguous symbols
are refused, and symbols that the file declares are not imported. Among its own declarations nothing
keeps the names apart but their shape. The shape is enough for all of them except the library, whose
name a manifest may choose freely.
-/

namespace CallLibrary

open Generator (MadeOf Names declarations render)
open Solidity (IsIdentifier)

theorem length_decapitalize {name : String} (identifier : IsIdentifier name) :
    (Text.decapitalize name).length = name.length := by
  obtain ⟨first, rest, spelled, starts, _⟩ := identifier
  rw [← String.length_toList, ← String.length_toList,
    Solidity.toList_decapitalize spelled starts, spelled, List.length_cons, List.length_cons]

/-- Lowering never gives a name with something added behind. -/
theorem decapitalize_ne_append {name ending : String} (identifier : IsIdentifier name)
    (more : ending ≠ "") : Text.decapitalize name ≠ name ++ ending := by
  intro same
  have lengths := congrArg String.length same
  have some : ending.length ≠ 0 := by
    intro none
    exact more (String.length_eq_zero_iff.mp none)
  rw [length_decapitalize identifier, String.length_append] at lengths
  omega

/-! ## What the file declares -/

/-- The names that a file declares besides that of the library. -/
def companionNames (label : String) : List String :=
  [label ++ "Type", Text.decapitalize label, "CallWrapper", "RootCallWrapper"]

/-- They differ from each other by their first letters, their endings and their lengths. -/
theorem companionNames_nodup {label : String} (identifier : IsIdentifier label) :
    (companionNames label).Nodup := by
  have small := not_startsWithCapital_decapitalize identifier
  have longer : Text.decapitalize label ≠ label ++ "Type" :=
    decapitalize_ne_append identifier (by decide)
  have wrappers : ∀ wrapper ∈ ["CallWrapper", "RootCallWrapper"],
      ¬ "Type".toList <:+ wrapper.toList ∧ StartsWithCapital wrapper := by decide
  have handleType : ∀ wrapper ∈ ["CallWrapper", "RootCallWrapper"], label ++ "Type" ≠ wrapper :=
    fun wrapper listed => (Solidity.ne_append_of_not_suffix (wrappers wrapper listed).1 label).symm
  have handleConstant : ∀ wrapper ∈ ["CallWrapper", "RootCallWrapper"],
      Text.decapitalize label ≠ wrapper := by
    intro wrapper listed same
    rw [same] at small
    exact small (wrappers wrapper listed).2
  simp only [List.forall_mem_cons] at handleType handleConstant
  simp only [companionNames, List.nodup_cons, List.mem_cons, List.not_mem_nil, or_false, not_or]
  exact ⟨⟨longer.symm, handleType.1, handleType.2.1⟩,
    ⟨handleConstant.1, handleConstant.2.1⟩, by decide, not_false, List.nodup_nil⟩

/-- A library that goes by the standard name is told apart by the ending of that name. -/
theorem standard_library_not_mem_companionNames {label : String}
    (identifier : IsIdentifier label) : label ++ "Lib" ∉ companionNames label := by
  have handleType : label ++ "Lib" ≠ label ++ "Type" := by
    intro same
    have lengths := congrArg String.length same
    have three : "Lib".length = 3 := by decide
    have four : "Type".length = 4 := by decide
    rw [String.length_append, String.length_append] at lengths
    omega
  have handleConstant : Text.decapitalize label ≠ label ++ "Lib" :=
    decapitalize_ne_append identifier (by decide)
  have world : "CallWrapper" ≠ label ++ "Lib" :=
    Solidity.ne_append_of_not_suffix (by decide) label
  have root : "RootCallWrapper" ≠ label ++ "Lib" :=
    Solidity.ne_append_of_not_suffix (by decide) label
  simp only [companionNames, List.mem_cons, List.not_mem_nil, or_false, not_or]
  exact ⟨handleType, handleConstant.symm, world.symm, root.symm⟩

/-! ## The names of a file -/

/-- The names at file level: the symbols that a file imports and the names that it declares. -/
structure FileNames (m : Manifest) (text : String) (imported declared : List String) : Prop where
  /-- The file is the header and a list of declarations, and these introduce the names. -/
  introduced : ∃ parts, Generator.Declares text parts ∧
    (∃ imports given, MadeOf m.options text imports given ∧
      parts = declarations (Names.ofOptions m.options) m.options imports
        (Generator.library (Names.ofOptions m.options) m.options given)) ∧
    parts.flatMap (·.introduced) = imported ++ declared
  declared_eq : declared = [m.system.label ++ "Type", Text.decapitalize m.system.label,
    "CallWrapper", "RootCallWrapper", m.system.library]
  imported_distinct : imported.Nodup
  imported_apart : ∀ name ∈ imported, name ∉ declared
  distinct_iff : (imported ++ declared).Nodup ↔
    m.system.library ∉ [m.system.label ++ "Type", Text.decapitalize m.system.label,
      "CallWrapper", "RootCallWrapper"]
  distinct_of_standard : m.system.library? = none → (imported ++ declared).Nodup

/-- The names at file level are pairwise distinct exactly if the library does not go by another of
the declared names. Imports never clash with anything. -/
theorem Manifest.file_names (format : ManifestFormat) (source : Source) (m : Manifest)
    (text : String) (parsed : parse format source = .ok m)
    (rendered : render m.options = .ok text) :
    ∃ imported declared, FileNames m text imported declared := by
  have label : IsIdentifier m.system.label := (valid_of_parse parsed).label.1
  obtain ⟨imports, given, made⟩ := Generator.render_eq_ok.mp rendered
  have distinct := Calls.nodup_symbols_of_resolveImports made.resolved
  have apart : ∀ name ∈ imports.flatMap (·.symbols),
      name ∉ companionNames m.system.label ++ [m.system.library] := by
    intro name imported listed
    apply Calls.not_mem_defined_of_resolveImports made.resolved imported
    rcases List.mem_append.mp listed with companion | library
    · exact List.mem_cons_of_mem _ companion
    · rw [List.mem_singleton.mp library]
      exact List.mem_cons_self
  have whole : (imports.flatMap (·.symbols) ++
      (companionNames m.system.label ++ [m.system.library])).Nodup ↔
      m.system.library ∉ companionNames m.system.label := by
    have companions := companionNames_nodup label
    rw [List.nodup_append', List.nodup_append']
    constructor
    · intro all
      exact List.disjoint_singleton.mp all.2.1.2.2
    · intro library
      have declared := List.disjoint_singleton.mpr library
      exact ⟨distinct, ⟨companions, List.nodup_singleton _, declared⟩, apart⟩
  refine ⟨imports.flatMap (·.symbols), companionNames m.system.label ++ [m.system.library], ?_⟩
  constructor
  case introduced =>
    exact ⟨_, made.declares, ⟨imports, given, made, rfl⟩,
      Generator.introduced_declarations _ _ _ _⟩
  case declared_eq => rfl
  case imported_distinct => exact distinct
  case imported_apart => exact apart
  case distinct_iff => exact whole
  case distinct_of_standard =>
    intro standard
    have library : m.system.library = m.system.label ++ "Lib" := by
      rw [SystemIdentity.library, standard]
      rfl
    rw [whole, library]
    exact standard_library_not_mem_companionNames label

/-- A manifest with a library of its own name, which it also asks to import. -/
def tollSource : Source where
  text := "\x7b\"system\":\x7b\"name\":\"Toll\",\"library\":\"TollGate\"\x7d,\"imports\":"
    ++ "[\x7b\"symbol\":\"Toll\",\"path\":\"./Toll.sol\"\x7d,"
    ++ "\x7b\"symbol\":\"TollGate\",\"path\":\"./TollGate.sol\"\x7d]\x7d"
  file := "toll.json"

def tollManifest : Manifest where
  system := ⟨"Toll", none, "", some "TollGate", none⟩
  paths := {}
  imports := [⟨"Toll", "./Toll.sol"⟩, ⟨"TollGate", "./TollGate.sol"⟩]
  functions := []
  errors := []

theorem tollSource_parses : Manifest.parse .json tollSource = .ok tollManifest := by
  decide +kernel

theorem toll_file_names :
    Manifest.parse .json tollSource = .ok tollManifest ∧
      ∃ text, render tollManifest.options = .ok text ∧
        ∃ imported declared, FileNames tollManifest text imported declared := by
  have succeeds : (render tollManifest.options).toBool = true := by decide +kernel
  obtain ⟨text, rendered⟩ := Outcome.exists_ok_of_toBool succeeds
  exact ⟨tollSource_parses, text, rendered,
    Manifest.file_names .json tollSource _ text tollSource_parses rendered⟩

/-- A manifest whose library goes by the name of a wrapper. -/
def wrapperSource : Source where
  text := "\x7b\"system\":\x7b\"name\":\"Vault\",\"library\":\"CallWrapper\"\x7d\x7d"
  file := "vault.json"

def wrapperManifest : Manifest where
  system := ⟨"Vault", none, "", some "CallWrapper", none⟩
  paths := {}
  imports := []
  functions := []
  errors := []

/-- A file may declare a struct and its library under one name. -/
theorem file_names_may_clash :
    Manifest.parse .json wrapperSource = .ok wrapperManifest ∧
      ∃ text, render wrapperManifest.options = .ok text ∧
        ∃ imports given, MadeOf wrapperManifest.options text imports given ∧
          let parts := declarations (Names.ofOptions wrapperManifest.options)
            wrapperManifest.options imports
            (Generator.library (Names.ofOptions wrapperManifest.options) wrapperManifest.options
              given)
          Generator.Declares text parts ∧ ¬ (parts.flatMap (·.introduced)).Nodup := by
  have parses : Manifest.parse .json wrapperSource = .ok wrapperManifest := by decide +kernel
  have succeeds : (render wrapperManifest.options).toBool = true := by decide +kernel
  obtain ⟨text, rendered⟩ := Outcome.exists_ok_of_toBool succeeds
  obtain ⟨imports, given, made⟩ := Generator.render_eq_ok.mp rendered
  refine ⟨parses, text, rendered, imports, given, made, made.declares, ?_⟩
  rw [Generator.introduced_declarations]
  intro distinct
  have declared := (List.nodup_append.mp distinct).2.1
  have library : (Generator.library (Names.ofOptions wrapperManifest.options)
      wrapperManifest.options given).name = "CallWrapper" := rfl
  rw [library] at declared
  exact absurd declared (by decide)

end CallLibrary
