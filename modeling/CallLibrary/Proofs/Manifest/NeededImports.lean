import CallLibrary.Proofs.Calls.Imports
import CallLibrary.Proofs.Generator.ImportSection
import CallLibrary.Proofs.Manifest.DerivedNames

/-!
# Imports that the generated code needs

A file does not import what it declares itself, so a symbol that the code refers to loses its import
to a declaration of the same name. The names that a file declares come from the label and the
library; this module works out which of these stand in the way of a needed symbol, and shows that
all others are imported.
-/

namespace CallLibrary

open Calls (ImportedOnce)
open Generator (FileImports Names allImports render requiredImports)
open Solidity (Import IsCapital IsIdentifier)

def StartsWithCapital (name : String) : Prop := ∃ c ∈ name.toList.head?, IsCapital c

instance (name : String) : Decidable (StartsWithCapital name) :=
  decidable_of_iff ((name.toList.head?.any fun c => decide (IsCapital c)) = true) (by
    simp [StartsWithCapital, Option.any_eq_true])

/-! ## Names in lower case -/

theorem not_startsWithCapital_decapitalize {name : String} (identifier : IsIdentifier name) :
    ¬ StartsWithCapital (Text.decapitalize name) := by
  obtain ⟨first, rest, spelled, starts, _⟩ := identifier
  have small : ¬ IsCapital first.toLower :=
    starts.of_ascii (p := fun c => ¬ IsCapital c.toLower) (by decide +kernel)
  simpa [StartsWithCapital, Solidity.toList_decapitalize spelled starts] using small

/-- Lowering keeps exactly the names that do not begin with a capital. -/
theorem decapitalize_eq_self_iff {name : String} (identifier : IsIdentifier name) :
    Text.decapitalize name = name ↔ ¬ StartsWithCapital name := by
  constructor
  · intro same
    rw [← same]
    exact not_startsWithCapital_decapitalize identifier
  · intro small
    obtain ⟨first, rest, spelled, starts, _⟩ := identifier
    have keeps : ¬ IsCapital first → first.toLower = first :=
      starts.of_ascii (p := fun c => ¬ IsCapital c → c.toLower = c) (by decide +kernel)
    have other : ¬ IsCapital first := by simpa [StartsWithCapital, spelled] using small
    rw [← String.toList_inj, Solidity.toList_decapitalize spelled starts, keeps other, spelled]

/-- Besides a word that lowering keeps, only the word with a capital in front is lowered to it. -/
theorem decapitalize_eq_iff {name word : String} (identifier : IsIdentifier name)
    (same : Text.decapitalize word = word)
    (lowered : Text.decapitalize (capitalize word) = word) :
    Text.decapitalize name = word ↔ name = word ∨ name = capitalize word := by
  constructor
  · rintro rfl
    by_cases kept : Text.decapitalize name = name
    · exact .inl kept.symm
    · exact .inr (capitalize_decapitalize identifier kept).symm
  · rintro (rfl | rfl)
    · exact same
    · exact lowered

/-! ## Which needed symbols a file declares -/

def requiredSymbols : List String :=
  ["revertWithBytes", "IWorldCall", "SystemCall", "Systems", "ResourceId", "StoreSwitch"]

theorem map_symbol_requiredImports (worldPath storePath : String) :
    (requiredImports worldPath storePath).map (·.symbol) = requiredSymbols := rfl

/-- The type of a handle is none of the symbols that every library needs. -/
theorem requiredSymbols_ne_append_type {symbol : String} (required : symbol ∈ requiredSymbols)
    (label : String) : symbol ≠ label ++ "Type" := by
  have endings : ∀ symbol ∈ requiredSymbols, ¬ "Type".toList <:+ symbol.toList := by decide
  exact Solidity.ne_append_of_not_suffix (endings symbol required) label

/-- A file declares a symbol that it needs if the library goes by it, and `revertWithBytes` also if
the handle constant does. -/
theorem required_mem_defined_iff {m : Manifest} (valid : m.Valid) {symbol : String}
    (required : symbol ∈ requiredSymbols) :
    symbol ∈ (Names.ofOptions m.options).defined ↔
      symbol = m.system.library ∨
      symbol = "revertWithBytes" ∧ m.system.label ∈ ["revertWithBytes", "RevertWithBytes"] := by
  have label : IsIdentifier m.system.label := valid.label.1
  have handleType : symbol ≠ m.system.label ++ "Type" := requiredSymbols_ne_append_type required _
  have wrappers : ∀ symbol ∈ requiredSymbols, symbol ∉ ["CallWrapper", "RootCallWrapper"] := by
    decide
  have handleConstant : symbol = Text.decapitalize m.system.label ↔
      symbol = "revertWithBytes" ∧ m.system.label ∈ ["revertWithBytes", "RevertWithBytes"] := by
    by_cases small : symbol = "revertWithBytes"
    · subst small
      have raised : capitalize "revertWithBytes" = "RevertWithBytes" := by decide
      have kept : Text.decapitalize "revertWithBytes" = "revertWithBytes" := by decide
      have lowered : Text.decapitalize "RevertWithBytes" = "revertWithBytes" := by decide
      rw [eq_comm, decapitalize_eq_iff label kept (raised ▸ lowered), raised]
      simp
    · have capitals : ∀ symbol ∈ requiredSymbols,
          symbol ≠ "revertWithBytes" → StartsWithCapital symbol := by decide
      have capital := capitals symbol required small
      constructor
      · rintro rfl
        exact absurd capital (not_startsWithCapital_decapitalize label)
      · rintro ⟨equal, _⟩
        exact absurd equal small
  change symbol ∈ m.system.library :: (m.system.label ++ "Type") ::
    Text.decapitalize m.system.label :: ["CallWrapper", "RootCallWrapper"] ↔ _
  rw [List.mem_cons, List.mem_cons, List.mem_cons, handleConstant]
  simp only [handleType, wrappers symbol required, false_or, or_false]

/-- A file declares the label if the library or a wrapper goes by it, or if it does not begin with a
capital and the handle constant goes by it. -/
theorem label_mem_defined_iff {m : Manifest} (valid : m.Valid) :
    m.system.label ∈ (Names.ofOptions m.options).defined ↔
      m.system.label ∈ [m.system.library, "CallWrapper", "RootCallWrapper"] ∨
      ¬ StartsWithCapital m.system.label := by
  have label : IsIdentifier m.system.label := valid.label.1
  have handleType : m.system.label ≠ m.system.label ++ "Type" := by
    intro same
    have lengths := congrArg String.length same
    have four : "Type".length = 4 := by decide
    rw [String.length_append] at lengths
    omega
  have handleConstant : m.system.label = Text.decapitalize m.system.label ↔
      ¬ StartsWithCapital m.system.label := by
    rw [eq_comm, decapitalize_eq_self_iff label]
  change m.system.label ∈ m.system.library :: (m.system.label ++ "Type") ::
    Text.decapitalize m.system.label :: ["CallWrapper", "RootCallWrapper"] ↔ _
  rw [List.mem_cons, List.mem_cons, List.mem_cons, handleConstant]
  simp only [handleType, false_or, List.mem_cons (l := ["CallWrapper", "RootCallWrapper"])]
  rw [or_left_comm, or_comm]

/-! ## Which needed symbols a file imports -/

/-- Which of the symbols that the code refers to are imported, each once and from its path. The code
needs the required symbols, and the label that the manifest imports is its name for the system's
interface. -/
structure NeededImports (m : Manifest) (imports : List Import) : Prop where
  required : ∀ request ∈ requiredImports m.paths.world m.paths.store,
    (ImportedOnce imports request.symbol request.path ↔
      request.symbol ≠ m.system.library ∧
      (request.symbol = "revertWithBytes" →
        m.system.label ∉ ["revertWithBytes", "RevertWithBytes"]))
  label : ∀ path, ⟨m.system.label, path⟩ ∈ m.imports →
    (ImportedOnce imports m.system.label path ↔
      m.system.label ∉ [m.system.library, "CallWrapper", "RootCallWrapper"] ∧
      StartsWithCapital m.system.label)

/-- The file for an accepted manifest imports every symbol that it needs and does not declare. -/
theorem Manifest.needed_imports (format : ManifestFormat) (source : Source) (m : Manifest)
    (text : String) (parsed : parse format source = .ok m)
    (rendered : render m.options = .ok text) :
    ∃ imports, FileImports m.options text imports ∧ NeededImports m imports := by
  have valid := valid_of_parse parsed
  obtain ⟨imports, file⟩ := Generator.fileImports_of_render rendered
  refine ⟨imports, file, ?_⟩
  constructor
  case required =>
    intro request needed
    have requested : request ∈ allImports m.options := List.mem_append_right _ needed
    have symbol : request.symbol ∈ requiredSymbols := by
      rw [← map_symbol_requiredImports]
      exact List.mem_map_of_mem needed
    rw [Calls.importedOnce_iff_of_resolveImports file.resolved requested,
      required_mem_defined_iff valid symbol, not_or, not_and]
  case label =>
    intro path asked
    have requested : ⟨m.system.label, path⟩ ∈ allImports m.options :=
      List.mem_append_left _ asked
    rw [Calls.importedOnce_iff_of_resolveImports file.resolved requested,
      label_mem_defined_iff valid, not_or, not_not]

/-- A manifest that imports the interface of its system. -/
def escrowSource : Source where
  text := "\x7b\"system\":\x7b\"name\":\"Escrow\"\x7d,\"imports\":[\x7b\"symbol\":\"Escrow\","
    ++ "\"path\":\"./Escrow.sol\"\x7d],\"functions\":[\x7b\"name\":\"release\"\x7d]\x7d"
  file := "escrow.json"

def escrowManifest : Manifest where
  system := ⟨"Escrow", none, "", none, none⟩
  paths := {}
  imports := [⟨"Escrow", "./Escrow.sol"⟩]
  functions := [⟨"release", [], .nonpayable, []⟩]
  errors := []

theorem escrowSource_parses :
    Manifest.parse .json escrowSource = .ok escrowManifest := by
  decide +kernel

theorem escrow_needed_imports :
    Manifest.parse .json escrowSource = .ok escrowManifest ∧
      ∃ text, render escrowManifest.options = .ok text ∧
        ∃ imports, FileImports escrowManifest.options text imports ∧
          NeededImports escrowManifest imports := by
  have succeeds : (render escrowManifest.options).toBool = true := by decide +kernel
  obtain ⟨text, rendered⟩ := Outcome.exists_ok_of_toBool succeeds
  exact ⟨escrowSource_parses, text, rendered,
    Manifest.needed_imports .json escrowSource _ text escrowSource_parses rendered⟩

/-- A manifest with a small label that it imports, and with a needed symbol for the library. -/
def moverSource : Source where
  text := "\x7b\"system\":\x7b\"name\":\"mover\",\"library\":\"Systems\"\x7d,\"imports\":"
    ++ "[\x7b\"symbol\":\"mover\",\"path\":\"./mover.sol\"\x7d]\x7d"
  file := "mover.json"

def moverManifest : Manifest where
  system := ⟨"mover", none, "", some "Systems", none⟩
  paths := {}
  imports := [⟨"mover", "./mover.sol"⟩]
  functions := []
  errors := []

/-- Declarations of the same name make a file lose imports that its code needs. -/
theorem mover_loses_imports :
    Manifest.parse .json moverSource = .ok moverManifest ∧
      ∃ text, render moverManifest.options = .ok text ∧
        ∃ imports, FileImports moverManifest.options text imports ∧
          ¬ ImportedOnce imports "Systems"
            "@latticexyz/world/src/codegen/tables/Systems.sol" ∧
          ⟨"mover", "./mover.sol"⟩ ∈ moverManifest.imports ∧
          ¬ ImportedOnce imports "mover" "./mover.sol" := by
  have parses : Manifest.parse .json moverSource = .ok moverManifest := by decide +kernel
  have succeeds : (render moverManifest.options).toBool = true := by decide +kernel
  obtain ⟨text, rendered⟩ := Outcome.exists_ok_of_toBool succeeds
  obtain ⟨imports, file⟩ := Generator.fileImports_of_render rendered
  have lost : ∀ symbol path, ⟨symbol, path⟩ ∈ allImports moverManifest.options →
      symbol ∈ (Names.ofOptions moverManifest.options).defined →
      ¬ ImportedOnce imports symbol path := by
    intro symbol path requested declared
    rw [Calls.importedOnce_iff_of_resolveImports file.resolved requested, not_not]
    exact declared
  exact ⟨parses, text, rendered, imports, file, lost _ _ (by decide) (by decide), by decide,
    lost _ _ (by decide) (by decide)⟩

end CallLibrary
