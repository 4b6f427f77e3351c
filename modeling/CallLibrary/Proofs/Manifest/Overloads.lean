import CallLibrary.Proofs.Generator.Declarations
import CallLibrary.Proofs.Generator.Overloads
import CallLibrary.Proofs.Manifest.NeededImports

/-!
# Functions and errors of a library

A library adds its utilities to the variants of the manifest's functions, and an error of its own to
the errors of the manifest. A manifest that keeps its own functions and errors apart gets a library
that does so too, unless it declares one of the few that the library adds.
-/

namespace CallLibrary

open Generator (MadeOf Names render)
open Interface (ErrorSignature)

/-- No label makes the handle go by the name of another type. -/
theorem handleApart (label : String) : Generator.HandleApart (label ++ "Type") := by
  have endings : ∀ type ∈ ["CallWrapper", "RootCallWrapper", "ResourceId"],
      ¬ "Type".toList <:+ type.toList := by decide
  intro listed
  exact Solidity.ne_append_of_not_suffix (endings _ listed) label rfl

/-- The functions and the errors that stand in the library of a file. -/
structure LibraryMembers (m : Manifest) (text : String) (functions : List Solidity.Function)
    (errors : List ErrorSignature) : Prop where
  /-- The library of the file consists of one block of these errors and of these functions. -/
  members : ∃ imports given, MadeOf m.options text imports given ∧
    (Generator.library (Names.ofOptions m.options) m.options given).members =
      Solidity.errorLines errors :: functions.map fun f => [f.fragment]
  /-- They are the variants of the manifest's functions, then the utilities. -/
  functions_eq : ∃ given,
    Generator.variants (Generator.setting (Names.ofOptions m.options) m.options) m.functions
      Calls.Form.all = .ok given ∧
    functions = given ++ Generator.utilities (m.system.label ++ "Type")
  errors_eq : errors = ⟨m.system.library ++ "_CallingFromRootSystem", []⟩ :: m.errors
  functions_distinct_iff : (functions.map (·.overload)).Nodup ↔
    ∀ f ∈ m.functions, (f.name, f.parameters.map (·.type)) ∉
      [("callFrom", ["address"]), ("callAsRoot", []), ("callAsRootFrom", ["address"]),
        ("toResourceId", []), ("getAddress", [])]
  errors_distinct_iff : (errors.map (·.name)).Nodup ↔
    ∀ e ∈ m.errors, e.name ≠ m.system.library ++ "_CallingFromRootSystem"

/-- If the functions of a manifest differ in name or parameter types and its errors in name, then
the same holds in its library, exactly if no function takes the place of a utility that is called on
the handle and no error that of the library's own. -/
theorem Manifest.library_members (m : Manifest) (text : String)
    (rendered : render m.options = .ok text)
    (functionsDistinct : (m.functions.map fun f => (f.name, f.parameters.map (·.type))).Nodup)
    (errorsDistinct : (m.errors.map (·.name)).Nodup) :
    ∃ functions errors, LibraryMembers m text functions errors := by
  obtain ⟨imports, given, made⟩ := Generator.render_eq_ok.mp rendered
  refine ⟨given ++ Generator.utilities (m.system.label ++ "Type"),
    Generator.allErrors (Names.ofOptions m.options) m.options, ?_⟩
  constructor
  case members => exact ⟨imports, given, made, Generator.members_library _ _ _⟩
  case functions_eq => exact ⟨given, made.variants_given, rfl⟩
  case errors_eq => rfl
  case functions_distinct_iff =>
    exact Generator.overload_library_nodup (handleApart m.system.label) functionsDistinct
      made.variants_given
  case errors_distinct_iff =>
    change ((m.system.library ++ "_CallingFromRootSystem") :: m.errors.map (·.name)).Nodup ↔ _
    rw [List.nodup_cons, and_iff_left errorsDistinct]
    constructor
    · intro free e member same
      exact free (same ▸ List.mem_map_of_mem member)
    · intro free clash
      obtain ⟨e, member, same⟩ := List.mem_map.mp clash
      exact free e member same

/-- A manifest with an overload of a utility that is called on the handle, and with errors. -/
def fundManifest : Manifest where
  system := ⟨"Fund", none, "app", none, none⟩
  paths := {}
  imports := []
  functions := [⟨"callFrom", [.named "uint256" "block"], .view, [.ofType "bool"]⟩,
    ⟨"callFrom", [.named "address" "from", .named "uint256" "block"], .nonpayable, []⟩]
  errors := [⟨"Fund_Empty", []⟩, ⟨"Fund_Closed", [.ofType "address"]⟩]

theorem fund_library_members :
    (fundManifest.functions.map fun f => (f.name, f.parameters.map (·.type))).Nodup ∧
      (fundManifest.errors.map (·.name)).Nodup ∧
      ∃ text, render fundManifest.options = .ok text ∧
        ∃ functions errors, LibraryMembers fundManifest text functions errors := by
  have functions :
      (fundManifest.functions.map fun f => (f.name, f.parameters.map (·.type))).Nodup := by decide
  have errors : (fundManifest.errors.map (·.name)).Nodup := by decide
  have succeeds : (render fundManifest.options).toBool = true := by decide +kernel
  obtain ⟨text, rendered⟩ := Outcome.exists_ok_of_toBool succeeds
  exact ⟨functions, errors, text, rendered,
    Manifest.library_members fundManifest text rendered functions errors⟩

/-- A manifest with a function and an error that the library has as well. -/
def registrySource : Source where
  text := "\x7b\"system\":\x7b\"name\":\"Registry\"\x7d,"
    ++ "\"functions\":[\x7b\"name\":\"getAddress\"\x7d],"
    ++ "\"errors\":[\x7b\"name\":\"RegistryLib_CallingFromRootSystem\"\x7d]\x7d"
  file := "registry.json"

def registryManifest : Manifest where
  system := ⟨"Registry", none, "", none, none⟩
  paths := {}
  imports := []
  functions := [⟨"getAddress", [], .nonpayable, []⟩]
  errors := [⟨"RegistryLib_CallingFromRootSystem", []⟩]

/-- A library may have two functions of the same name and parameters, and two errors of the same
name, when the manifest has none. -/
theorem library_members_may_clash :
    Manifest.parse .json registrySource = .ok registryManifest ∧
      (registryManifest.functions.map fun f => (f.name, f.parameters.map (·.type))).Nodup ∧
      (registryManifest.errors.map (·.name)).Nodup ∧
      ∃ text, render registryManifest.options = .ok text ∧
        ∃ imports given, MadeOf registryManifest.options text imports given ∧
          ¬ ((given ++ Generator.utilities "RegistryType").map (·.overload)).Nodup ∧
          ¬ ((Generator.allErrors (Names.ofOptions registryManifest.options)
            registryManifest.options).map (·.name)).Nodup := by
  have parses : Manifest.parse .json registrySource = .ok registryManifest := by decide +kernel
  have functions : (registryManifest.functions.map (·.overload)).Nodup := by decide
  have errors : (registryManifest.errors.map (·.name)).Nodup := by decide
  have succeeds : (render registryManifest.options).toBool = true := by decide +kernel
  obtain ⟨text, rendered⟩ := Outcome.exists_ok_of_toBool succeeds
  obtain ⟨imports, given, made⟩ := Generator.render_eq_ok.mp rendered
  refine ⟨parses, functions, errors, text, rendered, imports, given, made, ?_, by decide⟩
  intro distinct
  have free := (Generator.overload_library_nodup (handleApart "Registry") functions
    made.variants_given).mp distinct
  exact absurd (free _ List.mem_cons_self) (by decide)

end CallLibrary
