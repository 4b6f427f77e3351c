import CallLibrary.Manifest.Load
import CallLibrary.Proofs.Generator.Renaming

/-!
# Manifests under another name

A manifest that gives the label, the library and the resource id derives nothing from the name and
the namespace of the system but the comment on the handle's constant. The comment is meant to end
with its line. Only the sizes of the two texts are validated, however, so that one of them may hold
a line feed, and then what stands behind it is code.
-/

namespace CallLibrary

open Generator (render spilled)
open Text (OneLine withoutComments)

/-- Two manifests of systems outside of the root namespace that differ in the name and the namespace
only, although these are what the label, the library and the resource id would be derived from. -/
structure Renamed (m other : Manifest) : Prop where
  same : other = { m with
    system := { m.system with
      name := other.system.name
      namespaceName := other.system.namespaceName } }
  label_given : m.system.label?.isSome = true
  library_given : m.system.library?.isSome = true
  resourceId_given : m.system.resourceId?.isSome = true
  namespace_given : m.system.namespaceName ≠ ""
  other_namespace_given : other.system.namespaceName ≠ ""

/-- Manifests that differ in the name and the namespace give options that differ in these. -/
theorem Renamed.options_eq {m other : Manifest} (change : Renamed m other) :
    other.options =
      Generator.renamed m.options other.system.name other.system.namespaceName := by
  obtain ⟨label, labelGiven⟩ := Option.isSome_iff_exists.mp change.label_given
  obtain ⟨library, libraryGiven⟩ := Option.isSome_iff_exists.mp change.library_given
  obtain ⟨id, idGiven⟩ := Option.isSome_iff_exists.mp change.resourceId_given
  have options := congrArg Manifest.options change.same
  rw [options]
  simp only [Manifest.options, Generator.renamed, SystemIdentity.label, SystemIdentity.library,
    SystemIdentity.resourceId, labelGiven, libraryGiven, idGiven, Option.getD_some]

theorem Renamed.isRoot_eq {m other : Manifest} (change : Renamed m other) :
    (Generator.renamed m.options other.system.name other.system.namespaceName).isRoot =
      m.options.isRoot := by
  have here : m.options.isRoot = false := by
    simpa [Interface.Options.isRoot, Manifest.options] using change.namespace_given
  have there : (Generator.renamed m.options other.system.name
      other.system.namespaceName).isRoot = false := by
    simpa [Interface.Options.isRoot, Generator.renamed] using change.other_namespace_given
  rw [here, there]

/-- Two such manifests fail with the same error, or both give a file. The files become equal once
their comment lines are deleted exactly if the comments on the handles add the same lines to the
code, and they add none if no name and no namespace holds a line feed. -/
theorem Manifest.names_only_in_comment (m other : Manifest) (change : Renamed m other) :
    (∃ e, render m.options = .error e ∧ render other.options = .error e) ∨
    ∃ text otherText, render m.options = .ok text ∧ render other.options = .ok otherText ∧
      (withoutComments text = withoutComments otherText ↔
        spilled m.options = spilled other.options) ∧
      (OneLine m.system.name → OneLine m.system.namespaceName → OneLine other.system.name →
        OneLine other.system.namespaceName →
          withoutComments text = withoutComments otherText) := by
  have verdict := Generator.render_renamed m.options change.isRoot_eq
  rw [← change.options_eq] at verdict
  rcases verdict with failed | ⟨text, otherText, rendered, otherRendered, same⟩
  · exact .inl failed
  · refine .inr ⟨text, otherText, rendered, otherRendered, same, ?_⟩
    intro name namespaceName otherName otherNamespace
    have none : spilled m.options = [] := Generator.spilled_of_oneLine name namespaceName
    have otherNone : spilled other.options = [] :=
      Generator.spilled_of_oneLine otherName otherNamespace
    rw [same, none, otherNone]

/-- A manifest that derives nothing from the name and the namespace. -/
def vaultManifest (name namespaceName : String) : Manifest where
  system := ⟨name, some "Vault", namespaceName, some "VaultLib",
    some "0x7379617070000000000000000000000056000000000000000000000000000000"⟩
  paths := {}
  imports := []
  functions := []
  errors := []

theorem vault_names_only_in_comment :
    Renamed (vaultManifest "V" "app") (vaultManifest "Vault2" "bank") ∧
      ∃ text otherText, render (vaultManifest "V" "app").options = .ok text ∧
        render (vaultManifest "Vault2" "bank").options = .ok otherText ∧
        withoutComments text = withoutComments otherText := by
  have change : Renamed (vaultManifest "V" "app") (vaultManifest "Vault2" "bank") :=
    ⟨rfl, rfl, rfl, rfl, by decide, by decide⟩
  have succeeds : (render (vaultManifest "V" "app").options).toBool = true := by decide +kernel
  refine ⟨change, ?_⟩
  rcases Manifest.names_only_in_comment _ _ change with failed | succeeded
  · obtain ⟨e, refused, _⟩ := failed
    rw [refused] at succeeds
    cases succeeds
  · obtain ⟨text, otherText, rendered, otherRendered, _, equal⟩ := succeeded
    have same := equal (by decide) (by decide) (by decide) (by decide)
    exact ⟨text, otherText, rendered, otherRendered, same⟩

/-- A source of such a manifest. The name is written as it stands between the quotes. -/
def vaultSource (name : String) : Source where
  text := "\x7b\"system\":\x7b\"name\":\"" ++ name ++ "\",\"label\":\"Vault\","
    ++ "\"namespace\":\"app\",\"library\":\"VaultLib\",\"resource_id\":"
    ++ "\"0x7379617070000000000000000000000056000000000000000000000000000000\"\x7d\x7d"
  file := "vault.json"

/-- A name with a line feed adds a line to the code, so that two accepted manifests that differ in
the name only give files that differ in more than comments. -/
theorem name_may_add_code :
    Manifest.parse .json (vaultSource "V") = .ok (vaultManifest "V" "app") ∧
      Manifest.parse .json (vaultSource "V\\nerror E();//") =
        .ok (vaultManifest "V\nerror E();//" "app") ∧
      Renamed (vaultManifest "V" "app") (vaultManifest "V\nerror E();//" "app") ∧
      ∃ text otherText, render (vaultManifest "V" "app").options = .ok text ∧
        render (vaultManifest "V\nerror E();//" "app").options = .ok otherText ∧
        withoutComments text ≠ withoutComments otherText := by
  have parses : Manifest.parse .json (vaultSource "V") = .ok (vaultManifest "V" "app") := by
    decide +kernel
  have otherParses : Manifest.parse .json (vaultSource "V\\nerror E();//") =
      .ok (vaultManifest "V\nerror E();//" "app") := by decide +kernel
  have change : Renamed (vaultManifest "V" "app") (vaultManifest "V\nerror E();//" "app") :=
    ⟨rfl, rfl, rfl, rfl, by decide, by decide⟩
  have succeeds : (render (vaultManifest "V" "app").options).toBool = true := by decide +kernel
  obtain ⟨text, rendered⟩ := Outcome.exists_ok_of_toBool succeeds
  have none : spilled (vaultManifest "V" "app").options = [] :=
    Generator.spilled_of_oneLine (by decide) (by decide)
  have one : spilled (vaultManifest "V\nerror E();//" "app").options =
      ["error E();//\" \x7d)".toList] := by decide +kernel
  have verdict := Generator.render_renamed (vaultManifest "V" "app").options change.isRoot_eq
  rw [← change.options_eq, rendered, none, one] at verdict
  rcases verdict with ⟨_, failed, _⟩ | ⟨_, otherText, here, otherRendered, same⟩
  · cases failed
  · cases here
    refine ⟨parses, otherParses, change, text, otherText, rendered, otherRendered, ?_⟩
    intro equal
    exact absurd (same.mp equal) (List.cons_ne_nil _ _).symm

end CallLibrary
