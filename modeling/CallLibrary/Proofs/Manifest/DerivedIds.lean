import CallLibrary.Proofs.Manifest.DerivedNames
import CallLibrary.Proofs.ResourceId

/-!
# Ids derived from a manifest

A manifest without a resource id gets one that is made of its namespace and its name. Validation
makes sure that both fit into the id, so that nothing is cut off, and the id tells systems apart up
to null characters at the end of their namespaces and names.
-/

namespace CallLibrary

open ResourceId (withoutNulls)

namespace Manifest

/-- Manifests that leave the id out get the same one exactly if their namespaces and their names are
the same without the null characters at their end. If no namespace and no name ends in a null
character, then equal ids come from equal namespaces and equal names. -/
theorem derived_ids (format format' : ManifestFormat) (source source' : Source) (m m' : Manifest)
    (parsed : parse format source = .ok m) (parsed' : parse format' source' = .ok m')
    (derived : m.system.resourceId? = none) (derived' : m'.system.resourceId? = none) :
    (m.system.resourceId = m'.system.resourceId ↔
        withoutNulls m.system.namespaceName = withoutNulls m'.system.namespaceName ∧
          withoutNulls m.system.name = withoutNulls m'.system.name) ∧
      ((∀ s ∈ [m.system.namespaceName, m'.system.namespaceName, m.system.name, m'.system.name],
          s.toList.getLast? ≠ some '\x00') →
        m.system.resourceId = m'.system.resourceId →
          m.system.namespaceName = m'.system.namespaceName ∧ m.system.name = m'.system.name) := by
  have valid := valid_of_parse parsed
  have valid' := valid_of_parse parsed'
  have same : m.system.resourceId = m'.system.resourceId ↔
      withoutNulls m.system.namespaceName = withoutNulls m'.system.namespaceName ∧
        withoutNulls m.system.name = withoutNulls m'.system.name := by
    rw [SystemIdentity.resourceId, SystemIdentity.resourceId, derived, derived']
    exact ResourceId.encode_eq_encode_iff valid.namespaceName valid'.namespaceName valid.name.2
      valid'.name.2
  refine ⟨same, fun ends equal => ?_⟩
  have left := same.mp equal
  have kept (s : String) (member : s ∈ [m.system.namespaceName, m'.system.namespaceName,
      m.system.name, m'.system.name]) : withoutNulls s = s :=
    ResourceId.withoutNulls_eq_self (ends s member)
  rwa [kept _ (by simp), kept _ (by simp), kept _ (by simp), kept _ (by simp)] at left

end Manifest

/-- A source of a system with a name that is given as the inside of a JSON string. -/
def safeSource (name : String) : Source where
  text := "\x7b\"system\":\x7b\"name\":\"" ++ name ++ "\",\"label\":\"Safe\"\x7d\x7d"
  file := "safe.json"

def safeManifest (name : String) : Manifest where
  system := ⟨name, some "Safe", "", none, none⟩
  paths := {}
  imports := []
  functions := []
  errors := []

/-- Spellings of names in JSON, with the names. -/
def safeNames : List (String × String) := [("A", "A"), ("B", "B"), ("A\\u0000", "A\x00")]

theorem parse_safeSource : ∀ entry ∈ safeNames,
    Manifest.parse .json (safeSource entry.1) = .ok (safeManifest entry.2) := by
  decide +kernel

theorem safe_derived_ids :
    Manifest.parse .json (safeSource "A") = .ok (safeManifest "A") ∧
      Manifest.parse .json (safeSource "B") = .ok (safeManifest "B") ∧
      (safeManifest "A").system.resourceId ≠ (safeManifest "B").system.resourceId := by
  have parses : Manifest.parse .json (safeSource "A") = .ok (safeManifest "A") :=
    parse_safeSource ("A", "A") (by simp [safeNames])
  have parses' : Manifest.parse .json (safeSource "B") = .ok (safeManifest "B") :=
    parse_safeSource ("B", "B") (by simp [safeNames])
  have ids := Manifest.derived_ids .json .json _ _ _ _ parses parses' rfl rfl
  refine ⟨parses, parses', fun equal => ?_⟩
  have names := (ids.2 (by decide) equal).2
  exact absurd names (by decide)

/-- Two systems under different names may have the same derived id. -/
theorem derived_ids_may_clash :
    Manifest.parse .json (safeSource "A") = .ok (safeManifest "A") ∧
      Manifest.parse .json (safeSource "A\\u0000") = .ok (safeManifest "A\x00") ∧
      (safeManifest "A").system.resourceId? = none ∧
      (safeManifest "A\x00").system.resourceId? = none ∧
      (safeManifest "A").system.resourceId = (safeManifest "A\x00").system.resourceId ∧
      (safeManifest "A").system.name ≠ (safeManifest "A\x00").system.name := by
  have ids : (safeManifest "A").system.resourceId = (safeManifest "A\x00").system.resourceId :=
    (ResourceId.encode_eq_encode_iff (by decide) (by decide) (by decide) (by decide)).mpr
      ⟨rfl, by decide⟩
  exact ⟨parse_safeSource ("A", "A") (by simp [safeNames]),
    parse_safeSource ("A\\u0000", "A\x00") (by simp [safeNames]), rfl, rfl, ids, by decide⟩

end CallLibrary
