import CallLibrary.Generator.Names
import CallLibrary.Proofs.Manifest.Rules

/-!
# Names derived from a manifest

Validation looks at the label and the library, while a file declares names made from these: the
label with an ending, the library with an ending, and the label with its first letter lowered. All
of them are identifiers. The endings keep them apart from the words of the language, but lowering a
letter does not: it turns `Address` into `address`, and this happens exactly to labels that are a
reserved word with a capital in front.
-/

namespace CallLibrary

open Generator (Names)
open Solidity (IsCapital IsIdentifier StartsName nameDefect? reservedWords)

def capitalize (word : String) : String :=
  match word.toList with
  | [] => ""
  | first :: rest => String.ofList (first.toUpper :: rest)

namespace Manifest

/-- What validation guarantees for the label and the library. -/
theorem valid_of_parse {format : ManifestFormat} {source : Source} {m : Manifest}
    (parsed : parse format source = .ok m) : m.Valid :=
  valid_iff.mpr (m.reports_validate.passes.mp (parse_eq_ok.mp parsed).2)

end Manifest

/-- Lowering undoes what raising the first letter of a reserved word does. -/
theorem decapitalize_capitalize {word : String} (reserved : word ∈ reservedWords) :
    Text.decapitalize (capitalize word) = word := by
  obtain ⟨first, rest, spelled, starts, _⟩ := Solidity.isIdentifier_of_reserved reserved
  have small := Solidity.small_of_reserved reserved first (by simp [spelled])
  have back : 'a' ≤ first ∧ first ≤ 'z' →
      StartsName first.toUpper ∧ first.toUpper.toLower = first :=
    starts.of_ascii (p := fun c => 'a' ≤ c ∧ c ≤ 'z' →
      StartsName c.toUpper ∧ c.toUpper.toLower = c) (by decide +kernel)
  have raised : (capitalize word).toList = first.toUpper :: rest := by
    simp [capitalize, spelled]
  rw [← String.toList_inj, Solidity.toList_decapitalize raised (back small).1, (back small).2,
    spelled]

/-- A name that becomes another one when its first letter is lowered is got back by raising it. -/
theorem capitalize_decapitalize {name : String} (identifier : IsIdentifier name)
    (lowered : Text.decapitalize name ≠ name) : capitalize (Text.decapitalize name) = name := by
  obtain ⟨first, rest, spelled, starts, _⟩ := identifier
  have letters := Solidity.toList_decapitalize spelled starts
  have changed : first.toLower ≠ first := by
    intro same
    apply lowered
    rw [← String.toList_inj, letters, spelled, same]
  have back : first.toLower ≠ first → first.toLower.toUpper = first :=
    starts.of_ascii (p := fun c => c.toLower ≠ c → c.toLower.toUpper = c) (by decide +kernel)
  rw [capitalize, letters, ← String.toList_inj, spelled]
  simp [back changed]

/-- All names that a file declares for an accepted manifest are identifiers. None of them is a
reserved word, except for the handle constant of a label that is a reserved word with a capital in
front. -/
theorem Manifest.derived_names (format : ManifestFormat) (source : Source) (m : Manifest)
    (parsed : parse format source = .ok m) :
    let names := Names.ofOptions m.options
    (∀ name ∈ [names.library, names.handleType, names.handleConstant, names.guardError],
      nameDefect? name = none) ∧
    (∀ name ∈ [names.library, names.handleType, names.guardError], name ∉ reservedWords) ∧
    (names.handleConstant ∈ reservedWords ↔ m.system.label ∈ reservedWords.map capitalize) := by
  obtain ⟨labelSpelled, labelFree⟩ := (valid_of_parse parsed).label
  obtain ⟨librarySpelled, libraryFree⟩ := (valid_of_parse parsed).library
  intro names
  refine ⟨?_, ?_, ?_⟩
  · simp only [Solidity.nameDefect?_eq_none, List.forall_mem_cons]
    exact ⟨librarySpelled, labelSpelled.append (by decide), labelSpelled.decapitalize,
      librarySpelled.append (by decide), by simp⟩
  · simp only [List.forall_mem_cons]
    exact ⟨libraryFree, Solidity.append_not_reserved ⟨'T', by decide⟩ _,
      Solidity.append_not_reserved ⟨'_', by decide⟩ _, by simp⟩
  · constructor
    · intro reserved
      have lowered : Text.decapitalize m.system.label ≠ m.system.label := by
        intro same
        have constant : names.handleConstant = m.system.label := same
        rw [constant] at reserved
        exact labelFree reserved
      exact List.mem_map.mpr ⟨_, reserved, capitalize_decapitalize labelSpelled lowered⟩
    · intro raised
      obtain ⟨word, reserved, same⟩ := List.mem_map.mp raised
      have constant : names.handleConstant = word := by
        rw [← decapitalize_capitalize reserved, same]
        rfl
      rw [constant]
      exact reserved

/-- A manifest with a name that is reserved but for its capital. -/
def addressSource : Source where
  text := "\x7b\"system\":\x7b\"name\":\"Address\"\x7d\x7d"
  file := "address.json"

def addressManifest : Manifest where
  system := ⟨"Address", none, "", none, none⟩
  paths := {}
  imports := []
  functions := []
  errors := []

theorem addressSource_parses :
    Manifest.parse .json addressSource = .ok addressManifest := by
  decide +kernel

theorem address_derived_names :
    Manifest.parse .json addressSource = .ok addressManifest ∧
    let names := Names.ofOptions addressManifest.options
    (∀ name ∈ [names.library, names.handleType, names.handleConstant, names.guardError],
      nameDefect? name = none) ∧
    (∀ name ∈ [names.library, names.handleType, names.guardError], name ∉ reservedWords) ∧
    (names.handleConstant ∈ reservedWords ↔
      addressManifest.system.label ∈ reservedWords.map capitalize) :=
  ⟨addressSource_parses, Manifest.derived_names .json addressSource _ addressSource_parses⟩

/-- An accepted manifest may have a reserved word for its handle constant. -/
theorem handleConstant_may_be_reserved :
    Manifest.parse .json addressSource = .ok addressManifest ∧
      (Names.ofOptions addressManifest.options).handleConstant = "address" ∧
      "address" ∈ reservedWords :=
  ⟨addressSource_parses, by decide, by decide⟩

end CallLibrary
