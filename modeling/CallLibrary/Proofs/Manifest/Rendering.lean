import CallLibrary.Proofs.Generator.Verdict
import CallLibrary.Proofs.Manifest.Validation

/-!
# Accepted manifests can be rendered

Validation and generation are separate passes. Validation has to ask for everything that the
variants of a function will need, so that an accepted manifest fails in generation for one reason
only: its imports contradict each other or those that every library needs.
-/

namespace CallLibrary

open Generator (allImports render)

/-- If all inputs have names then only an ambiguous import is left as a reason. -/
theorem firstAmbiguity_of_refused {options : Interface.Options} {e : Calls.GenerationError}
    (named : ∀ f ∈ options.functions, f.InputsNamed) (refused : Generator.Refused options e) :
    Calls.FirstAmbiguity (allImports options) (Generator.Names.ofOptions options).defined e := by
  rcases refused with ambiguous | ⟨_, unnamed⟩
  · exact ambiguous
  · obtain ⟨f, member, lacks⟩ := Generator.exists_firstUnnamed.mp ⟨e, unnamed⟩
    exact absurd (named f member) lacks

/-- A manifest accepted in either format gives a file, or fails because some symbol is imported from
two paths; a missing name is never the reason. -/
theorem parsed_renders_or_is_ambiguous (format : ManifestFormat) (source : Source) (m : Manifest)
    (parsed : Manifest.parse format source = .ok m) :
    ((∃ text, render m.options = .ok text) ∨
      ∃ symbol first second,
        render m.options = .error (.ambiguousImport symbol first second) ∧
        first ≠ second ∧ ⟨symbol, first⟩ ∈ allImports m.options ∧
        ⟨symbol, second⟩ ∈ allImports m.options) ∧
    ∀ function position, render m.options ≠ .error (.unnamedParameter function position) := by
  have named : ∀ f ∈ m.options.functions, f.InputsNamed := Manifest.inputsNamed_of_parse parsed
  constructor
  · cases rendered : render m.options with
    | ok text => exact .inl ⟨text, rfl⟩
    | error e =>
      have refused := Generator.render_eq_error.mp rendered
      obtain ⟨_, request, first, second, others, _, claimed, rfl⟩ :=
        firstAmbiguity_of_refused named refused
      have distinct := Calls.claimants_nodup (allImports m.options) request.symbol
      rw [claimed] at distinct
      have different : first ≠ second := by
        intro same
        simp [same] at distinct
      have hasFirst : first ∈ Calls.claimants (allImports m.options) request.symbol := by
        simp [claimed]
      have hasSecond : second ∈ Calls.claimants (allImports m.options) request.symbol := by
        simp [claimed]
      exact .inr ⟨request.symbol, first, second, rfl, different,
        Calls.mem_claimants.mp hasFirst, Calls.mem_claimants.mp hasSecond⟩
  · intro function position rendered
    have refused := Generator.render_eq_error.mp rendered
    obtain ⟨_, _, _, _, _, _, _, impossible⟩ := firstAmbiguity_of_refused named refused
    cases impossible

/-- A manifest with an import that contradicts one that every library needs. -/
def contradictorySource : Source where
  text := "\x7b\"system\":\x7b\"name\":\"Bank\"\x7d,\"imports\":[\x7b\"symbol\":\"Systems\","
    ++ "\"path\":\"./Systems.sol\"\x7d],\"functions\":[\x7b\"name\":\"pay\",\"parameters\":"
    ++ "[\"address payable to\",\"uint256 amount\"],\"state_mutability\":\"payable\"\x7d]\x7d"
  file := "bank.json"

def contradictoryManifest : Manifest where
  system := ⟨"Bank", none, "", none, none⟩
  paths := {}
  imports := [⟨"Systems", "./Systems.sol"⟩]
  functions :=
    [⟨"pay", [.named "address payable" "to", .named "uint256" "amount"], .payable, []⟩]
  errors := []

theorem contradictorySource_parses :
    Manifest.parse .json contradictorySource = .ok contradictoryManifest := by
  decide +kernel

theorem contradictory_renders_or_is_ambiguous :
    Manifest.parse .json contradictorySource = .ok contradictoryManifest ∧
      ((∃ text, render contradictoryManifest.options = .ok text) ∨
        ∃ symbol first second,
          render contradictoryManifest.options =
            .error (.ambiguousImport symbol first second) ∧
          first ≠ second ∧ ⟨symbol, first⟩ ∈ allImports contradictoryManifest.options ∧
          ⟨symbol, second⟩ ∈ allImports contradictoryManifest.options) ∧
      ∀ function position,
        render contradictoryManifest.options ≠ .error (.unnamedParameter function position) :=
  ⟨contradictorySource_parses,
    parsed_renders_or_is_ambiguous .json contradictorySource _ contradictorySource_parses⟩

end CallLibrary
