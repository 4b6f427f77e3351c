import CallLibrary.Proofs.Interface.RoundTrip
import CallLibrary.Proofs.Manifest.Decoding
import CallLibrary.Proofs.Manifest.Validation

/-!
# Writing the options of a manifest

The structures of an interface are written so that reading gives them back, whatever they were read
from. The options of a manifest hold what its functions and errors hold, so they can be written and
read again as well.
-/

namespace CallLibrary

open Document (Field Format Json.format Node Shape)
open Interface (ErrorSignature Function ImportRequest Mutability Options Parameter)
open Outcome

variable {P : Type}

structure ManifestDraft.Declared (draft : ManifestDraft) : Prop where
  functions : ∀ f ∈ draft.functions.getD [], f.Declared
  errors : ∀ e ∈ draft.errors.getD [], e.Declared

namespace Manifest

theorem declared_of_read {format : Format P} {node : Node P} {m : Manifest}
    (read : (shape format).read format node = .ok m) : m.options.Declared := by
  have keeps : ∀ field ∈ (shape format).fields, field.Keeps ManifestDraft.Declared := by
    simp only [shape, List.forall_mem_cons, List.not_mem_nil, false_imp_iff, implies_true,
      and_true]
    refine ⟨.of_put fun _ _ _ _ held => ?_, .of_put fun _ _ _ _ held => ?_,
      .of_put fun _ _ _ _ held => ?_, .of_put fun _ _ _ read held => ?_,
      .of_put fun _ _ _ read held => ?_⟩
    · exact ⟨held.functions, held.errors⟩
    · exact ⟨held.functions, held.errors⟩
    · exact ⟨held.functions, held.errors⟩
    · exact ⟨Interface.declared_of_readFunctions read, held.errors⟩
    · exact ⟨held.functions, Interface.declared_of_readErrors read⟩
  have start : (shape format).start.Declared := ⟨by simp [shape], by simp [shape]⟩
  obtain ⟨draft, held, finished⟩ := Shape.exists_draft_of_read start keeps read
  obtain ⟨system, _, made⟩ := bind_eq_ok.mp finished
  cases made
  exact ⟨held.functions, held.errors⟩

/-- The parameters of a manifest that was accepted can be read from their declarations. -/
theorem declared_of_parse {format : ManifestFormat} {source : Source} {m : Manifest}
    (parsed : parse format source = .ok m) : m.options.Declared := by
  have decoded := toOption_eq_some.mpr (parse_eq_ok.mp parsed).1
  cases format with
  | toml =>
    rw [toOption_decode_toml] at decoded
    obtain ⟨node, _, read⟩ := Option.bind_eq_some_iff.mp decoded
    exact declared_of_read (toOption_eq_some.mp read)
  | json =>
    rw [toOption_decode_json] at decoded
    obtain ⟨node, _, read⟩ := Option.bind_eq_some_iff.mp decoded
    exact declared_of_read (toOption_eq_some.mp read)

/-- Whatever JSON value a structure of an interface was read from, writing and reading it again
gives the same structure. So do the options of every accepted manifest. -/
theorem json_round_trip :
    (∀ (node : Node Unit) (p : Parameter), Interface.readParameter node = .ok p →
        Interface.readParameter p.toNode = .ok p) ∧
      (∀ (node : Node Unit) (m : Mutability), Interface.readMutability Json.format node = .ok m →
        Interface.readMutability Json.format m.toNode = .ok m) ∧
      (∀ (node : Node Unit) (f : Function),
        (Function.shape Json.format).read Json.format node = .ok f →
          (Function.shape Json.format).read Json.format f.toNode = .ok f) ∧
      (∀ (node : Node Unit) (e : ErrorSignature),
        ErrorSignature.shape.read Json.format node = .ok e →
          ErrorSignature.shape.read Json.format e.toNode = .ok e) ∧
      (∀ (node : Node Unit) (i : ImportRequest),
        ImportRequest.shape.read Json.format node = .ok i →
          ImportRequest.shape.read Json.format i.toNode = .ok i) ∧
      (∀ (node : Node Unit) (options : Options),
        (Options.shape Json.format).read Json.format node = .ok options →
          (Options.shape Json.format).read Json.format options.toNode = .ok options) ∧
      ∀ (format : ManifestFormat) (source : Source) (m : Manifest), parse format source = .ok m →
        (Options.shape Json.format).read Json.format m.options.toNode = .ok m.options := by
  refine ⟨?_, ?_, ?_, ?_, ?_, ?_, ?_⟩
  · intro node p read
    exact Interface.readParameterAt_toNode (Interface.declared_of_readParameterAt read)
  · intro _ m _
    exact Interface.readMutability_toNode m
  · intro node f read
    exact Function.read_toNode (Function.declared_of_read read)
  · intro node e read
    exact ErrorSignature.read_toNode (ErrorSignature.declared_of_read read)
  · intro _ i _
    exact ImportRequest.read_toNode i
  · intro node options read
    exact Options.read_toNode (Options.declared_of_read read)
  · intro format source m parsed
    exact Options.read_toNode (declared_of_parse parsed)

end Manifest

/-- A source with a function in array form, without a mutability, and with a tab in a declaration.
-/
def courierSource : Source where
  text := "\x7b\"system\":\x7b\"name\":\"Courier\"\x7d,"
    ++ "\"functions\":[[\"deliver\",[\"address\\tpayable  to\"],\"\"]]\x7d"
  file := "courier.json"

def courierManifest : Manifest where
  system := ⟨"Courier", none, "", none, none⟩
  paths := {}
  imports := []
  functions := [⟨"deliver", [.named "address payable" "to"], .nonpayable, []⟩]
  errors := []

theorem courier_json_round_trip :
    Manifest.parse .json courierSource = .ok courierManifest ∧
      (Options.shape Json.format).read Json.format courierManifest.options.toNode =
        .ok courierManifest.options := by
  have parses : Manifest.parse .json courierSource = .ok courierManifest := by decide +kernel
  have again := Manifest.json_round_trip.2.2.2.2.2.2
  exact ⟨parses, again .json courierSource courierManifest parses⟩

end CallLibrary
