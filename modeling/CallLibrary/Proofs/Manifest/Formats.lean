import CallLibrary.Generator.Assembly
import CallLibrary.Proofs.Interface.Formats
import CallLibrary.Proofs.Manifest.Decoding
import CallLibrary.Proofs.Manifest.Spellings
import CallLibrary.Proofs.Manifest.Validation

/-!
# Manifests in both formats

A manifest can be written in TOML and in JSON. Documents of the two formats that hold the same tree
give the same manifest, or neither gives one; the manifest then passes the same checks or breaks the
same rule. Only the place of a problem is one of the text, not of the tree.
-/

namespace CallLibrary

open Document
open Outcome

variable {P Q : Type}

theorem SystemIdentity.agree_read :
    Agree Interface.Tabular (shape.read (Json.format (P := P)))
      (shape.read (Toml.format (P := Q))) := by
  have alike : (shape (P := P)).Alike (fun _ _ => True) (shape (P := Q)) :=
    { fields := .cons (.of_put fun _ _ => agree_readText) <|
        .cons (.of_put fun _ _ => agree_readText?) <| .cons (.of_put fun _ _ => agree_readText) <|
        .cons (.of_put fun _ _ => agree_readText?) <|
        .cons (.of_put fun _ _ => agree_readText?) .nil
      isClosed := rfl
      start := rfl
      finish := rfl }
  exact alike.agree_formats shape_orderly shape_orderly

theorem ImportRoots.agree_read :
    Agree Interface.Tabular (shape.read (Json.format (P := P)))
      (shape.read (Toml.format (P := Q))) := by
  have alike : (shape (P := P)).Alike (fun _ _ => True) (shape (P := Q)) :=
    { fields := .cons (.of_put fun _ _ => agree_readText) <|
        .cons (.of_put fun _ _ => agree_readText) .nil
      isClosed := rfl
      start := rfl
      finish := rfl }
  exact alike.agree_formats shape_orderly shape_orderly

namespace Manifest

/-- What may stand under a name in a manifest: nothing that is read as a structure is an array, and
nothing that is read as a mutability is a table. -/
structure MemberFits (name : String) (tree : Tree) : Prop where
  system : name = "system" → Interface.Tabular tree
  paths : name = "paths" → Interface.Tabular tree
  imports : name = "imports" → ∀ item ∈ tree.items, Interface.Tabular item
  functions : name = "functions" → ∀ item ∈ tree.items, Interface.FunctionTree item
  errors : name = "errors" → ∀ item ∈ tree.items, Interface.Tabular item

/-- A manifest is read alike from documents of both formats. -/
theorem agree_read :
    Agree (Tree.Tabular MemberFits) ((shape Json.format).read (Json.format (P := P)))
      ((shape Toml.format).read (Toml.format (P := Q))) := by
  have alike : (shape (P := P) Json.format).Alike MemberFits (shape (P := Q) Toml.format) := by
    refine ⟨.cons (.of_put ?_) <| .cons (.of_put ?_) <| .cons (.of_put ?_) <|
      .cons (.of_put ?_) <| .cons (.of_put ?_) .nil, rfl, rfl, rfl⟩
    all_goals simp only [List.forall_mem_singleton]
    · exact SystemIdentity.agree_read.mono fun _ fits => fits.system rfl
    · exact ImportRoots.agree_read.mono fun _ fits => fits.paths rfl
    · exact Interface.agree_readImports.mono fun _ fits => fits.imports rfl
    · exact Interface.agree_readFunctions.mono fun _ fits => fits.functions rfl
    · exact Interface.agree_readErrors.mono fun _ fits => fits.errors rfl
  exact alike.agree_formats (shape_orderly _) (shape_orderly _)

/-- A source is refused for a violation of the rules. -/
def Rejects (format : ManifestFormat) (source : Source) (violation : Violation) : Prop :=
  ∃ diagnostic, parse format source = .error diagnostic ∧
    diagnostic.problem = .violation violation

/-- A source is refused for a violation exactly if it can be read and its manifest has it. -/
theorem rejects_iff {format : ManifestFormat} {source : Source} {violation : Violation} :
    Rejects format source violation ↔
      ∃ m, decode format source = .ok m ∧ m.validate = .error violation := by
  constructor
  · intro ⟨⟨file, span, problem⟩, rejected, same⟩
    change problem = .violation violation at same
    subst same
    obtain ⟨m, read, violated, _⟩ := parse_eq_violation.mp rejected
    exact ⟨m, read, violated⟩
  · intro ⟨m, read, violated⟩
    exact ⟨_, parse_eq_violation.mpr ⟨m, read, violated, rfl, rfl⟩, rfl⟩

/-- A JSON source and a TOML source agree: both give the same manifest, or neither gives one. -/
structure Agreement (json toml : Source) : Prop where
  /-- Both are read as the same manifest, or neither can be read. -/
  decoded : ∀ m, decode .json json = .ok m ↔ decode .toml toml = .ok m
  /-- Both are accepted as the same manifest, or neither is accepted. -/
  accepted : ∀ m, parse .json json = .ok m ↔ parse .toml toml = .ok m
  /-- A violation, with its kind, wording and subject, is reported for both or for neither. -/
  rejected : ∀ violation, Rejects .json json violation ↔ Rejects .toml toml violation
  /-- Both give the same options, and from these the same library. -/
  rendered : ∀ m m', parse .json json = .ok m → parse .toml toml = .ok m' →
    m.options = m'.options ∧ Generator.render m.options = Generator.render m'.options

/-- Documents of both formats that hold the same tree are read alike. -/
theorem formats_agree (tree : Tree) (fits : tree.Tabular MemberFits) (node : Node Unit)
    (node' : Node Toml.Extent) (holds : node.Holds tree) (holds' : node'.Holds tree) :
    ((shape Json.format).read Json.format node).toOption =
        ((shape Toml.format).read Toml.format node').toOption ∧
      ∀ json toml : Source, Json.read? json.text = some node →
        Toml.read? toml.text.toList = some node' → Agreement json toml := by
  have same := agree_read tree fits node node' holds holds'
  refine ⟨same, fun json toml spelt spelt' => ?_⟩
  have decoded (m : Manifest) : decode .json json = .ok m ↔ decode .toml toml = .ok m := by
    rw [← toOption_eq_some, ← toOption_eq_some, toOption_decode_json, toOption_decode_toml, spelt,
      spelt', Option.bind_some, Option.bind_some, same]
  have accepted (m : Manifest) : parse .json json = .ok m ↔ parse .toml toml = .ok m := by
    rw [parse_eq_ok, parse_eq_ok, decoded]
  refine ⟨decoded, accepted, fun violation => ?_, fun m m' parsed parsed' => ?_⟩
  · simp only [rejects_iff, decoded]
  · have again := (accepted m).mp parsed
    rw [parsed', Except.ok.injEq] at again
    subst again
    exact ⟨rfl, rfl⟩

end Manifest

/-- A tree with a function that has an unknown member. -/
def lockerTree : Tree :=
  .table
    [("functions", .array
        [.table
          [("gas", .float false ⟨5629499534213120, -51⟩), ("name", .text "open"),
            ("parameters", .array [.text "uint256 number"]), ("state_mutability", .text "view")]]),
      ("system", .table [("name", .text "Locker")])]

def lockerJson : Source where
  text := "\x7b\"functions\":[\x7b\"gas\":2.5,\"name\":\"open\","
    ++ "\"parameters\":[\"uint256 number\"],\"state_mutability\":\"view\"\x7d],"
    ++ "\"system\":\x7b\"name\":\"Locker\"\x7d\x7d"
  file := "locker.json"

def lockerToml : Source where
  text := "system.name = \"Locker\"\n[[functions]]\nname = \"open\"\nstate_mutability = \"view\"\n"
    ++ "parameters = [\"uint256 number\"]\ngas = 2.5\n"
  file := "locker.toml"

def lockerManifest : Manifest where
  system := ⟨"Locker", none, "", none, none⟩
  paths := {}
  imports := []
  functions := [⟨"open", [.named "uint256" "number"], .view, []⟩]
  errors := []

theorem locker_formats_agree :
    lockerTree.Tabular Manifest.MemberFits ∧
      (∃ node, Json.read? lockerJson.text = some node ∧ node.Holds lockerTree) ∧
      (∃ node, Toml.read? lockerToml.text.toList = some node ∧ node.Holds lockerTree) ∧
      Manifest.parse .json lockerJson = .ok lockerManifest ∧
      Manifest.parse .toml lockerToml = .ok lockerManifest := by
  have fits : lockerTree.Tabular Manifest.MemberFits := by
    refine ⟨rfl, List.forall_mem_cons.mpr ⟨⟨nofun, nofun, nofun, fun _ => ?_, nofun⟩,
      List.forall_mem_singleton.mpr
        ⟨fun _ => ⟨rfl, fun _ _ => trivial⟩, nofun, nofun, nofun, nofun⟩⟩⟩
    exact List.forall_mem_singleton.mpr ⟨rfl, by simp [Tree.members, Tree.isTable]⟩
  have spelt : (Json.read? lockerJson.text).any (·.spells lockerTree) = true := by
    decide +kernel
  have spelt' : (Toml.read? lockerToml.text.toList).any (·.spells lockerTree) = true := by
    decide +kernel
  obtain ⟨node, read, same⟩ := Option.any_eq_true _ _ |>.mp spelt
  obtain ⟨node', read', same'⟩ := Option.any_eq_true _ _ |>.mp spelt'
  have holds := Node.holds_of_spells same
  have holds' := Node.holds_of_spells same'
  have agree := Manifest.formats_agree lockerTree fits node node' holds holds'
  have agreement := agree.2 lockerJson lockerToml read read'
  have parses : Manifest.parse .json lockerJson = .ok lockerManifest := by decide +kernel
  exact ⟨fits, ⟨node, read, holds⟩, ⟨node', read', holds'⟩, parses,
    (agreement.accepted lockerManifest).mp parses⟩

end CallLibrary
