import CallLibrary.Proofs.Command.Requests
import CallLibrary.Proofs.Generator.Contents
import CallLibrary.Proofs.Generator.Declarations

/-!
# The report of a check and the generated library

A check goes through the same steps as the generation of a library, so the one succeeds exactly if
the other does. Its report does not look at the library, though: it computes from the options what
the library holds. Here the report is written out line by line over the variants that the library is
made of, and these are the lines that are printed.
-/

namespace CallLibrary.Command

open CallLibrary.Outcome
open Calls (Form Setting)
open Generator (Names VariantsOf)
open Interface (ErrorSignature Function Options)
open Solidity (Declaration Import)

/-! ## The lines of a report -/

/-- The line for a function, given its root variant if there is one. -/
def functionRow (function : Function) (root? : Option Solidity.Function) : String :=
  "    " ++ function.name ++ " (" ++ function.mutability.keyword ++ ") [direct, forwarded"
    ++ (if root?.isSome then ", root" else "") ++ "]"

def errorRow (error : ErrorSignature) : String := "    " ++ error.name

/-- The line with the number of the rows that follow it. -/
def countRow (rows : List String) (thing : String) : String :=
  "  " ++ toString rows.length ++ " " ++ thing ++ (if rows.length = 1 then "" else "s") ++ ":"

theorem countRow_eq (rows : List String) (thing : String) :
    countRow rows thing = "  " ++ counted rows.length thing ++ ":" := by
  unfold countRow counted
  simp only [String.append_assoc]

/-- A report with the given resource id and rows. -/
def reportWith (manifest : String) (options : Options) (id : String)
    (functionRows errorRows : List String) : String :=
  let namespaceText :=
    if options.namespaceName = "" then "root namespace"
    else "namespace '" ++ options.namespaceName ++ "'"
  let errorSection :=
    if errorRows = [] then [] else "" :: countRow errorRows "error" :: errorRows
  String.join (([
    "✓ " ++ manifest ++ " is valid",
    "",
    "  " ++ options.libraryName ++ " (" ++ namespaceText ++ ")",
    "  resource id " ++ id,
    "",
    countRow functionRows "function"] ++ functionRows ++ errorSection).map (· ++ "\n"))

/-- A function has the root form in its line if it has a root variant. -/
theorem functionLine_eq {s : Setting} {function : Function} {root? : Option Solidity.Function}
    (given : Form.root.variant? s function = .ok root?) :
    functionLine s.isRoot function = functionRow function root? := by
  have has : Calls.hasRootForm s.isRoot function.mutability = root?.isSome := by
    simp only [Form.variant?] at given
    split at given
    next root =>
      obtain ⟨body, _, made⟩ := bind_eq_ok.mp given
      cases made
      exact root
    next noRoot =>
      cases given
      simpa using noRoot
  have forms : ∀ isRoot : Bool, ") [" ++ (String.intercalate ", "
      (["direct", "forwarded"] ++ if isRoot then ["root"] else []) ++ "]") =
        ") [direct, forwarded" ++ ((if isRoot then ", root" else "") ++ "]") := by
    decide
  unfold functionLine functionRow formNames
  simp only [has, String.append_assoc, forms]

theorem map_functionLine {s : Setting} {functions : List Function}
    {root : List (Option Solidity.Function)}
    (given : List.Forall₂ (fun f r => Form.root.variant? s f = .ok r) functions root) :
    functions.map (functionLine s.isRoot) = List.zipWith functionRow functions root := by
  induction given with
  | nil => rfl
  | cons first _ ih => rw [List.map_cons, List.zipWith_cons_cons, functionLine_eq first, ih]

theorem errorLines_eq (errors : List ErrorSignature) :
    errorLines errors =
      if errors.map errorRow = [] then []
      else "" :: countRow (errors.map errorRow) "error" :: errors.map errorRow := by
  unfold errorLines
  rw [countRow_eq, List.length_map]
  cases errors with
  | nil => rfl
  | cons first rest => rfl

/-- The lines that are printed are these. -/
theorem report_eq {names : Names} {options : Options} {root : List (Option Solidity.Function)}
    (given : List.Forall₂
      (fun f r => Form.root.variant? (Generator.setting names options) f = .ok r)
      options.functions root) (manifest : String) :
    report manifest options = reportWith manifest options options.resourceId
      (List.zipWith functionRow options.functions root) (options.errors.map errorRow) := by
  have rows : options.functions.map (functionLine options.isRoot) =
      List.zipWith functionRow options.functions root :=
    map_functionLine (s := Generator.setting names options) given
  have count : countRow (List.zipWith functionRow options.functions root) "function" =
      "  " ++ counted options.functions.length "function" ++ ":" := by
    rw [countRow_eq, ← rows, List.length_map]
  have root : (if options.isRoot then "root namespace"
      else "namespace '" ++ options.namespaceName ++ "'") =
      if options.namespaceName = "" then "root namespace"
      else "namespace '" ++ options.namespaceName ++ "'" := by
    simp only [Options.isRoot, String.isEmpty_iff]
  unfold report reportLines reportWith
  rw [rows, count, errorLines_eq]
  dsimp only
  rw [root]

/-! ## The variants behind the lines -/

/-- What the three forms give for each function. -/
structure FunctionVariants (s : Setting) (functions : List Function)
    (direct forwarded : List Solidity.Function) (root : List (Option Solidity.Function)) :
    Prop where
  direct_given : VariantsOf .direct s functions direct
  forwarded_given : VariantsOf .forwarded s functions forwarded
  root_given : List.Forall₂ (fun f r => Form.root.variant? s f = .ok r) functions root

/-- The root variants with a gap for each function that has none. -/
theorem exists_rootVariants {s : Setting} {functions : List Function}
    {variants : List Solidity.Function}
    (given : VariantsOf .root s (functions.filter (Form.root.applies s)) variants) :
    ∃ root, List.Forall₂ (fun f r => Form.root.variant? s f = .ok r) functions root ∧
      root.filterMap id = variants := by
  induction functions generalizing variants with
  | nil =>
    cases given
    exact ⟨[], .nil, rfl⟩
  | cons function rest ih =>
    by_cases applies : Form.root.applies s function = true
    · rw [List.filter_cons_of_pos applies] at given
      cases given with
      | cons first later =>
        obtain ⟨root, each, kept⟩ := ih later
        exact ⟨some _ :: root, .cons first each, congrArg (_ :: ·) kept⟩
    · rw [List.filter_cons_of_neg applies] at given
      obtain ⟨root, each, kept⟩ := ih given
      have absent : Form.root.variant? s function = .ok none := if_neg applies
      exact ⟨none :: root, .cons absent each, kept⟩

/-- Function by function the root form gives a variant or none; the library holds those that it
gives. -/
theorem exists_functionVariants {s : Setting} {functions : List Function}
    {given : List Solidity.Function}
    (succeeded : Generator.variants s functions Form.all = .ok given) :
    ∃ direct forwarded root, FunctionVariants s functions direct forwarded root ∧
      given = direct ++ forwarded ++ root.filterMap id := by
  obtain ⟨direct, forwarded, variants, isDirect, isForwarded, isRoot, rfl⟩ :=
    Generator.variants_by_form succeeded
  obtain ⟨root, each, rfl⟩ := exists_rootVariants isRoot
  exact ⟨direct, forwarded, root, ⟨isDirect, isForwarded, each⟩, rfl⟩

def libraryWith (options : Options) (direct forwarded : List Solidity.Function)
    (root : List (Option Solidity.Function)) : Solidity.Library :=
  Generator.library (Names.ofOptions options) options (direct ++ forwarded ++ root.filterMap id)

/-- A report and a library tell the same about a system. -/
structure Agrees (manifest : String) (options : Options) (report text : String)
    (imports : List Import) (direct forwarded : List Solidity.Function)
    (root : List (Option Solidity.Function)) (resourceId : String) : Prop where
  variants : FunctionVariants (Generator.setting (Names.ofOptions options) options)
    options.functions direct forwarded root
  reported : report = reportWith manifest options resourceId
    (List.zipWith functionRow options.functions root) (options.errors.map errorRow)
  declared : Generator.Declares text (Generator.declarations (Names.ofOptions options) options
    imports (libraryWith options direct forwarded root))
  members : (libraryWith options direct forwarded root).members =
    Solidity.errorLines (Generator.allErrors (Names.ofOptions options) options) ::
      (direct ++ forwarded ++ root.filterMap id
        ++ Generator.utilities (Names.ofOptions options).handleType).map fun f => [f.fragment]
  /-- The only constant is the handle, and it wraps the resource id that is reported. -/
  constants : ∀ type name value comment,
    Declaration.constant type name value comment ∈ Generator.declarations (Names.ofOptions options)
        options imports (libraryWith options direct forwarded root) ↔
      type = (Names.ofOptions options).handleType ∧
      name = (Names.ofOptions options).handleConstant ∧
      value = (Names.ofOptions options).handleType ++ ".wrap(" ++ resourceId ++ ")" ∧
      comment = some ("equivalent to WorldResourceIdLib.encode(\x7b typeId: RESOURCE_SYSTEM, "
        ++ "namespace: \"" ++ options.namespaceName ++ "\", name: \"" ++ options.systemName
        ++ "\" \x7d)")

/-- The report on options agrees with the library that they give. -/
theorem agrees_of_render {manifest : String} {options : Options} {text : String}
    (rendered : Generator.render options = .ok text) :
    ∃ imports direct forwarded root,
      Agrees manifest options (report manifest options) text imports direct forwarded root
        options.resourceId := by
  obtain ⟨imports, given, made⟩ := Generator.render_eq_ok.mp rendered
  obtain ⟨direct, forwarded, root, variants, rfl⟩ := exists_functionVariants made.variants_given
  exact ⟨imports, direct, forwarded, root, {
    variants := variants
    reported := report_eq variants.root_given manifest
    declared := made.declares
    members := Generator.members_library _ _ _
    constants := by
      intro type name value comment
      simp [Generator.declarations, Generator.handleConstant, Calls.Wrapper.declaration] }⟩

/-- Both commands end alike: they succeed exactly if the same generation does. -/
theorem run_check_generate (w : Workspace) (manifest : String) (texts : Texts) :
    (∃ status, status ≠ 0 ∧ run w ["check", "-m", manifest] texts = ⟨status, "", w⟩ ∧
      run w ["generate", "-m", manifest] texts = ⟨status, "", w⟩) ∨
    ∃ options text, generate manifest (w.read manifest) = .ok (options, text) ∧
      run w ["check", "-m", manifest] texts = ⟨0, report manifest options, w⟩ ∧
      run w ["generate", "-m", manifest] texts = ⟨0, text, w⟩ := by
  unfold run
  rcases ofArguments_short manifest with ⟨e, generates, checks⟩ | ⟨generates, checks⟩
  · rw [generates, checks]
    exact .inl ⟨usageStatus, by decide, rfl, rfl⟩
  · rw [generates, checks]
    cases generated : generate manifest (w.read manifest) with
    | error e =>
      simp only [Request.reply, generated]
      exact .inl ⟨failureStatus, by decide, rfl, rfl⟩
    | ok result =>
      obtain ⟨options, text⟩ := result
      obtain ⟨printed, checked⟩ := reply_of_generate generated texts
      simp only [printed, checked]
      exact .inr ⟨options, text, rfl, rfl, rfl⟩

/-- A check succeeds exactly if the library can be generated, and then its report tells of every
function, of the forms that the library gives it in, of every error and of the resource id what the
library holds. -/
theorem check_agrees (w : Workspace) (manifest : String) (texts : Texts) :
    ((run w ["check", "-m", manifest] texts).status = 0 ↔
      (run w ["generate", "-m", manifest] texts).status = 0) ∧
    ((run w ["check", "-m", manifest] texts).status = 0 → ∃ m imports direct forwarded root,
      Manifest.ofFile manifest (w.read manifest) = .ok m ∧
      Agrees manifest m.options (run w ["check", "-m", manifest] texts).output
        (run w ["generate", "-m", manifest] texts).output imports direct forwarded root
        m.system.resourceId) := by
  rcases run_check_generate w manifest texts with
    ⟨status, failed, checks, generates⟩ | ⟨options, text, generated, checks, generates⟩
  · rw [checks, generates]
    exact ⟨Iff.rfl, fun succeeded => absurd succeeded failed⟩
  · rw [checks, generates]
    obtain ⟨m, loaded, rfl, rendered⟩ := generate_eq_ok.mp generated
    obtain ⟨imports, direct, forwarded, root, agrees⟩ := agrees_of_render rendered
    exact ⟨Iff.rfl, fun _ => ⟨m, imports, direct, forwarded, root, loaded, agrees⟩⟩

/-- A workspace with the manifest of a system in the root namespace. -/
def ferryWorkspace : Workspace :=
  Workspace.empty.add "ferry.toml" (.file (ResourceId.utf8 ("[system]\nname = \"Ferry\"\n"
    ++ "\n[[functions]]\nname = \"board\"\nstate_mutability = \"payable\"\n"
    ++ "\n[[functions]]\nname = \"leave\"\n\n[[errors]]\nname = \"Full\"\n")))

/-- In the root namespace a payable function has no root variant. -/
theorem run_ferry_check :
    run ferryWorkspace ["check", "-m", "ferry.toml"] =
      ⟨0, "✓ ferry.toml is valid\n\n  FerryLib (root namespace)\n  resource id "
        ++ "0x7379000000000000000000000000000046657272790000000000000000000000\n\n"
        ++ "  2 functions:\n    board (payable) [direct, forwarded]\n"
        ++ "    leave (nonpayable) [direct, forwarded, root]\n\n  1 error:\n    Full\n",
        ferryWorkspace⟩ := by
  decide +kernel

theorem ferry_check_agrees :
    (run ferryWorkspace ["check", "-m", "ferry.toml"]).status = 0 ∧
      ∃ m imports direct forwarded root,
        Manifest.ofFile "ferry.toml" (ferryWorkspace.read "ferry.toml") = .ok m ∧
        Agrees "ferry.toml" m.options (run ferryWorkspace ["check", "-m", "ferry.toml"]).output
          (run ferryWorkspace ["generate", "-m", "ferry.toml"]).output imports direct forwarded
          root m.system.resourceId := by
  have succeeded : (run ferryWorkspace ["check", "-m", "ferry.toml"]).status = 0 := by
    rw [run_ferry_check]
  exact ⟨succeeded, (check_agrees ferryWorkspace "ferry.toml" .firstLines).2 succeeded⟩

end CallLibrary.Command
