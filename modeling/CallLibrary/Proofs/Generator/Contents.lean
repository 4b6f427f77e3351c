import Mathlib.Data.List.Forall2
import CallLibrary.Proofs.Generator.OneLines

/-!
# What stands in a library

The lines between the header of a library and its closing brace are those of its errors, variants
and utilities, each written as it would be alone and indented by one level, with one empty line
between any two parts. Nothing else of the file looks like the header, so that reading the file line
by line finds exactly this part.
-/

namespace CallLibrary.Generator

open Calls (Form Setting Wrapper)
open Interface (Function Mutability Options)
open Layout (Fragment OneLines Row indentLine)
open Solidity (Declaration)
open Outcome
open Text (withoutReturn)

def headerLine (name : String) : String := "library " ++ name ++ " \x7b"

theorem shown_headerLine (name : String) :
    (Row.text 0 (headerLine name)).shown = headerLine name :=
  Row.shown_text_append (by decide) (by decide)

/-! ## The members of a library -/

theorem shown_errorLine (e : Interface.ErrorSignature) :
    (Row.text 0 (Solidity.errorLine e)).shown = Solidity.errorLine e :=
  Row.shown_text_append (by decide) (by decide)

theorem map_shown_errorLines (errors : List Interface.ErrorSignature) :
    (Fragment.rowsAll 0 (Solidity.errorLines errors)).map Row.shown =
      errors.map Solidity.errorLine := by
  rw [Solidity.errorLines, Fragment.rowsAll_map_line, List.map_map]
  exact List.map_congr_left fun e _ => shown_errorLine e

theorem visible_errorLines (errors : List Interface.ErrorSignature) :
    ∀ row ∈ Fragment.rowsAll 0 (Solidity.errorLines errors), row = .blank ∨ row.shown ≠ "" := by
  intro row member
  rw [Solidity.errorLines, Fragment.rowsAll_map_line] at member
  obtain ⟨e, _, rfl⟩ := List.mem_map.mp member
  rw [shown_errorLine]
  exact .inr (by simp [Solidity.errorLine])

/-- A function shows something on each of its lines: the body is indented, and its frame is not
empty. -/
theorem visible_function (f : Solidity.Function) :
    ∀ row ∈ Fragment.rowsAll 0 [f.fragment], row = .blank ∨ row.shown ≠ "" := by
  have signature : (Row.text 0 f.signature).shown = f.signature :=
    Row.shown_text_append (by decide) (by decide)
  intro row member
  simp only [Fragment.rowsAll, Solidity.Function.fragment, Fragment.rows, Fragment.rowsAll_succ,
    List.append_nil, List.cons_append, List.mem_cons, List.mem_append, List.mem_map] at member
  rcases member with rfl | ⟨inner, _, rfl⟩ | ⟨close, brace, rfl⟩
  · right
    rw [signature]
    unfold Solidity.Function.signature
    simp
  · exact Row.visible_deeper inner
  · cases List.mem_singleton.mp brace
    exact .inr (by decide)

/-- The lines of the members of a library, each member by itself. -/
def memberLines (names : Names) (options : Options) (given : List Solidity.Function) :
    List (List String) :=
  (allErrors names options).map Solidity.errorLine ::
    (given ++ utilities names.handleType).map fun f => Text.lines f.source

/-- The members stand in a library as they stand alone, indented and with empty lines between. -/
theorem map_shown_members (names : Names) (options : Options) {given : List Solidity.Function}
    (oneLines : ∀ f ∈ given ++ utilities names.handleType, f.OnLines) :
    (Fragment.rowsAll 1 (List.intercalate [.blank] (library names options given).members)).map
        Row.shown =
      (List.intercalate [""] (memberLines names options given)).map indentLine := by
  -- Indenting rows and indenting lines agree as long as no row but a blank one is empty.
  have visible : ∀ row ∈
      Fragment.rowsAll 0 (List.intercalate [.blank] (library names options given).members),
      row = .blank ∨ row.shown ≠ "" := by
    intro row member
    rw [Fragment.rowsAll_intercalate] at member
    rcases Layout.mem_of_mem_intercalate member with blank | ⟨rows, listed, inside⟩
    · exact .inl (List.mem_singleton.mp blank)
    · obtain ⟨part, isMember, rfl⟩ := List.mem_map.mp listed
      rw [members_library, List.mem_cons, List.mem_map] at isMember
      rcases isMember with rfl | ⟨f, _, rfl⟩
      · exact visible_errorLines _ row inside
      · exact visible_function f row inside
  have each : (library names options given).members.map
      (fun part => (Fragment.rowsAll 0 part).map Row.shown) = memberLines names options given := by
    rw [members_library, List.map_cons, List.map_map, map_shown_errorLines, memberLines]
    refine congrArg _ (List.map_congr_left fun f member => ?_)
    exact (Layout.lines_render (oneLines f member).fragment).symm
  rw [Layout.map_shown_rowsAll_one visible, Fragment.rowsAll_intercalate,
    Layout.map_shown_intercalate, List.map_map, ← each]
  rfl

/-! ## The lines in front of a library -/

/-- A line that opens no library: it begins with another letter or ends a statement. -/
def OpensNothing (line : String) : Prop :=
  line.toList.head? ≠ some 'l' ∨ ∃ statement, line = statement ++ ";"

theorem opensNothing_ofList {c : Char} {rest : List Char} (other : c ≠ 'l') :
    OpensNothing (String.ofList (c :: rest)) :=
  .inl (by simpa using other)

theorem opensNothing_ofList_append {c : Char} {rest : List Char} (other : c ≠ 'l') (more : String) :
    OpensNothing (String.ofList (c :: rest) ++ more) :=
  .inl (by simpa using other)

/-- A line that opens no library is not read back as the header of one. -/
theorem ne_headerLine {line : String} (nothing : OpensNothing line) (name : String) :
    withoutReturn line ≠ headerLine name := by
  intro same
  -- A carriage return can only be missing at the end, where the header has its brace.
  rcases nothing with other | ⟨statement, rfl⟩
  · have front := Text.dropReturn_isPrefix line.toList
    have spelled := congrArg String.toList same
    rw [withoutReturn, String.toList_ofList] at spelled
    rw [spelled] at front
    obtain ⟨rest, whole⟩ := front
    refine other ?_
    rw [← whole]
    simp [headerLine]
  · rw [Text.withoutReturn_append_self (by decide) (by decide)] at same
    have last := congrArg (fun s => s.toList.getLast?) same
    simp only [headerLine, String.toList_append, List.getLast?_append] at last
    simp at last

theorem opensNothing_frontSections (names : Names) (options : Options)
    (imports : List Solidity.Import) :
    ∀ part ∈ frontSections names options imports, ∀ row ∈ Fragment.rowsAll 0 part,
      OpensNothing (row.line .standard) := by
  have header : ∀ row ∈
      Fragment.rowsAll 0 (Solidity.SourceUnit.headerFragments Solidity.standardHeader),
      OpensNothing (row.line .standard) := by
    rw [headerFragments_standardHeader]
    intro row member
    simp only [Fragment.rowsAll, Fragment.rows, List.cons_append, List.nil_append, List.mem_cons,
      List.not_mem_nil, or_false] at member
    rcases member with rfl | rfl | rfl | rfl
    · rw [Row.line_text_zero]
      exact opensNothing_ofList (by decide)
    · rw [Row.line_text_zero]
      exact opensNothing_ofList (by decide)
    · exact .inl (by simp [Row.line])
    · rw [Row.line_text_zero]
      exact opensNothing_ofList (by decide)
  have importing : ∀ part ∈
      (if imports.isEmpty then [] else [imports.map fun i => Fragment.line i.statement]),
      ∀ row ∈ Fragment.rowsAll 0 part, OpensNothing (row.line .standard) := by
    intro part listed row member
    split at listed
    next => cases listed
    next =>
      rw [List.mem_singleton.mp listed, Fragment.rowsAll_map_line] at member
      obtain ⟨i, _, rfl⟩ := List.mem_map.mp member
      left
      rw [Row.line_text_zero]
      unfold Solidity.Import.statement
      simp
  have handle : ∀ row ∈ Fragment.rowsAll 0 (handleConstant names options).fragments,
      OpensNothing (row.line .standard) := by
    intro row member
    simp only [handleConstant, Declaration.fragments, List.singleton_append, Fragment.rowsAll,
      Fragment.rows, List.append_nil, List.mem_cons, List.not_mem_nil, or_false] at member
    rcases member with rfl | rfl
    · rw [Row.line_text_zero]
      exact opensNothing_ofList_append (by decide) _
    · exact .inr ⟨_, Row.line_text_zero _ _⟩
  have struct : ∀ w : Wrapper, ∀ row ∈ Fragment.rowsAll 0 w.declaration.fragments,
      OpensNothing (row.line .standard) := by
    intro w row member
    simp only [Wrapper.declaration, Declaration.fragments, List.map_cons, List.map_nil,
      Fragment.rowsAll, Fragment.rows, List.append_nil, List.cons_append, List.nil_append,
      List.mem_cons, Option.toList_some, List.not_mem_nil, or_false] at member
    rcases member with rfl | rfl | rfl | rfl
    · exact .inl (by simp)
    · exact .inr ⟨_, String.append_assoc.symm⟩
    · exact .inr ⟨_, String.append_assoc.symm⟩
    · exact .inl (by simp)
  rw [frontSections, List.cons_append, List.forall_mem_cons, List.forall_mem_append]
  refine ⟨header, importing, ?_⟩
  simp only [List.forall_mem_cons]
  refine ⟨?_, handle, struct .world, struct .root, by simp⟩
  intro row member
  rw [List.mem_singleton.mp member]
  exact .inl (by simp)

def commentRows (names : Names) (options : Options) (given : List Solidity.Function) : List Row :=
  (Fragment.documentation (library names options given).documentation).rows 0

theorem opensNothing_commentRows (names : Names) (options : Options)
    (given : List Solidity.Function) :
    ∀ row ∈ commentRows names options given, OpensNothing (row.line .standard) := by
  intro row member
  simp only [commentRows, documentation_library, Fragment.rows, List.map_cons, List.map_nil,
    List.cons_append, List.nil_append, List.mem_cons, List.not_mem_nil, or_false] at member
  rcases member with rfl | rfl | rfl | rfl
  · rw [Row.line_text_zero]
    exact opensNothing_ofList (by decide)
  · rw [Row.line_text_zero]
    exact opensNothing_ofList_append (by decide) _
  · rw [Row.line_text_zero]
    exact opensNothing_ofList_append (by decide) _
  · rw [Row.line_text_zero]
    exact opensNothing_ofList (by decide)

/-! ## The whole file -/

/-- The rows of a library: its comment, its header, its members one level deeper and its closing
brace. -/
theorem rowsAll_library (names : Names) (options : Options) (given : List Solidity.Function) :
    Fragment.rowsAll 0 (library names options given).fragments =
      commentRows names options given ++ .text 0 (headerLine names.library) ::
        (Fragment.rowsAll 1 (List.intercalate [.blank] (library names options given).members) ++
          [.text 0 "\x7d"]) := by
  have parts : (library names options given).fragments =
      [.documentation (library names options given).documentation,
        .block (headerLine names.library)
          (List.intercalate [.blank] (library names options given).members) (some "\x7d")] := rfl
  rw [parts, Fragment.rowsAll, Fragment.rowsAll, Fragment.rowsAll, List.append_nil]
  rfl

/-- The rows of a file: the sections in front, the library, and the bindings. -/
theorem rowsAll_file (names : Names) (options : Options) (imports : List Solidity.Import)
    (given : List Solidity.Function) :
    Fragment.rowsAll 0 (List.intercalate [.blank]
        (sourceUnit names options imports (library names options given)).sections) =
      (List.intercalate [.blank] ((frontSections names options imports).map (Fragment.rowsAll 0)) ++
          [.blank] ++ commentRows names options given) ++
        .text 0 (headerLine names.library) ::
          Fragment.rowsAll 1 (List.intercalate [.blank] (library names options given).members) ++
        .text 0 "\x7d" :: .blank :: Fragment.rowsAll 0 (bindings names) := by
  rw [sections_sourceUnit, Fragment.rowsAll_intercalate, List.map_append,
    Layout.intercalate_append (by simp [frontSections]) (by simp)]
  simp only [List.map_cons, List.map_nil, List.intercalate_cons_cons, List.intercalate_singleton,
    rowsAll_library, List.append_assoc, List.cons_append, List.nil_append]

/-- A line with indentation is no closing brace. -/
theorem indentLine_ne_brace (line : String) : indentLine line ≠ "\x7d" := by
  unfold indentLine
  split
  · decide
  · intro same
    have first := congrArg (fun s => s.toList.head?) same
    simp at first

/-- The lines of a file fall into those before the header of its library, the lines of its members,
and those after its brace. -/
theorem lines_file {options : Options} (oneLine : options.OnLines)
    {imports : List Solidity.Import} {defined : List String}
    (resolved : Calls.resolveImports (allImports options) defined = .ok imports)
    {given : List Solidity.Function} (each : ∀ f ∈ given, f.OnLines) :
    let names := Names.ofOptions options
    ∃ before after,
      Text.lines (sourceUnit names options imports (library names options given)).render =
        before ++ headerLine options.libraryName ::
          (List.intercalate [""] (memberLines names options given)).map indentLine ++
          "\x7d" :: after ∧
      headerLine options.libraryName ∉ before := by
  intro names
  have members : ∀ f ∈ given ++ utilities names.handleType, f.OnLines :=
    List.forall_mem_append.mpr ⟨each, utilities_onLines (setting_onLines oneLine).handleType⟩
  have sections :
      ∀ part ∈ (sourceUnit names options imports (library names options given)).sections,
        OneLines part := by
    rw [sections_sourceUnit, List.forall_mem_append, List.forall_mem_cons,
      List.forall_mem_singleton]
    exact ⟨oneLines_frontSections oneLine resolved, oneLines_library oneLine each,
      oneLines_bindings oneLine.libraryName (setting_onLines oneLine).handleType⟩
  have cut := Layout.lines_render (Layout.oneLines_intercalate sections)
  have brace : (Row.text 0 "\x7d").shown = "\x7d" := by decide
  rw [rowsAll_file, List.map_append, List.map_append, List.map_cons, List.map_cons,
    map_shown_members names options members, shown_headerLine, brace] at cut
  refine ⟨_, _, cut, fun opened => ?_⟩
  obtain ⟨row, member, same⟩ := List.mem_map.mp opened
  -- The lines in front come from the sections, the blank lines between them and the comment.
  have nothing : OpensNothing (row.line .standard) := by
    rw [List.mem_append, List.mem_append] at member
    rcases member with (front | blank) | comment
    · rcases Layout.mem_of_mem_intercalate front with blank | ⟨rows, listed, inside⟩
      · rw [List.mem_singleton.mp blank]
        exact .inl (by simp [Row.line])
      · obtain ⟨part, isPart, rfl⟩ := List.mem_map.mp listed
        exact opensNothing_frontSections names options imports part isPart row inside
    · rw [List.mem_singleton.mp blank]
      exact .inl (by simp [Row.line])
    · exact opensNothing_commentRows names options given row comment
  exact ne_headerLine nothing options.libraryName same

/-! ## The variants in a file -/

/-- What a form gives for functions: one variant for each of them, in the same order. -/
def VariantsOf (form : Form) (setting : Setting) (functions : List Function)
    (given : List Solidity.Function) : Prop :=
  List.Forall₂ (fun f v => form.variant? setting f = .ok (some v)) functions given

theorem variantsOf_variantOf (form : Form) (setting : Setting) {functions : List Function}
    (named : ∀ f ∈ functions, f.InputsNamed) :
    VariantsOf form setting (functions.filter (form.applies setting))
      ((functions.filter (form.applies setting)).map (form.variantOf setting)) := by
  rw [VariantsOf, List.forall₂_map_right_iff, List.forall₂_same]
  intro f member
  obtain ⟨listed, applies⟩ := List.mem_filter.mp member
  rw [Form.variant?_of_inputsNamed (named f listed), if_pos applies]

/-- The variants of a library are those of the three forms one after the other. -/
theorem variants_by_form {setting : Setting} {functions : List Function}
    {given : List Solidity.Function} (succeeded : variants setting functions Form.all = .ok given) :
    ∃ direct forwarded root,
      VariantsOf .direct setting functions direct ∧
      VariantsOf .forwarded setting functions forwarded ∧
      VariantsOf .root setting (functions.filter (Form.root.applies setting)) root ∧
      given = direct ++ forwarded ++ root := by
  obtain ⟨named, listed⟩ := variants_eq_ok.mp succeeded
  have always : functions.filter (Form.direct.applies setting) = functions :=
    List.filter_eq_self.mpr fun _ _ => rfl
  have also : functions.filter (Form.forwarded.applies setting) = functions :=
    List.filter_eq_self.mpr fun _ _ => rfl
  refine ⟨functions.map (Form.direct.variantOf setting),
    functions.map (Form.forwarded.variantOf setting), _, ?_, ?_,
    variantsOf_variantOf .root setting named, ?_⟩
  · simpa only [always] using variantsOf_variantOf .direct setting named
  · simpa only [also] using variantsOf_variantOf .forwarded setting named
  · simp only [listed, Form.all, List.flatMap_cons, List.flatMap_nil, always, also, List.append_nil,
      List.append_assoc]

/-- A function has a root variant outside the root namespace, and in it if it is nonpayable. -/
theorem root_applies_eq (names : Names) (options : Options) :
    Form.root.applies (setting names options) =
      fun f => decide (options.namespaceName ≠ "" ∨ f.mutability = .nonpayable) := by
  funext f
  rw [Bool.eq_iff_iff, decide_eq_true_eq]
  simp [Form.applies, Calls.hasRootForm, setting, Options.isRoot]

theorem errorLine_guard (libraryName : String) :
    Solidity.errorLine ⟨libraryName ++ "_CallingFromRootSystem", []⟩ =
      "error " ++ libraryName ++ "_CallingFromRootSystem();" := by
  have ending :
      "_CallingFromRootSystem" ++ ("(" ++ ("" ++ ");")) = "_CallingFromRootSystem();" := by
    decide
  have none : Solidity.parameterList [] = "" := rfl
  simp only [Solidity.errorLine, none, String.append_assoc, ending]

/-- A file cut into the lines before its library, the lines between the header and the closing brace
of the library, and the lines after that. -/
structure Contents (options : Options) (source : String)
    (direct forwarded root : List Solidity.Function) (before body after : List String) : Prop where
  direct_given :
    VariantsOf .direct (setting (Names.ofOptions options) options) options.functions direct
  forwarded_given :
    VariantsOf .forwarded (setting (Names.ofOptions options) options) options.functions forwarded
  /-- In the root namespace only nonpayable functions have a root variant. -/
  root_given :
    VariantsOf .root (setting (Names.ofOptions options) options)
      (options.functions.filter fun f => options.namespaceName ≠ "" ∨ f.mutability = .nonpayable)
      root
  cut : Text.lines source =
    before ++ ("library " ++ options.libraryName ++ " \x7b") :: body ++ "\x7d" :: after
  first_header : "library " ++ options.libraryName ++ " \x7b" ∉ before
  first_brace : "\x7d" ∉ body
  /-- All errors are one block; each variant and each utility is written as it would be alone. -/
  body_eq : body = (List.intercalate [""]
    ((("error " ++ options.libraryName ++ "_CallingFromRootSystem();") ::
        options.errors.map Solidity.errorLine) ::
      (direct ++ forwarded ++ root ++ utilities (options.systemLabel ++ "Type")).map fun f =>
        Text.lines f.source)).map indentLine
  utilities_given : (utilities (options.systemLabel ++ "Type")).map (·.name) =
    ["callFrom", "callAsRoot", "callAsRootFrom", "toResourceId", "fromResourceId", "getAddress",
      "_world"]

/-- Between its header and its closing brace a library holds the errors, the direct, forwarded and
root variants and the utilities, indented by one level and with one empty line between any two. -/
theorem library_contents (options : Options) (source : String)
    (oneLine : ∀ text ∈ options.strings, '\n' ∉ text.toList)
    (rendered : render options = .ok source) :
    ∃ direct forwarded root before body after,
      Contents options source direct forwarded root before body after := by
  have onLines := Options.onLines_of_strings oneLine
  obtain ⟨imports, resolved, rest⟩ := bind_eq_ok.mp rendered
  obtain ⟨given, succeeded, made⟩ := bind_eq_ok.mp rest
  cases made
  have each := variants_onLines onLines succeeded
  obtain ⟨direct, forwarded, root, isDirect, isForwarded, isRoot, rfl⟩ :=
    variants_by_form succeeded
  obtain ⟨before, after, cut, first⟩ := lines_file onLines resolved each
  rw [root_applies_eq] at isRoot
  let members := memberLines (Names.ofOptions options) options (direct ++ forwarded ++ root)
  refine ⟨direct, forwarded, root, before, (List.intercalate [""] members).map indentLine, after,
    ?_⟩
  constructor
  case direct_given => exact isDirect
  case forwarded_given => exact isForwarded
  case root_given => exact isRoot
  case cut => exact cut
  case first_header => exact first
  case first_brace =>
    intro brace
    obtain ⟨line, _, same⟩ := List.mem_map.mp brace
    exact indentLine_ne_brace line same
  case body_eq =>
    rw [← errorLine_guard]
    rfl
  case utilities_given => rfl

/-- A system of the root namespace with a function of each kind and an error. -/
def vaultOptions : Options where
  libraryName := "VaultLib"
  systemLabel := "Vault"
  systemName := "Vault"
  namespaceName := ""
  resourceId := "0x73790000000000000000000000000000005661756c7400000000000000000000"
  functions := [⟨"deposit", [.named "uint256" "amount"], .payable, []⟩,
    ⟨"close", [], .nonpayable, [.ofType "bool"]⟩]
  errors := [⟨"Vault_Closed", [.ofType "address"]⟩]
  imports := [⟨"IVault", "./IVault.sol"⟩]
  worldPath := "@latticexyz/world/src"
  storePath := "@latticexyz/store/src"

theorem vault_contents :
    (∀ text ∈ vaultOptions.strings, '\n' ∉ text.toList) ∧
      ∃ source, render vaultOptions = .ok source ∧
        ∃ direct forwarded root before body after,
          Contents vaultOptions source direct forwarded root before body after := by
  have oneLine : ∀ text ∈ vaultOptions.strings, '\n' ∉ text.toList := by decide +kernel
  have succeeds : (render vaultOptions).toBool = true := by decide +kernel
  cases rendered : render vaultOptions with
  | error e => simp [rendered, Except.toBool] at succeeds
  | ok source => exact ⟨oneLine, source, rfl, library_contents vaultOptions source oneLine rendered⟩

end CallLibrary.Generator
