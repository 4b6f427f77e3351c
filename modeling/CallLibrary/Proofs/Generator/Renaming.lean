import CallLibrary.Proofs.Generator.Declarations
import CallLibrary.Proofs.Generator.Verdict
import CallLibrary.Proofs.Layout.Sections
import CallLibrary.Proofs.Text.Comments

/-!
# Systems under another name

The name of a system and its namespace are written in one place of a file only, the comment on the
handle's constant. The file of a system that goes by other names differs in this comment and in
nothing else, unless one of the two systems is in the root namespace.
-/

namespace CallLibrary.Generator

open Interface (Options)
open Layout (Fragment Row)
open Outcome
open Solidity (Declaration Import Library SourceUnit standardHeader)
open Text (OneLine codeLines isCommentLine withoutComments)

def renamed (options : Options) (systemName namespaceName : String) : Options :=
  { options with systemName, namespaceName }

/-- The comment on the handle's constant. -/
def idComment (options : Options) : String :=
  "equivalent to WorldResourceIdLib.encode(\x7b typeId: RESOURCE_SYSTEM, namespace: \""
    ++ options.namespaceName ++ "\", name: \"" ++ options.systemName ++ "\" \x7d)"

/-- The lines that the comment adds to the code. Its first line is a comment, but behind a line feed
in the name or the namespace stands what may be none. -/
def spilled (options : Options) : List (List Char) := codeLines ("// " ++ idComment options)

/-- A name and a namespace on one line each add nothing to the code. -/
theorem spilled_of_oneLine {options : Options} (name : OneLine options.systemName)
    (namespaceName : OneLine options.namespaceName) : spilled options = [] := by
  have oneLine : OneLine ("// " ++ idComment options) := by
    delta idComment
    simp only [Text.oneLine_append, name, namespaceName, and_true]
    exact ⟨by decide, ⟨Text.oneLine_ofList (by decide), Text.oneLine_ofList (by decide)⟩,
      Text.oneLine_ofList (by decide)⟩
  have comment : isCommentLine ("// " ++ idComment options).toList = true := by
    rw [String.toList_append]
    rfl
  rw [spilled, Text.codeLines_of_oneLine oneLine, if_pos comment]

/-! ## Around the comment -/

/-- The fragments of a file before and after the comment are the same under all names. -/
theorem exists_around_comment (names : Names) (options : Options) (imports : List Import)
    (library : Library) :
    ∃ front back : List Fragment, ∀ systemName namespaceName,
      List.intercalate [.blank]
          (sourceUnit names (renamed options systemName namespaceName) imports library).sections =
        front ++ [.blank] ++
          .comment (idComment (renamed options systemName namespaceName)) :: back := by
  let importing := if imports.isEmpty then [] else [imports.map fun i => Fragment.line i.statement]
  let before := SourceUnit.headerFragments standardHeader ::
    importing ++ [(Declaration.valueType names.handleType "bytes32").fragments]
  let after := [Calls.Wrapper.world.declaration.fragments, Calls.Wrapper.root.declaration.fragments,
    library.fragments, bindings names]
  let constant := names.handleType ++ " constant " ++ names.handleConstant ++ " = "
    ++ (names.handleType ++ ".wrap(" ++ options.resourceId ++ ")") ++ ";"
  refine ⟨List.intercalate [.blank] before,
    .line constant :: [.blank] ++ List.intercalate [.blank] after, ?_⟩
  intro systemName namespaceName
  -- Only the section of the constant is different, and in it only the comment.
  have parts : (sourceUnit names (renamed options systemName namespaceName) imports
      library).sections = before ++
        [.comment (idComment (renamed options systemName namespaceName)), .line constant] ::
          after := by
    rw [sections_sourceUnit, frontSections]
    simp only [before, importing, after, List.cons_append, List.append_assoc, List.nil_append]
    rfl
  have some : before ≠ [] := List.cons_ne_nil _ _
  have more : after ≠ [] := List.cons_ne_nil _ _
  rw [parts, Layout.intercalate_append some (List.cons_ne_nil _ _),
    List.intercalate_cons_of_ne_nil more]
  simp only [List.append_assoc, List.cons_append, List.nil_append]

/-- Something is left of written rows: at least the empty line behind them. -/
theorem codeLines_written_ne_nil (rows : List Row) :
    codeLines (Row.written .standard rows) ≠ [] := by
  cases rows using List.reverseRec with
  | nil => decide
  | append_singleton front last =>
    rw [Row.written_append, Row.written_singleton, ← String.append_assoc]
    exact Text.codeLines_newline_ne_nil _

/-- Without its comments a file shows the lines that the comment on the handle adds to the code, and
these are between lines that are the same under all names. -/
theorem exists_codeLines (names : Names) (options : Options) (imports : List Import)
    (library : Library) :
    ∃ front back : List (List Char), back ≠ [] ∧ ∀ systemName namespaceName,
      codeLines (sourceUnit names (renamed options systemName namespaceName) imports
          library).render =
        front ++ spilled (renamed options systemName namespaceName) ++ back := by
  obtain ⟨front, back, around⟩ := exists_around_comment names options imports library
  let before := Row.written .standard (Fragment.rowsAll 0 front)
  let after := Row.written .standard (Fragment.rowsAll 0 back)
  refine ⟨codeLines before, codeLines after, codeLines_written_ne_nil _, ?_⟩
  intro systemName namespaceName
  let comment := "// " ++ idComment (renamed options systemName namespaceName)
  have blank : Row.written .standard (Fragment.rowsAll 0 [.blank]) = "\n" := by decide
  have text : (sourceUnit names (renamed options systemName namespaceName) imports
      library).render = before ++ "\n" ++ (comment ++ "\n" ++ after) := by
    change Layout.render (List.intercalate [.blank] _) = _
    rw [Layout.render_eq_written, around, Fragment.rowsAll_append, Fragment.rowsAll_append,
      Row.written_append, Row.written_append, blank, Fragment.rowsAll, Fragment.rows,
      List.singleton_append, Row.written_cons, Row.line_text_zero]
  rw [text, Text.codeLines_append_newline, Text.codeLines_append_newline, spilled,
    List.append_assoc]

/-! ## Two files -/

/-- A change of the name and the namespace changes no verdict, and without its comments it changes a
file exactly if it changes what the comment on the handle adds to the code. -/
theorem render_renamed (options : Options) {systemName namespaceName : String}
    (root : (renamed options systemName namespaceName).isRoot = options.isRoot) :
    (∃ e, render options = .error e ∧
      render (renamed options systemName namespaceName) = .error e) ∨
    ∃ text other, render options = .ok text ∧
      render (renamed options systemName namespaceName) = .ok other ∧
      (withoutComments text = withoutComments other ↔
        spilled options = spilled (renamed options systemName namespaceName)) := by
  cases rendered : render options with
  | error e =>
    have refused : Refused (renamed options systemName namespaceName) e :=
      (render_eq_error.mp rendered :)
    exact .inl ⟨e, rfl, render_eq_error.mpr refused⟩
  | ok text =>
    obtain ⟨imports, given, made⟩ := render_eq_ok.mp rendered
    let names := Names.ofOptions options
    let holding := library names options given
    -- The namespace decides on the root variants, but only by whether it is empty.
    have settings : setting names (renamed options systemName namespaceName) =
        setting names options := by
      unfold setting
      rw [root]
      rfl
    have variantsGiven : variants (setting names (renamed options systemName namespaceName))
        options.functions Calls.Form.all = .ok given := by
      rw [settings]
      exact made.variants_given
    have other : render (renamed options systemName namespaceName) =
        .ok (sourceUnit names (renamed options systemName namespaceName) imports holding).render :=
      render_eq_ok.mpr ⟨imports, given, made.resolved, variantsGiven, rfl⟩
    obtain ⟨front, back, nonempty, lines⟩ := exists_codeLines names options imports holding
    have here : codeLines text = front ++ spilled options ++ back := by
      rw [made.text_eq]
      exact lines options.systemName options.namespaceName
    have there := lines systemName namespaceName
    refine .inr ⟨text, _, rfl, other, ?_⟩
    rw [Text.withoutComments_eq_iff, here, there, List.append_left_inj, List.append_right_inj]
    · rw [here]
      exact List.append_ne_nil_of_right_ne_nil _ nonempty
    · rw [there]
      exact List.append_ne_nil_of_right_ne_nil _ nonempty

end CallLibrary.Generator
