import Mathlib.Data.List.Induction
import CallLibrary.Proofs.Layout.Sections
import CallLibrary.Solidity.SourceUnit

/-!
# Files and libraries in the making

Files and libraries are put together by calling their operations in any order and any number of
times. What an operation adds to the parts of a file does not depend on what is there already, so
the parts can be read off from the operations: the last header, all imports, and a section for each
declaration and each group that has lines. The text of a file is that of its sections with one line
feed between any two, and the text of a library has its members between its braces in the same way.
-/

namespace CallLibrary.Solidity

open Layout (Fragment Row renderAt)

/-! ## Files -/

namespace SourceUnit

inductive Operation
  | header (text : String)
  | importing (imports : List Import)
  | add (declaration : Declaration)
  | addGroup (declarations : List Declaration)
  deriving Repr

namespace Operation

def apply (u : SourceUnit) : Operation → SourceUnit
  | .header text => u.withHeader text
  | .importing imports => u.withImports imports
  | .add declaration => u.add declaration
  | .addGroup declarations => u.addGroup declarations

def headers : Operation → List String
  | .header text => [text]
  | _ => []

def imports : Operation → List Import
  | .importing imports => imports
  | _ => []

/-- The section that an operation adds. A declaration is one even without lines, a group only with
some. -/
def sections : Operation → List (List Fragment)
  | .add declaration => [declaration.fragments]
  | .addGroup declarations =>
    let fragments := declarations.flatMap (·.fragments)
    if fragments = [] then [] else [fragments]
  | _ => []

theorem apply_eq (u : SourceUnit) (operation : Operation) :
    operation.apply u = ⟨operation.headers.getLast?.or u.header, u.imports ++ operation.imports,
      u.body ++ operation.sections⟩ := by
  cases operation with
  | header text => simp [apply, withHeader, headers, imports, sections]
  | importing imports => simp [apply, withImports, headers, Operation.imports, sections]
  | add declaration => simp [apply, SourceUnit.add, headers, imports, sections]
  | addGroup declarations =>
    by_cases nothing : declarations.flatMap (·.fragments) = []
    · simp [apply, SourceUnit.addGroup, headers, imports, sections, nothing]
    · simp [apply, SourceUnit.addGroup, headers, imports, sections, nothing]

end Operation

def ofOperations (operations : List Operation) : SourceUnit :=
  operations.foldl Operation.apply empty

theorem ofOperations_concat (operations : List Operation) (operation : Operation) :
    ofOperations (operations ++ [operation]) = operation.apply (ofOperations operations) := by
  rw [ofOperations, List.foldl_append]
  rfl

/-- The last header counts; imports and sections come in the order in which they were added. -/
theorem ofOperations_eq (operations : List Operation) :
    ofOperations operations =
      ⟨(operations.flatMap Operation.headers).getLast?, operations.flatMap Operation.imports,
        operations.flatMap Operation.sections⟩ := by
  induction operations using List.reverseRecOn with
  | nil => rfl
  | append_singleton operations operation ih =>
    rw [ofOperations_concat, Operation.apply_eq, ih]
    simp only [List.flatMap_append, List.flatMap_singleton, List.getLast?_append]

/-- The text of a header: its lines, each with a line feed. -/
def headerText (header : String) : String := String.join ((Text.lines header).map (· ++ "\n"))

theorem renderAt_headerFragments (header : String) :
    renderAt 0 (headerFragments header) = headerText header := by
  have each (line : String) : Row.written .standard
      (Fragment.rows 0 (if line.isEmpty then .blank else .line line)) = line ++ "\n" := by
    by_cases empty : line = ""
    · subst empty
      rfl
    · simp [empty, Fragment.rows, Row.written, Row.line]
  rw [Layout.renderAt_eq_written, headerFragments, headerText]
  induction Text.lines header with
  | nil => rfl
  | cons line rest ih =>
    rw [List.map_cons, Fragment.rowsAll, Row.written_append, each, ih, List.map_cons,
      String.join_cons]

theorem render_eq_intercalate (u : SourceUnit) :
    u.render = String.intercalate "\n" (u.sections.map (renderAt 0)) :=
  Layout.renderAt_intercalate 0 u.sections

/-- The texts of the sections of a file that operations make. -/
def sectionTexts (operations : List Operation) : List String :=
  let imports := operations.flatMap Operation.imports
  ((operations.flatMap Operation.headers).getLast?.map headerText).toList ++
    (if imports = [] then [] else [renderAt 0 (imports.map fun i => .line i.statement)]) ++
    (operations.flatMap Operation.sections).map (renderAt 0)

theorem map_renderAt_sections (operations : List Operation) :
    (ofOperations operations).sections.map (renderAt 0) = sectionTexts operations := by
  rw [ofOperations_eq]
  simp only [sections, sectionTexts, List.map_append]
  congr 2
  · cases (operations.flatMap Operation.headers).getLast? with
    | none => rfl
    | some text => simp [renderAt_headerFragments]
  · by_cases none : operations.flatMap Operation.imports = []
    · rw [if_pos none, none]
      rfl
    · rw [if_neg none, if_neg (by simpa using none)]
      rfl

theorem render_ofOperations (operations : List Operation) :
    (ofOperations operations).render = String.intercalate "\n" (sectionTexts operations) := by
  rw [render_eq_intercalate, map_renderAt_sections]

end SourceUnit

/-! ## Libraries -/

namespace Library

inductive Operation
  | document (line : String)
  | add (member : List Fragment)
  | addAll (members : List (List Fragment))
  | addGroup (group : List Fragment)
  deriving Repr

namespace Operation

def apply (l : Library) : Operation → Library
  | .document line => l.document line
  | .add member => l.add member
  | .addAll members => l.addAll members
  | .addGroup group => l.addGroup group

def lines : Operation → List String
  | .document line => [line]
  | _ => []

/-- The members that an operation adds. Only a group needs lines to be one. -/
def members : Operation → List (List Fragment)
  | .add member => [member]
  | .addAll members => members
  | .addGroup group => if group = [] then [] else [group]
  | _ => []

theorem apply_eq (l : Library) (operation : Operation) :
    operation.apply l = ⟨l.name, l.documentation ++ operation.lines,
      l.members ++ operation.members⟩ := by
  cases operation with
  | document line => simp [apply, Library.document, lines, members]
  | add member => simp [apply, Library.add, lines, members]
  | addAll members => simp [apply, Library.addAll, lines, Operation.members]
  | addGroup group =>
    by_cases nothing : group = []
    · simp [apply, Library.addGroup, lines, members, nothing]
    · simp [apply, Library.addGroup, Library.add, lines, members, nothing]

end Operation

def ofOperations (name : String) (operations : List Operation) : Library :=
  operations.foldl Operation.apply (empty name)

theorem ofOperations_concat (name : String) (operations : List Operation)
    (operation : Operation) :
    ofOperations name (operations ++ [operation]) =
      operation.apply (ofOperations name operations) := by
  rw [ofOperations, List.foldl_append]
  rfl

theorem ofOperations_eq (name : String) (operations : List Operation) :
    ofOperations name operations =
      ⟨name, operations.flatMap Operation.lines, operations.flatMap Operation.members⟩ := by
  induction operations using List.reverseRecOn with
  | nil => rfl
  | append_singleton operations operation ih =>
    rw [ofOperations_concat, Operation.apply_eq, ih]
    simp only [List.flatMap_append, List.flatMap_singleton]

/-- The comment in front of a library, if it has documentation. -/
def commentText (lines : List String) : String :=
  if lines = [] then ""
  else "/**\n" ++ String.join (lines.map fun line => " * " ++ line ++ "\n") ++ " */\n"

theorem renderAt_documentation (lines : List String) :
    renderAt 0 [.documentation lines] =
      "/**\n" ++ String.join (lines.map fun line => " * " ++ line ++ "\n") ++ " */\n" := by
  have inner : Row.written .standard (lines.map fun line => .text 0 (" * " ++ line)) =
      String.join (lines.map fun line => " * " ++ line ++ "\n") := by
    simp [Row.written, Row.line, Function.comp_def]
  have first : "/**" ++ "\n" = "/**\n" := rfl
  have last : " */" ++ "\n" = " */\n" := rfl
  rw [Layout.renderAt_eq_written, Fragment.rowsAll, Fragment.rowsAll, Fragment.rows,
    List.append_nil, Row.written_append, Row.written_cons, Row.line_text_zero, first, inner,
    Row.written_singleton, Row.line_text_zero, last]

theorem renderAt_fragments (l : Library) :
    renderAt 0 l.fragments = commentText l.documentation ++ ("library " ++ l.name ++ " \x7b\n") ++
      String.intercalate "\n" (l.members.map (renderAt 1)) ++ "\x7d\n" := by
  have parts : l.fragments =
      (if l.documentation.isEmpty then [] else [.documentation l.documentation]) ++
        [.block ("library " ++ l.name ++ " \x7b") (List.intercalate [.blank] l.members)
          (some "\x7d")] := rfl
  have comment : renderAt 0
      (if l.documentation.isEmpty then [] else [.documentation l.documentation]) =
        commentText l.documentation := by
    by_cases none : l.documentation = []
    · rw [none]
      rfl
    · rw [if_neg (by simpa using none), renderAt_documentation, commentText, if_neg none]
  have header : "library " ++ l.name ++ " \x7b" ++ "\n" = "library " ++ l.name ++ " \x7b\n" := by
    rw [String.append_assoc]
    rfl
  rw [parts, Layout.renderAt_append, comment, Layout.renderAt_block, header,
    Layout.renderAt_intercalate]
  simp only [String.append_assoc]
  rfl

theorem render_ofOperations (name : String) (operations : List Operation) :
    Layout.render (ofOperations name operations).fragments =
      commentText (operations.flatMap Operation.lines) ++ ("library " ++ name ++ " \x7b\n") ++
        String.intercalate "\n" ((operations.flatMap Operation.members).map (renderAt 1)) ++
        "\x7d\n" := by
  rw [← Layout.renderAt_zero, renderAt_fragments, ofOperations_eq]

end Library

/-- The text of a file that operations make is that of its sections with one line feed between any
two. The text of a library is its comment, if it has one, and its members between its braces, each
one level deeper and with an empty line between any two. -/
theorem operations_render_in_order :
    (∀ operations, (SourceUnit.ofOperations operations).render =
      String.intercalate "\n" (SourceUnit.sectionTexts operations)) ∧
    ∀ name operations, Layout.render (Library.ofOperations name operations).fragments =
      Library.commentText (operations.flatMap Library.Operation.lines) ++
        ("library " ++ name ++ " \x7b\n") ++
        String.intercalate "\n"
          ((operations.flatMap Library.Operation.members).map (renderAt 1)) ++ "\x7d\n" :=
  ⟨SourceUnit.render_ofOperations, Library.render_ofOperations⟩

-- A header and a declaration without lines count as sections, an empty group does not.
example : (SourceUnit.ofOperations [.addGroup [], .add (.verbatim []), .header "// A",
    .add (.binding "L" "T"), .header ""]).render = "\n\nusing L for T global;\n" := by decide

end CallLibrary.Solidity
