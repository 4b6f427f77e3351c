import CallLibrary.Proofs.Generator.OneLines
import CallLibrary.Proofs.Solidity.Building

/-!
# Where the imports of a file stand

The text of a generated file begins with its header, an empty line and its import statements.
-/

namespace CallLibrary.Generator

open Interface (Options)
open Layout (Fragment Row renderAt)
open Solidity (Import SourceUnit standardHeader)

theorem renderAt_standardHeader :
    renderAt 0 (SourceUnit.headerFragments standardHeader) = standardHeader ++ "\n" := by
  rw [Layout.renderAt_eq_written, headerFragments_standardHeader]
  decide

theorem renderAt_imports (imports : List Import) :
    renderAt 0 (imports.map fun i => .line i.statement) =
      String.join (imports.map fun i => i.statement ++ "\n") := by
  rw [Layout.renderAt_eq_written, Fragment.rowsAll_map_line, Row.written, List.map_map,
    List.map_map]
  refine congrArg String.join (List.map_congr_left fun i _ => ?_)
  exact congrArg (· ++ "\n") (Row.line_text_zero _ _)

/-- A file begins with the header, an empty line and the import statements. -/
theorem render_sourceUnit (names : Names) (options : Options) (imports : List Import)
    (library : Solidity.Library) :
    ∃ rest, (sourceUnit names options imports library).render =
      standardHeader ++ "\n\n" ++ String.join (imports.map fun i => i.statement ++ "\n")
        ++ rest := by
  have lineFeeds : standardHeader ++ "\n" ++ "\n" = standardHeader ++ "\n\n" := by decide
  rw [SourceUnit.render_eq_intercalate, sections_sourceUnit, frontSections, List.cons_append,
    List.cons_append, List.map_cons, String.intercalate_cons_of_ne_nil (by simp),
    renderAt_standardHeader, lineFeeds]
  cases imports with
  | nil =>
    simp only [List.map_nil, String.join_nil, String.append_empty]
    exact ⟨_, rfl⟩
  | cons first others =>
    simp only [List.isEmpty_cons, Bool.false_eq_true, if_false, List.cons_append]
    rw [List.map_cons, String.intercalate_cons_of_ne_nil (by simp), renderAt_imports]
    simp only [String.append_assoc]
    exact ⟨_, rfl⟩

/-- The imports of a generated file: those that its options resolve to, which stand in its text
between the header and the declarations. -/
structure FileImports (options : Options) (text : String) (imports : List Import) : Prop where
  resolved : Calls.resolveImports (allImports options) (Names.ofOptions options).defined =
    .ok imports
  whole : ∃ given, text = (sourceUnit (Names.ofOptions options) options imports
    (library (Names.ofOptions options) options given)).render
  written : ∃ rest, text = standardHeader ++ "\n\n"
    ++ String.join (imports.map fun i => i.statement ++ "\n") ++ rest

/-- In every generated file the imports stand between the header and the declarations. -/
theorem fileImports_of_render {options : Options} {text : String}
    (rendered : render options = .ok text) : ∃ imports, FileImports options text imports := by
  obtain ⟨imports, resolved, rest⟩ := Outcome.bind_eq_ok.mp rendered
  obtain ⟨given, _, made⟩ := Outcome.bind_eq_ok.mp rest
  cases made
  exact ⟨imports, resolved, ⟨given, rfl⟩, render_sourceUnit _ _ _ _⟩

end CallLibrary.Generator
