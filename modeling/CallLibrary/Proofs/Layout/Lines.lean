import CallLibrary.Proofs.Layout.Sections
import CallLibrary.Proofs.Text.Lines

/-!
# Lines of rendered fragments

If no text of a fragment holds a line feed, rendering gives one line for each row. A line that is
not empty gets one unit of indentation in front for each level; so the lines of a nested fragment
are those of the fragment alone, indented.
-/

namespace CallLibrary.Layout

open Text (OneLine withoutReturn)

/-- The text of a row, empty for a blank line. -/
def Row.content : Row → String
  | .blank => ""
  | .text _ content => content

@[simp] theorem Row.content_text (level : Nat) (content : String) :
    (Row.text level content).content = content := rfl

@[simp] theorem Row.content_deeper (row : Row) : row.deeper.content = row.content := by
  cases row <;> rfl

/-- No text in fragments holds a line feed. -/
def OneLines (fragments : List Fragment) : Prop :=
  ∀ row ∈ Fragment.rowsAll 0 fragments, OneLine row.content

instance (fragments : List Fragment) : Decidable (OneLines fragments) :=
  inferInstanceAs (Decidable (∀ row ∈ Fragment.rowsAll 0 fragments, OneLine row.content))

theorem oneLines_append {fragments others : List Fragment} :
    OneLines (fragments ++ others) ↔ OneLines fragments ∧ OneLines others := by
  simp only [OneLines, Fragment.rowsAll_append, List.forall_mem_append]

theorem oneLines_nil : OneLines [] := by
  intro row member
  cases member

theorem oneLines_cons {fragment : Fragment} {rest : List Fragment} :
    OneLines (fragment :: rest) ↔ OneLines [fragment] ∧ OneLines rest :=
  @oneLines_append [fragment] rest

theorem oneLines_line {text : String} : OneLines [.line text] ↔ OneLine text := by
  simp [OneLines, Fragment.rowsAll, Fragment.rows]

theorem oneLines_map_line {α : Type} {text : α → String} {l : List α}
    (each : ∀ a ∈ l, OneLine (text a)) : OneLines (l.map fun a => .line (text a)) := by
  intro row member
  rw [Fragment.rowsAll_map_line] at member
  obtain ⟨a, listed, rfl⟩ := List.mem_map.mp member
  exact each a listed

theorem oneLines_comment {text : String} : OneLines [.comment text] ↔ OneLine text := by
  have mark : OneLine "// " := by decide
  simp [OneLines, Fragment.rowsAll, Fragment.rows, mark]

/-- The level of a body is no matter. -/
theorem oneLines_indented {body : List Fragment} : OneLines [.indented body] ↔ OneLines body := by
  simp [OneLines, Fragment.rowsAll, Fragment.rows, Fragment.rowsAll_succ]

theorem oneLines_block {header : String} {body : List Fragment} {close : Option String} :
    OneLines [.block header body close] ↔
      OneLine header ∧ OneLines body ∧ ∀ text ∈ close, OneLine text := by
  cases close with
  | none => simp [OneLines, Fragment.rowsAll, Fragment.rows, Fragment.rowsAll_succ]
  | some text =>
    simp only [OneLines, Fragment.rowsAll, Fragment.rows, Fragment.rowsAll_succ]
    simp [or_imp, forall_and]

theorem oneLines_documentation {lines : List String} :
    OneLines [.documentation lines] ↔ ∀ text ∈ lines, OneLine text := by
  have marks : OneLine "/**" ∧ OneLine " * " ∧ OneLine " */" := by decide
  simp only [OneLines, Fragment.rowsAll, Fragment.rows]
  simp [or_imp, forall_and, marks]

theorem oneLines_intercalate {groups : List (List Fragment)}
    (each : ∀ group ∈ groups, OneLines group) : OneLines (List.intercalate [.blank] groups) := by
  intro row member
  rw [Fragment.rowsAll_intercalate] at member
  rcases mem_of_mem_intercalate member with blank | ⟨part, listed, inside⟩
  · rw [List.mem_singleton.mp blank]
    exact List.not_mem_nil
  · obtain ⟨group, given, rfl⟩ := List.mem_map.mp listed
    exact each group given row inside

/-! ## Cutting rendered fragments into lines -/

/-- The line that a row is read back as. -/
def Row.shown (row : Row) : String := withoutReturn (row.line .standard)

theorem Row.oneLine_line {row : Row} (oneLine : OneLine row.content) :
    OneLine (row.line .standard) := by
  cases row with
  | blank => exact oneLine
  | text level content =>
    refine Text.oneLine_append.mpr ⟨Text.oneLine_join fun part copied => ?_, oneLine⟩
    rw [List.eq_of_mem_replicate copied]
    decide

/-- Rendered fragments have one line for each row. -/
theorem lines_render {fragments : List Fragment} (oneLines : OneLines fragments) :
    Text.lines (render fragments) = (Fragment.rowsAll 0 fragments).map Row.shown := by
  rw [render_eq_written, Row.written, Text.lines_join, List.map_map]
  · rfl
  · intro line written
    obtain ⟨row, member, rfl⟩ := List.mem_map.mp written
    exact Row.oneLine_line (oneLines row member)

/-- A line with one level of indentation more. An empty line stays empty. -/
def indentLine (line : String) : String := if line.isEmpty then "" else "  " ++ line

/-- One level deeper a row is read back with more indentation, if it is blank or shows anything. -/
theorem Row.shown_deeper {row : Row} (visible : row = .blank ∨ row.shown ≠ "") :
    row.deeper.shown = indentLine row.shown := by
  cases row with
  | blank => rfl
  | text level content =>
    have shows : (Row.text level content).shown ≠ "" := visible.resolve_left (by simp)
    -- On an empty line the new indentation would be the end of the line.
    have written : (Row.text level content).line .standard ≠ "" := by
      intro nothing
      rw [Row.shown, nothing] at shows
      exact shows rfl
    rw [Row.shown, Row.line_deeper, Text.withoutReturn_append written, ← Row.shown, indentLine,
      if_neg (by simpa using shows)]
    rfl

/-- A deeper row is never empty: it shows at least its indentation. -/
theorem Row.visible_deeper (row : Row) : row.deeper = .blank ∨ row.deeper.shown ≠ "" := by
  cases row with
  | blank => exact .inl rfl
  | text level content =>
    refine .inr ?_
    rw [Row.shown, Row.line_deeper]
    exact Text.withoutReturn_append_ne_empty (by decide) _

/-- A line at the outermost level is shown as it is, unless a carriage return ends it. -/
theorem Row.shown_text_append {s rest : String} (more : rest ≠ "")
    (kept : withoutReturn rest = rest) : (Row.text 0 (s ++ rest)).shown = s ++ rest := by
  rw [Row.shown, Row.line_text_zero]
  exact Text.withoutReturn_append_self more kept

/-- The lines of fragments one level deeper are their lines, indented. -/
theorem map_shown_rowsAll_one {fragments : List Fragment}
    (visible : ∀ row ∈ Fragment.rowsAll 0 fragments, row = .blank ∨ row.shown ≠ "") :
    (Fragment.rowsAll 1 fragments).map Row.shown =
      ((Fragment.rowsAll 0 fragments).map Row.shown).map indentLine := by
  rw [Fragment.rowsAll_succ, List.map_map, List.map_map]
  refine List.map_congr_left fun row member => ?_
  rw [Function.comp_apply, Function.comp_apply]
  exact Row.shown_deeper (visible row member)

/-- The lines of sections are the sections of lines. -/
theorem map_shown_intercalate (groups : List (List Row)) :
    (List.intercalate [.blank] groups).map Row.shown =
      List.intercalate [""] (groups.map (·.map Row.shown)) :=
  map_intercalate Row.shown [.blank] groups

end CallLibrary.Layout
