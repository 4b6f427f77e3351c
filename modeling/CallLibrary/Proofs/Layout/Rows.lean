import CallLibrary.Layout.Builder

/-!
# Rows of a fragment

A builder writes a fragment while it changes its own level. Here the same output is given without a
builder: each fragment has a list of rows, a row knows its own level, and one level more moves every
row by one. A builder adds exactly the rows of a fragment to its text and comes back to its level.
-/

namespace CallLibrary.Layout

/-- One line of output with the level at which it stands. A blank line has no level. -/
inductive Row
  | blank
  | text (level : Nat) (content : String)
  deriving DecidableEq, Repr

namespace Row

def deeper : Row → Row
  | .blank => .blank
  | .text level content => .text (level + 1) content

/-- The line of a row without its ending. -/
def line (indent : Indent) : Row → String
  | .blank => ""
  | .text level content => String.join (List.replicate level indent.unit) ++ content

/-- The text of rows, each with its line feed. -/
def written (indent : Indent) (rows : List Row) : String :=
  String.join ((rows.map (line indent)).map (· ++ "\n"))

@[simp] theorem line_text_zero (indent : Indent) (content : String) :
    (text 0 content).line indent = content := by
  simp [line]

theorem written_append (indent : Indent) (rows others : List Row) :
    written indent (rows ++ others) = written indent rows ++ written indent others := by
  simp only [written, List.map_append, String.join_append]

theorem written_cons (indent : Indent) (row : Row) (rows : List Row) :
    written indent (row :: rows) = row.line indent ++ "\n" ++ written indent rows := by
  simp only [written, List.map_cons, String.join_cons]

theorem written_singleton (indent : Indent) (row : Row) :
    written indent [row] = row.line indent ++ "\n" := by
  rw [written_cons]
  exact String.append_empty

/-- One level more is one unit of indentation in front of a line that is not blank. -/
theorem line_deeper (indent : Indent) (level : Nat) (content : String) :
    (deeper (.text level content)).line indent =
      indent.unit ++ (Row.text level content).line indent := by
  simp only [deeper, line, List.replicate_succ, String.join_cons, String.append_assoc]

end Row

mutual

def Fragment.rows (level : Nat) : Fragment → List Row
  | .line text => [.text level text]
  | .blank => [.blank]
  | .block header body close =>
    .text level header :: rowsAll (level + 1) body ++ close.toList.map (.text level)
  | .indented body => rowsAll (level + 1) body
  | .comment text => [.text level ("// " ++ text)]
  | .documentation lines =>
    .text level "/**" :: lines.map (fun text => .text level (" * " ++ text)) ++
      [.text level " */"]

def Fragment.rowsAll (level : Nat) : List Fragment → List Row
  | [] => []
  | fragment :: rest => fragment.rows level ++ rowsAll level rest

end

namespace Fragment

@[simp] theorem rowsAll_append (level : Nat) (fragments others : List Fragment) :
    rowsAll level (fragments ++ others) = rowsAll level fragments ++ rowsAll level others := by
  induction fragments with
  | nil => rfl
  | cons fragment rest ih => simp only [List.cons_append, rowsAll, ih, List.append_assoc]

theorem rowsAll_map_line {α : Type} (level : Nat) (text : α → String) (l : List α) :
    rowsAll level (l.map fun a => .line (text a)) = l.map fun a => .text level (text a) := by
  induction l with
  | nil => rfl
  | cons a rest ih => simp only [List.map_cons, rowsAll, rows, ih, List.singleton_append]

mutual

/-- One level more moves all rows of a fragment, whatever is nested in it. -/
theorem rows_succ (level : Nat) :
    ∀ fragment : Fragment, fragment.rows (level + 1) = (fragment.rows level).map Row.deeper
  | .line _ => rfl
  | .blank => rfl
  | .block header body close => by
    have inside := rowsAll_succ (level + 1) body
    cases close with
    | none => simp [rows, inside, Row.deeper]
    | some text => simp [rows, inside, Row.deeper]
  | .indented body => rowsAll_succ (level + 1) body
  | .comment _ => rfl
  | .documentation lines => by simp [rows, Row.deeper]

theorem rowsAll_succ (level : Nat) :
    ∀ fragments : List Fragment,
      rowsAll (level + 1) fragments = (rowsAll level fragments).map Row.deeper
  | [] => rfl
  | fragment :: rest => by
    simp only [rowsAll, rows_succ level fragment, rowsAll_succ level rest, List.map_append]

end

end Fragment

namespace Builder

/-- Rows written after everything else. Their own levels count, not the builder's. -/
def write (b : Builder) (rows : List Row) : Builder :=
  { b with text := b.text ++ Row.written b.indent rows }

@[simp] theorem write_level (b : Builder) (rows : List Row) : (b.write rows).level = b.level := rfl

theorem write_nil (b : Builder) : b.write [] = b := by
  simp [write, Row.written]

theorem write_write (b : Builder) (rows others : List Row) :
    (b.write rows).write others = b.write (rows ++ others) := by
  simp only [write, Row.written_append, String.append_assoc]

theorem line_eq_write (b : Builder) (text : String) :
    b.line text = b.write [.text b.level text] := by
  simp [line, write, margin, Row.written, Row.line]

theorem blank_eq_write (b : Builder) : b.blank = b.write [.blank] := by
  simp [blank, write, Row.written, Row.line]

/-- What is written a level deeper leaves the level as it was. -/
theorem shallower_write_deeper (b : Builder) (rows : List Row) :
    (b.deeper.write rows).shallower = b.write rows := rfl

theorem documentation_eq_write (b : Builder) (lines : List String) :
    b.documentation lines = b.write ((Fragment.documentation lines).rows b.level) := by
  have each : ∀ (lines : List String) (b : Builder),
      lines.foldl (fun b text => b.line (" * " ++ text)) b =
        b.write (lines.map fun text => .text b.level (" * " ++ text)) := by
    intro lines
    induction lines with
    | nil => simp [write_nil]
    | cons text rest ih =>
      intro b
      rw [List.foldl_cons, ih, line_eq_write, write_write]
      rfl
  rw [documentation, each, line_eq_write, line_eq_write, write_write, write_write]
  rfl

mutual

/-- A builder writes the rows of a fragment at its level and nothing else. -/
theorem add_eq_write (b : Builder) :
    ∀ fragment : Fragment, b.add fragment = b.write (fragment.rows b.level)
  | .line text => line_eq_write b text
  | .blank => blank_eq_write b
  | .block header body close => by
    -- The body is written from the deeper builder; its level is given back before the closing line.
    have inside := addAll_eq_write (b.line header).deeper body
    rw [line_eq_write] at inside
    have whole : (((b.line header).deeper).addAll body).shallower =
        b.write (.text b.level header :: Fragment.rowsAll (b.level + 1) body) := by
      rw [line_eq_write, inside, shallower_write_deeper, write_write]
      rfl
    cases close with
    | none =>
      rw [add, whole]
      simp [Fragment.rows]
    | some text =>
      rw [add, whole]
      simp only [line_eq_write, write_write]
      rfl
  | .indented body => by
    rw [add, addAll_eq_write b.deeper body, shallower_write_deeper]
    rfl
  | .comment text => line_eq_write b ("// " ++ text)
  | .documentation lines => documentation_eq_write b lines

/-- Fragments are written as their rows at the level of the builder. -/
theorem addAll_eq_write (b : Builder) :
    ∀ fragments : List Fragment, b.addAll fragments = b.write (Fragment.rowsAll b.level fragments)
  | [] => (write_nil b).symm
  | fragment :: rest => by
    rw [addAll, addAll_eq_write (b.add fragment) rest, add_eq_write b fragment, write_level,
      write_write, Fragment.rowsAll]

end

end Builder

/-- The text of fragments is their rows at the outermost level. -/
theorem render_eq_written (fragments : List Fragment) :
    render fragments = Row.written .standard (Fragment.rowsAll 0 fragments) := by
  rw [render, Builder.addAll_eq_write]
  exact String.empty_append

example : render [.block "f \x7b" [.indented [.line "a;"], .blank] (some "\x7d")] =
    "f \x7b\n    a;\n\n\x7d\n" := by decide

end CallLibrary.Layout
