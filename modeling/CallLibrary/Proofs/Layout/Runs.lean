import CallLibrary.Proofs.Layout.Rows

/-!
# Runs of a builder

A builder is used by calling its operations in any order. What one operation writes depends on the
current level alone, and so does the level that it leaves. A run therefore writes the rows of its
operations, each at the level that those before it have led to; and whatever was called before, a
fragment adds its own rows behind the text and comes back to the level at which it began.
-/

namespace CallLibrary.Layout.Builder

/-- An operation of a builder. -/
inductive Operation
  | line (text : String)
  | blank
  | deeper
  | shallower
  | comment (text : String)
  | documentation (lines : List String)
  | add (fragment : Fragment)
  /-- All fragments of a declaration. -/
  | addAll (fragments : List Fragment)
  deriving Repr

namespace Operation

def apply (b : Builder) : Operation → Builder
  | .line text => b.line text
  | .blank => b.blank
  | .deeper => b.deeper
  | .shallower => b.shallower
  | .comment text => b.comment text
  | .documentation lines => b.documentation lines
  | .add fragment => b.add fragment
  | .addAll fragments => b.addAll fragments

def rows (level : Nat) : Operation → List Row
  | .line text => [.text level text]
  | .blank => [.blank]
  | .deeper => []
  | .shallower => []
  | .comment text => [.text level ("// " ++ text)]
  | .documentation lines =>
    .text level "/**" :: lines.map (fun text => .text level (" * " ++ text)) ++
      [.text level " */"]
  | .add fragment => fragment.rows level
  | .addAll fragments => Fragment.rowsAll level fragments

/-- The level behind an operation. Going back from the outermost level stays there. -/
def levelAfter (level : Nat) : Operation → Nat
  | .deeper => level + 1
  | .shallower => level - 1
  | _ => level

def levelAlong (level : Nat) (operations : List Operation) : Nat :=
  operations.foldl levelAfter level

/-- The rows of several operations, each at the level that it finds. -/
def rowsAlong (level : Nat) : List Operation → List Row
  | [] => []
  | operation :: rest => operation.rows level ++ rowsAlong (operation.levelAfter level) rest

/-- An operation writes its rows and moves to its level. -/
theorem apply_eq (b : Builder) (operation : Operation) :
    operation.apply b =
      { b.write (operation.rows b.level) with level := operation.levelAfter b.level } := by
  cases operation with
  | line text => exact line_eq_write b text
  | blank => exact blank_eq_write b
  | deeper =>
    rw [rows, write_nil]
    rfl
  | shallower =>
    rw [rows, write_nil]
    rfl
  | comment text => exact line_eq_write b ("// " ++ text)
  | documentation lines => exact documentation_eq_write b lines
  | add fragment => exact add_eq_write b fragment
  | addAll fragments => exact addAll_eq_write b fragments

end Operation

def run (b : Builder) (operations : List Operation) : Builder :=
  operations.foldl Operation.apply b

/-- A run writes the rows of its operations behind the text and keeps the style. -/
theorem run_eq (b : Builder) (operations : List Operation) :
    b.run operations =
      { b.write (Operation.rowsAlong b.level operations) with
        level := Operation.levelAlong b.level operations } := by
  induction operations generalizing b with
  | nil => exact (write_nil b).symm
  | cons operation rest ih =>
    have later := ih (operation.apply b)
    rw [Operation.apply_eq] at later
    rw [run, List.foldl_cons, ← run, Operation.apply_eq, later, Operation.rowsAlong, ← write_write]
    rfl

/-- Whatever operations have led to a builder, its text is theirs and its level is where they went.
A fragment that is then added leaves the earlier text and the level as they are, and behind that
text stand the rows of the fragment at this level. -/
theorem add_after_run (indent : Indent) (operations : List Operation) :
    (empty indent).run operations =
        ⟨indent, Operation.levelAlong 0 operations,
          Row.written indent (Operation.rowsAlong 0 operations)⟩ ∧
      ∀ fragment, ((empty indent).run operations).add fragment =
        ⟨indent, ((empty indent).run operations).level,
          ((empty indent).run operations).text ++
            Row.written indent (fragment.rows ((empty indent).run operations).level)⟩ := by
  have reached : (empty indent).run operations =
      ⟨indent, Operation.levelAlong 0 operations,
        Row.written indent (Operation.rowsAlong 0 operations)⟩ := by
    rw [run_eq]
    simp [empty, write]
  refine ⟨reached, fun fragment => ?_⟩
  rw [add_eq_write, reached]
  rfl

example : (empty .tab).run [.shallower, .deeper, .add (.block "\x7b" [.line "a;"] (some "\x7d")),
    .shallower, .comment "b"] = ⟨.tab, 0, "\t\x7b\n\t\ta;\n\t\x7d\n// b\n"⟩ := by decide

end CallLibrary.Layout.Builder
