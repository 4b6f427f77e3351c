import CallLibrary.Proofs.Text.OneLine

/-!
# A text without its comments

Two texts say the same to a compiler if they become equal once every line that begins with `//` is
deleted. What is left of a text is known from its lines, and the lines of a text are those of its
parts when it is cut at a line feed.
-/

namespace CallLibrary.Text

/-- Whether a line is a comment from its first character on. -/
def isCommentLine (line : List Char) : Bool := ['/', '/'].isPrefixOf line

/-- The lines of a text that are no comments. Behind its last line feed a text has one more line,
which may be empty. -/
def codeLines (text : String) : List (List Char) :=
  (text.toList.splitOn '\n').filter fun line => !isCommentLine line

def withoutComments (text : String) : String :=
  String.ofList (List.intercalate ['\n'] (codeLines text))

/-- Every line feed cuts a text into two with the same lines. -/
theorem codeLines_append_newline (front back : String) :
    codeLines (front ++ "\n" ++ back) = codeLines front ++ codeLines back := by
  have characters : (front ++ "\n" ++ back).toList = front.toList ++ '\n' :: back.toList := by
    rw [String.append_assoc, String.toList_append, String.toList_append]
    rfl
  rw [codeLines, characters, List.splitOn_append_cons_self, List.filter_append]
  rfl

theorem codeLines_of_oneLine {line : String} (oneLine : OneLine line) :
    codeLines line = if isCommentLine line.toList then [] else [line.toList] := by
  rw [codeLines, List.splitOn_eq_singleton oneLine]
  by_cases comment : isCommentLine line.toList = true
  · simp [comment]
  · simp [comment]

/-- Something is left of a text that ends in a line feed: the empty line behind it. -/
theorem codeLines_newline_ne_nil (text : String) : codeLines (text ++ "\n") ≠ [] := by
  have last : codeLines "" = [[]] := by decide
  have cut := codeLines_append_newline text ""
  rw [String.append_empty, last] at cut
  rw [cut]
  exact List.append_ne_nil_of_right_ne_nil _ (List.cons_ne_nil _ _)

theorem not_mem_of_mem_splitOn {mark : Char} {text line : List Char}
    (piece : line ∈ text.splitOn mark) : mark ∉ line := by
  induction text generalizing line with
  | nil =>
    rw [List.splitOn_nil, List.mem_singleton] at piece
    simp [piece]
  | cons c rest ih =>
    rw [List.splitOn_cons_eq_if_modifyHead] at piece
    split at piece
    next =>
      rcases List.mem_cons.mp piece with rfl | later
      · exact List.not_mem_nil
      · exact ih later
    next other =>
      obtain ⟨first, others, shape⟩ := List.exists_cons_of_ne_nil (List.splitOn_ne_nil mark rest)
      rw [shape, List.modifyHead_cons] at piece
      rcases List.mem_cons.mp piece with rfl | later
      -- Only the first piece grows, and it grows by a character that is no mark.
      · have here : mark ∉ first := ih (by simp [shape])
        have different : mark ≠ c := fun same => other (by simp [same])
        simp [here, different]
      · exact ih (by simp [shape, later])

/-- What is left of a text shows which lines are left, unless none is. -/
theorem withoutComments_eq_iff {text other : String} (some : codeLines text ≠ [])
    (more : codeLines other ≠ []) :
    withoutComments text = withoutComments other ↔ codeLines text = codeLines other := by
  have oneLine : ∀ text : String, ∀ line ∈ codeLines text, '\n' ∉ line :=
    fun text line kept => not_mem_of_mem_splitOn (List.mem_filter.mp kept).1
  constructor
  · intro same
    have characters := String.ofList_inj.mp same
    have lines := congrArg (List.splitOn '\n') characters
    rwa [List.splitOn_intercalate _ (oneLine text) some,
      List.splitOn_intercalate _ (oneLine other) more] at lines
  · intro same
    rw [withoutComments, withoutComments, same]

example : withoutComments "a\n// b\n\nc // d\n" = "a\n\nc // d\n" := by decide

end CallLibrary.Text
