import CallLibrary.Proofs.Text.OneLine
import CallLibrary.Text.Lines

/-!
# Lines of a written text

A text that is written line by line is cut into these lines again. The one thing that gets lost is a
carriage return at the end of a line, which is taken for a part of the line's ending.
-/

namespace CallLibrary.Text

/-- The characters of a line without a carriage return at its end. -/
def dropReturn : List Char → List Char
  | [] => []
  | ['\r'] => []
  | c :: rest => c :: dropReturn rest

def withoutReturn (s : String) : String := String.ofList (dropReturn s.toList)

theorem dropReturn_cons {c : Char} {rest : List Char} (kept : c ≠ '\r' ∨ rest ≠ []) :
    dropReturn (c :: rest) = c :: dropReturn rest := by
  rw [dropReturn.eq_def]
  split
  next nothing => cases nothing
  next only =>
    simp only [List.cons.injEq] at only
    exact absurd kept (by simp [only])
  next c' rest' _ same =>
    cases same
    rfl

theorem dropReturn_append {l rest : List Char} (more : rest ≠ []) :
    dropReturn (l ++ rest) = l ++ dropReturn rest := by
  induction l with
  | nil => rfl
  | cons c l ih =>
    have later : l ++ rest ≠ [] := List.append_ne_nil_of_right_ne_nil l more
    rw [List.cons_append, dropReturn_cons (.inr later), ih, List.cons_append]

/-- Only a carriage return is ever dropped. -/
theorem dropReturn_of_getLast? {l : List Char} (last : l.getLast? ≠ some '\r') :
    dropReturn l = l := by
  rcases List.eq_nil_or_concat l with rfl | ⟨front, c, rfl⟩
  · rfl
  · rw [List.concat_eq_append, List.getLast?_concat, ne_eq, Option.some.injEq] at last
    rw [List.concat_eq_append, dropReturn_append (by simp), dropReturn_cons (.inl last), dropReturn]

theorem dropReturn_isPrefix (l : List Char) : dropReturn l <+: l := by
  by_cases last : l.getLast? = some '\r'
  · obtain ⟨front, rfl⟩ := List.getLast?_eq_some_iff.mp last
    rw [dropReturn_append (by simp)]
    exact (List.prefix_append_right_inj front).mpr List.nil_prefix
  · exact ⟨[], by rw [dropReturn_of_getLast? last, List.append_nil]⟩

theorem withoutReturn_append {s rest : String} (more : rest ≠ "") :
    withoutReturn (s ++ rest) = s ++ withoutReturn rest := by
  have more : rest.toList ≠ [] := by simpa using more
  rw [withoutReturn, String.toList_append, dropReturn_append more, String.ofList_append,
    String.ofList_toList, withoutReturn]

/-- A line that ends in other text than a carriage return is kept. -/
theorem withoutReturn_append_self {s rest : String} (more : rest ≠ "")
    (kept : withoutReturn rest = rest) : withoutReturn (s ++ rest) = s ++ rest := by
  rw [withoutReturn_append more, kept]

/-- What stands in front of other text is kept, so a line that shows something there is not empty.
-/
theorem withoutReturn_append_ne_empty {s : String} (shows : withoutReturn s ≠ "") (rest : String) :
    withoutReturn (s ++ rest) ≠ "" := by
  by_cases more : rest = ""
  · rwa [more, String.append_empty]
  · have some : s ≠ "" := by
      rintro rfl
      exact shows rfl
    rw [withoutReturn_append more]
    simp [some]

theorem head?_append_newline {line : List Char} (oneLine : '\n' ∉ line) (rest : List Char) :
    (line ++ '\n' :: rest).head? = some '\n' ↔ line = [] := by
  cases line with
  | nil => simp
  | cons c line =>
    simp only [List.mem_cons, not_or] at oneLine
    simpa using Ne.symm oneLine.1

/-- The first line of a text ends at the first line feed. -/
theorem linesOf_append_newline {line : List Char} (oneLine : '\n' ∉ line) (rest : List Char) :
    linesOf (line ++ '\n' :: rest) = dropReturn line :: linesOf rest := by
  induction line with
  | nil => simp [linesOf, dropReturn]
  | cons c line ih =>
    simp only [List.mem_cons, not_or] at oneLine
    have later := head?_append_newline oneLine.2 rest
    rw [List.cons_append, linesOf, if_neg (Ne.symm oneLine.1)]
    -- A carriage return goes with the line feed only if nothing stands between the two.
    by_cases returned : c = '\r' ∧ line = []
    · obtain ⟨rfl, rfl⟩ := returned
      rw [if_pos (by simp), ih oneLine.2]
      rfl
    · have kept : c ≠ '\r' ∨ line ≠ [] := by
        rw [Classical.not_and_iff_not_or_not] at returned
        exact returned
      rw [if_neg, ih oneLine.2, dropReturn_cons kept]
      rwa [Bool.and_eq_true, decide_eq_true_eq, beq_iff_eq, later]

/-- A line in front of a text is the first of its lines. -/
theorem lines_line_append {line : String} (oneLine : OneLine line) (rest : String) :
    lines (line ++ "\n" ++ rest) = withoutReturn line :: lines rest := by
  have cut := linesOf_append_newline oneLine rest.toList
  simp only [lines, withoutReturn, String.toList_append, List.append_assoc]
  change (linesOf (line.toList ++ '\n' :: rest.toList)).map String.ofList = _
  rw [cut, List.map_cons]

/-- A literal is cut by its characters. -/
theorem lines_ofList (characters : List Char) :
    lines (String.ofList characters) = (linesOf characters).map String.ofList := by
  simp [lines]

/-- A text written line by line is cut into its lines. -/
theorem lines_join {written : List String} (oneLine : ∀ line ∈ written, OneLine line) :
    lines (String.join (written.map (· ++ "\n"))) = written.map withoutReturn := by
  induction written with
  | nil => rfl
  | cons line rest ih =>
    have here : OneLine line := oneLine line (by simp)
    have others := ih fun line member => oneLine line (List.mem_cons_of_mem _ member)
    rw [List.map_cons, String.join_cons, lines_line_append here, others, List.map_cons]

example : lines "a\r\n\nb\r" = ["a", "", "b\r"] := by decide

end CallLibrary.Text
