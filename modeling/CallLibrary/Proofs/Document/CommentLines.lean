import CallLibrary.Document.Toml.Reader
import CallLibrary.Proofs.Document.Spellings

/-!
# A comment in front of a document

The statements of a TOML document are read line by line, with more room than there are lines. A
comment line in front of them is read over and leaves the rest as it is. The marks of what is read
count from the end of the document, so they do not notice the line either; only the mark of the
document as a whole does, and reading a structure from a table makes no use of it.
-/

namespace CallLibrary.Document

open Outcome

namespace Toml

/-- With more room the same statements are read. -/
theorem readStatements_of_le {fuel more : Nat} {text : List Char} {statements : List Statement}
    (enough : fuel ≤ more) (read : readStatements fuel text = some statements) :
    readStatements more text = some statements := by
  induction fuel generalizing more text statements with
  | zero => cases read
  | succ fuel ih =>
    obtain ⟨more, rfl⟩ : ∃ n, more = n + 1 := ⟨more - 1, by omega⟩
    have enough : fuel ≤ more := by omega
    simp only [readStatements] at read ⊢
    split
    next empty => simpa only [empty, if_true] using read
    next full =>
      simp only [full, Bool.false_eq_true, if_false] at read
      split
      next idle =>
        simp only [idle, if_true] at read
        obtain ⟨rest, ended, later⟩ := Option.bind_eq_some_iff.mp read
        exact Option.bind_eq_some_iff.mpr ⟨rest, ended, ih enough later⟩
      next busy =>
        simp only [busy, Bool.false_eq_true, if_false] at read
        obtain ⟨⟨statement, rest⟩, first, read⟩ := Option.bind_eq_some_iff.mp read
        obtain ⟨next, ended, read⟩ := Option.bind_eq_some_iff.mp read
        obtain ⟨others, later, made⟩ := Option.bind_eq_some_iff.mp read
        exact Option.bind_eq_some_iff.mpr ⟨(statement, rest), first,
          Option.bind_eq_some_iff.mpr ⟨next, ended,
            Option.bind_eq_some_iff.mpr ⟨others, ih enough later, made⟩⟩⟩

variable {comment : List Char}

/-- A comment goes to the line feed behind it. -/
theorem lineEnd_comment (plain : ∀ c ∈ comment, isCommentChar c = true) (rest : List Char) :
    lineEnd ('#' :: (comment ++ '\n' :: rest)) = some rest := by
  have noSpace : skipSpace ('#' :: (comment ++ '\n' :: rest)) = '#' :: (comment ++ '\n' :: rest) :=
    rfl
  have whole : ('#' :: comment ++ '\n' :: rest).dropWhile isCommentChar = '\n' :: rest := by
    rw [List.dropWhile_append_of_pos (List.forall_mem_cons.mpr ⟨rfl, plain⟩)]
    rfl
  unfold lineEnd
  rw [noSpace]
  simp only [List.head?_cons, BEq.rfl, if_true]
  rw [← List.cons_append, whole]
  rfl

/-- A comment line in front is read over. -/
theorem readStatements_comment (plain : ∀ c ∈ comment, isCommentChar c = true) (fuel : Nat)
    (rest : List Char) :
    readStatements (fuel + 1) ('#' :: (comment ++ '\n' :: rest)) = readStatements fuel rest := by
  have idle : isIdle (skipSpace ('#' :: (comment ++ '\n' :: rest))) = true := rfl
  have ended : lineEnd (skipSpace ('#' :: (comment ++ '\n' :: rest))) = some rest :=
    lineEnd_comment plain rest
  simp only [readStatements, List.isEmpty_cons, Bool.false_eq_true, if_false, idle, if_true, ended]
  rfl

/-- The document behind a comment line has the same entries. -/
theorem exists_read?_comment (plain : ∀ c ∈ comment, isCommentChar c = true) {text : List Char}
    (unmarked : text.head? ≠ some '\ufeff') {node : Node Extent} (read : read? text = some node) :
    ∃ mark mark' entries, node = .table mark entries ∧
      read? ('#' :: (comment ++ '\n' :: text)) = some (.table mark' entries) := by
  have noMark : skipMark text = text := by
    unfold skipMark
    split
    · simp at unmarked
    · rfl
  obtain ⟨statements, listed, read⟩ := Option.bind_eq_some_iff.mp read
  obtain ⟨draft, made, read⟩ := Option.bind_eq_some_iff.mp read
  cases read
  rw [noMark] at listed
  have enough : text.length + 1 ≤ (comment ++ '\n' :: text).length + 1 := by
    simp only [List.length_append, List.length_cons]
    omega
  have again : readStatements (('#' :: (comment ++ '\n' :: text)).length + 1)
      (skipMark ('#' :: (comment ++ '\n' :: text))) = some statements := by
    change readStatements _ ('#' :: (comment ++ '\n' :: text)) = some statements
    rw [readStatements_comment plain]
    exact readStatements_of_le enough listed
  exact ⟨_, _, _, rfl, Option.bind_eq_some_iff.mpr ⟨statements, again,
    Option.bind_eq_some_iff.mpr ⟨draft, made, rfl⟩⟩⟩

end Toml

end CallLibrary.Document
