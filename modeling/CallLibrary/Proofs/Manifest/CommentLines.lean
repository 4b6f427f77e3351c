import CallLibrary.Proofs.Document.CommentLines
import CallLibrary.Proofs.Manifest.Decoding
import CallLibrary.Proofs.Manifest.Validation
import CallLibrary.Proofs.Text.Occurrence

/-!
# A comment in front of a manifest

A comment line in front of a manifest changes neither what is read from it nor the rule that it
breaks. The place of the violation is searched for in the text, though, and the search knows nothing
of comments: it goes by the first occurrence of the subject, so a comment that names the subject may
attract it. Here it is said exactly when that happens; in all other cases the place moves along with
the text.
-/

namespace CallLibrary

open Document
open Outcome
open Text (BeginsIn Span)

/-- A stretch with more bytes in front of it. -/
def Text.Span.shift (bytes : Nat) (span : Span) : Span := ⟨span.offset + bytes, span.length⟩

def commentLine (comment : String) : String := "#" ++ comment ++ "\n"

def quoted (subject : String) : List Char := '"' :: subject.toList ++ ['"']

/-- A line in front of a source attracts the search for a subject: the subject stands there between
quotes, or it stands there without quotes while the source has it nowhere between quotes. -/
def Attracts (line source subject : String) : Prop :=
  subject ≠ "" ∧
    (BeginsIn (quoted subject) line.toList source.toList ∨
      (¬ quoted subject <:+: source.toList ∧
        BeginsIn subject.toList line.toList source.toList))

namespace Source

/-- The search for a subject: between quotes first, then anywhere. -/
theorem find?_eq {subject : String} (given : subject ≠ "") (source : Source) :
    source.find? subject =
      match Text.find? (quoted subject) source.text.toList with
      | some offset => some ⟨offset + 1, Text.byteLength subject.toList⟩
      | none => (Text.find? subject.toList source.text.toList).map fun offset =>
          ⟨offset, Text.byteLength subject.toList⟩ := by
  have nonempty : subject.isEmpty = false := by simpa using given
  simp only [find?, nonempty, Bool.false_eq_true, if_false]
  rfl

/-- Where nothing attracts the search, the place moves along with the text. -/
theorem find?_of_not_attracts {line text subject : String} (file : String)
    (unattracted : ¬ Attracts line text subject) :
    (Source.mk (line ++ text) file).find? subject =
      ((Source.mk text file).find? subject).map (Span.shift line.utf8ByteSize) := by
  by_cases empty : subject = ""
  · subst empty
    rfl
  have outside : ¬ BeginsIn (quoted subject) line.toList text.toList := by
    intro begins
    exact unattracted ⟨empty, .inl begins⟩
  have moved := Text.find?_append_of_not_beginsIn outside
  rw [find?_eq empty, find?_eq empty, String.toList_append, moved, ← Text.byteLength_toList]
  cases found : Text.find? (quoted subject) text.toList with
  | some offset =>
    simp only [Option.map_some, Span.shift, Option.some.injEq, Span.mk.injEq, and_true]
    omega
  | none =>
    have unquoted := Text.find?_eq_none_iff.mp found
    have bareOutside : ¬ BeginsIn subject.toList line.toList text.toList := by
      intro begins
      exact unattracted ⟨empty, .inr ⟨unquoted, begins⟩⟩
    rw [Text.find?_append_of_not_beginsIn bareOutside]
    simp only [Option.map_none, Option.map_map]
    congr 1
    funext offset
    simp only [Function.comp_apply, Span.shift, Span.mk.injEq, and_true]
    omega

/-- Where something attracts the search, it ends in the comment. -/
theorem exists_find?_of_attracts {comment text subject : String} (file : String)
    (attracted : Attracts (commentLine comment) text subject) :
    ∃ span, (Source.mk (commentLine comment ++ text) file).find? subject = some span ∧
      span.offset < (commentLine comment).utf8ByteSize := by
  obtain ⟨given, attracted⟩ := attracted
  rw [find?_eq given, String.toList_append]
  by_cases begins : BeginsIn (quoted subject) (commentLine comment).toList text.toList
  · -- The opening quote is no line feed, so the line goes on behind it.
    have noLineFeed : ¬ quoted subject <+: '\n' :: text.toList := by
      simp [quoted]
    have line : (commentLine comment).toList = ("#" ++ comment).toList ++ ['\n'] := by
      rw [commentLine, String.toList_append]
      rfl
    have size : (commentLine comment).utf8ByteSize = ("#" ++ comment).utf8ByteSize + 1 := by
      rw [commentLine, String.utf8ByteSize_append]
      rfl
    rw [line, Text.beginsIn_concat] at begins
    have inComment := begins.resolve_right noLineFeed
    obtain ⟨offset, found, before⟩ := Text.exists_find?_of_beginsIn inComment
    rw [Text.byteLength_toList] at before
    rw [line, List.append_assoc, List.singleton_append, found]
    exact ⟨_, rfl, by simp only; omega⟩
  · obtain ⟨unquoted, bareBegins⟩ := attracted.resolve_left begins
    obtain ⟨offset, found, before⟩ := Text.exists_find?_of_beginsIn bareBegins
    rw [Text.byteLength_toList] at before
    rw [Text.find?_append_of_not_beginsIn begins, Text.find?_eq_none_iff.mpr unquoted, found]
    exact ⟨_, rfl, before⟩

end Source

/-- A subject on one line that does not stand in the comment is not attracted by it. -/
theorem not_attracts_of_absent {comment subject : String} (oneLine : '\n' ∉ subject.toList)
    (absent : ¬ subject.toList <:+: ("#" ++ comment).toList) (text : String) :
    ¬ Attracts (commentLine comment) text subject := by
  intro ⟨given, attracted⟩
  have nonempty : subject.toList ≠ [] := by simpa using given
  have line : (commentLine comment).toList = ("#" ++ comment).toList ++ ['\n'] := by
    rw [commentLine, String.toList_append]
    rfl
  rw [line] at attracted
  rcases attracted with between | ⟨_, bare⟩
  · have oneLineQuoted : '\n' ∉ quoted subject := by simp [quoted, oneLine]
    have inside : subject.toList <:+: quoted subject := ⟨['"'], ['"'], rfl⟩
    exact absent
      (inside.trans (Text.infix_of_beginsIn_concat oneLineQuoted (by simp [quoted]) between))
  · exact absent (Text.infix_of_beginsIn_concat oneLine nonempty bare)

namespace Manifest

/-- A comment line changes nothing about the manifest that is read. -/
theorem decode_commentLine {text file comment : String}
    (unmarked : text.toList.head? ≠ some '\ufeff')
    (plain : ∀ c ∈ comment.toList, 0x20 ≤ c.toNat ∧ c.toNat ≠ 0x7F) {m : Manifest}
    (read : decode .toml ⟨text, file⟩ = .ok m) :
    decode .toml ⟨commentLine comment ++ text, file⟩ = .ok m := by
  have commentChars : ∀ c ∈ comment.toList, Toml.isCommentChar c = true := by
    intro c member
    obtain ⟨printed, notDelete⟩ := plain c member
    simp [Toml.isCommentChar, Toml.isStringChar, printed, notDelete]
  have spelled : (commentLine comment ++ text).toList =
      '#' :: (comment.toList ++ '\n' :: text.toList) := by
    simp [commentLine]
  rw [← toOption_eq_some, toOption_decode_toml] at read ⊢
  obtain ⟨node, known, value⟩ := Option.bind_eq_some_iff.mp read
  obtain ⟨mark, mark', entries, rfl, knownAgain⟩ :=
    Toml.exists_read?_comment commentChars unmarked known
  simp only [spelled, knownAgain, Option.bind_some]
  rw [Shape.toOption_read_table] at value ⊢
  exact value

/-- With a comment line in front a manifest breaks the same rule. The place of the violation moves
along with the text if the comment does not name the subject, and more generally unless the line
attracts the search for it; in that case the place is in the line. -/
theorem comment_lines (text file comment : String) (span : Option Span) (violation : Violation)
    (unmarked : text.toList.head? ≠ some '\ufeff')
    (plain : ∀ c ∈ comment.toList, 0x20 ≤ c.toNat ∧ c.toNat ≠ 0x7F)
    (rejected : parse .toml ⟨text, file⟩ = .error ⟨file, span, .violation violation⟩) :
    ∃ span', parse .toml ⟨commentLine comment ++ text, file⟩ =
        .error ⟨file, span', .violation violation⟩ ∧
      ('\n' ∉ violation.subject.toList →
        ¬ violation.subject.toList <:+: ("#" ++ comment).toList →
        span' = span.map (Span.shift (commentLine comment).utf8ByteSize)) ∧
      (¬ Attracts (commentLine comment) text violation.subject →
        span' = span.map (Span.shift (commentLine comment).utf8ByteSize)) ∧
      (Attracts (commentLine comment) text violation.subject →
        ∃ inLine, span' = some inLine ∧
          inLine.offset < (commentLine comment).utf8ByteSize) := by
  obtain ⟨m, read, violated, _, rfl⟩ := parse_eq_violation.mp rejected
  have readAgain := decode_commentLine unmarked plain read
  refine ⟨_, parse_eq_violation.mpr ⟨m, readAgain, violated, rfl, rfl⟩, ?_, ?_, ?_⟩
  · intro oneLine absent
    exact Source.find?_of_not_attracts file (not_attracts_of_absent oneLine absent text)
  · exact Source.find?_of_not_attracts file
  · exact Source.exists_find?_of_attracts file

end Manifest

/-- A manifest with a parameter that has a reserved word as its name. -/
def paySource : Source where
  text := "[system]\nname = \"Pay\"\n\n[[functions]]\nname = \"pay\"\n"
    ++ "parameters = [\"uint256 address\"]\n"
  file := "pay.toml"

theorem paySource_rejected : Manifest.parse .toml paySource =
    .error ⟨"pay.toml", some ⟨73, 7⟩,
      .violation (.reservedName "address" "parameter in 'pay'")⟩ := by
  decide +kernel

theorem pay_comment_lines :
    ∃ span', Manifest.parse .toml ⟨commentLine " due daily" ++ paySource.text, "pay.toml"⟩ =
        .error ⟨"pay.toml", span', .violation (.reservedName "address" "parameter in 'pay'")⟩ ∧
      span' = some ⟨85, 7⟩ := by
  have plain :
      (" due daily".toList.all fun c => decide (0x20 ≤ c.toNat ∧ c.toNat ≠ 0x7F)) = true := by
    decide
  simp only [List.all_eq_true, decide_eq_true_eq] at plain
  obtain ⟨span', rejected, absent, _⟩ := Manifest.comment_lines paySource.text "pay.toml"
    " due daily" _ _ (by decide) plain paySource_rejected
  exact ⟨span', rejected, absent (by decide) (by decide)⟩

/-- A comment that names the subject attracts the place of the violation. -/
theorem comment_attracts_span :
    Manifest.parse .toml paySource = .error ⟨"pay.toml", some ⟨73, 7⟩,
      .violation (.reservedName "address" "parameter in 'pay'")⟩ ∧
    Manifest.parse .toml ⟨commentLine " the address to pay" ++ paySource.text, "pay.toml"⟩ =
      .error ⟨"pay.toml", some ⟨6, 7⟩,
        .violation (.reservedName "address" "parameter in 'pay'")⟩ ∧
    (some ⟨73, 7⟩ : Option Span).map (Span.shift (commentLine " the address to pay").utf8ByteSize) =
      some ⟨94, 7⟩ :=
  ⟨paySource_rejected, by decide +kernel, by decide⟩

end CallLibrary
