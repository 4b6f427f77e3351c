import CallLibrary.Text.Blank

/-!
# Words of a text

A text cut into words has no blanks in its words and no empty ones. The words of a text are its
maximal runs of characters that are not blank, whatever blanks stand around them. Joined by single
spaces, words are cut apart again as they were.
-/

namespace CallLibrary.Text

variable {isMark : Char → Bool}

theorem pieces_eq_splitOnP (text : List Char) : pieces isMark text = text.splitOnP isMark := by
  induction text with
  | nil => rfl
  | cons c rest ih =>
    rw [List.splitOnP_cons_eq_if_modifyHead, ← ih]
    by_cases marked : isMark c = true <;> simp [pieces, split, marked]

theorem unmarked_of_mem_pieces {text piece : List Char} (member : piece ∈ pieces isMark text) :
    ∀ c ∈ piece, isMark c = false := by
  induction text generalizing piece with
  | nil => simp_all [pieces, split]
  | cons c rest ih =>
    simp only [pieces, split] at member ih
    by_cases marked : isMark c = true
    · simp only [marked, if_true, List.mem_cons] at member
      rcases member with rfl | inside
      · simp
      · exact ih (List.mem_cons.mpr inside)
    · simp only [marked, List.mem_cons] at member
      rcases member with rfl | inside
      · exact List.forall_mem_cons.mpr ⟨by simpa using marked, ih List.mem_cons_self⟩
      · exact ih (List.mem_cons_of_mem _ inside)

structure IsWord (word : String) : Prop where
  nonempty : word ≠ ""
  unbroken : ∀ c ∈ word.toList, isBlank c = false

theorem isWord_of_mem_words {text word : String} (member : word ∈ words text) : IsWord word := by
  simp only [words, List.mem_map, List.mem_filter] at member
  obtain ⟨piece, ⟨inside, nonempty⟩, rfl⟩ := member
  constructor
  · intro empty
    simp [String.ofList_eq_empty_iff.mp empty] at nonempty
  · rw [String.toList_ofList]
    exact unmarked_of_mem_pieces inside

/-- A blank in front belongs to no word. -/
theorem words_cons_blank {c : Char} (blank : isBlank c = true) (rest : List Char) :
    words (.ofList (c :: rest)) = words (.ofList rest) := by
  simp [words, pieces, split, blank]

/-- A word ends at the first blank. -/
theorem words_append_blank {word : String} (isWord : IsWord word) {c : Char}
    (blank : isBlank c = true) (rest : List Char) :
    words (.ofList (word.toList ++ c :: rest)) = word :: words (.ofList rest) := by
  have full : word.toList.isEmpty = false := by simpa using isWord.nonempty
  unfold words
  rw [String.toList_ofList, pieces_eq_splitOnP,
    List.splitOnP_append_cons_of_forall_mem isWord.unbroken c blank, ← pieces_eq_splitOnP]
  simp [full]

theorem words_space {word : String} (isWord : IsWord word) (rest : String) :
    words (word ++ " " ++ rest) = word :: words rest := by
  have text : word ++ " " ++ rest = .ofList (word.toList ++ ' ' :: rest.toList) := by
    simp [← String.toList_inj]
  rw [text, words_append_blank isWord (by decide), String.ofList_toList]

theorem words_of_isWord {word : String} (isWord : IsWord word) : words word = [word] := by
  have full : word.toList.isEmpty = false := by simpa using isWord.nonempty
  simp [words, pieces_eq_splitOnP, List.splitOnP_eq_singleton isWord.unbroken, full]

/-- A text is one word exactly if reading its words gives this one. -/
theorem isWord_iff {word : String} : IsWord word ↔ words word = [word] := by
  constructor
  · exact words_of_isWord
  · intro one
    exact isWord_of_mem_words (one ▸ List.mem_singleton_self word)

instance (word : String) : Decidable (IsWord word) := decidable_of_iff _ isWord_iff.symm

/-- Words with single spaces between them are read back. -/
theorem words_intercalate {list : List String} (areWords : ∀ word ∈ list, IsWord word) :
    words (" ".intercalate list) = list := by
  induction list with
  | nil => decide
  | cons word rest ih =>
    obtain ⟨first, others⟩ := List.forall_mem_cons.mp areWords
    cases rest with
    | nil => rw [String.intercalate_singleton, words_of_isWord first]
    | cons next rest => rw [String.intercalate_cons_cons, words_space first, ih others]

/-! ## Runs -/

/-- Words are the maximal runs of characters that are not blank in a text, in order. Blanks may
stand anywhere around them, and behind a word stands a blank or nothing. -/
inductive Runs : List Char → List String → Prop
  | nil : Runs [] []
  | blank {c : Char} {text : List Char} {list : List String} :
    isBlank c = true → Runs text list → Runs (c :: text) list
  | last {word : String} : IsWord word → Runs word.toList [word]
  | word {word : String} {c : Char} {text : List Char} {list : List String} :
    IsWord word → isBlank c = true → Runs text list → Runs (word.toList ++ c :: text) (word :: list)

/-- The words of a text are its only runs. -/
theorem words_of_runs {text : List Char} {list : List String} (runs : Runs text list) :
    words (.ofList text) = list := by
  induction runs with
  | nil => rfl
  | blank isBlank _ ih => rw [words_cons_blank isBlank, ih]
  | last isWord => rw [String.ofList_toList, words_of_isWord isWord]
  | word isWord isBlank _ ih => rw [words_append_blank isWord isBlank, ih]

theorem isWord_takeWhile {c : Char} (notBlank : isBlank c = false) (rest : List Char) :
    IsWord (.ofList ((c :: rest).takeWhile (!isBlank ·))) := by
  constructor
  · simp [notBlank]
  · intro d member
    rw [String.toList_ofList] at member
    simpa using List.all_eq_true.mp List.all_takeWhile d member

/-- A text is empty, starts with a blank, is a single word or starts with a word that a blank ends.
-/
theorem exists_runs (text : List Char) : ∃ list, Runs text list := by
  -- On the length, because a word is taken away as a whole.
  induction size : text.length using Nat.strongRecOn generalizing text with
  | ind size ih =>
    cases text with
    | nil => exact ⟨[], .nil⟩
    | cons c rest =>
      rw [List.length_cons] at size
      by_cases blank : isBlank c = true
      · obtain ⟨list, runs⟩ := ih rest.length (by omega) rest rfl
        exact ⟨list, .blank blank runs⟩
      · have isWord := isWord_takeWhile (by simpa using blank) rest
        have parts := List.takeWhile_append_dropWhile (p := (!isBlank ·)) (l := c :: rest)
        cases behind : (c :: rest).dropWhile (!isBlank ·) with
        | nil =>
          rw [behind, List.append_nil] at parts
          have last := Runs.last isWord
          rw [String.toList_ofList, parts] at last
          exact ⟨_, last⟩
        | cons d later =>
          have ends : isBlank d = true := by
            simpa [behind] using List.head_dropWhile_not (!isBlank ·) (l := c :: rest)
          rw [behind] at parts
          have lengths := congrArg List.length parts
          rw [List.length_append, List.length_cons, List.length_cons] at lengths
          obtain ⟨list, runs⟩ := ih later.length (by omega) later rfl
          have more := Runs.word isWord ends runs
          rw [String.toList_ofList, parts] at more
          exact ⟨_, more⟩

/-- The words of a text are its runs and nothing else. -/
theorem runs_iff {text : String} {list : List String} :
    Runs text.toList list ↔ words text = list := by
  constructor
  · intro runs
    rw [← words_of_runs runs, String.ofList_toList]
  · rintro rfl
    obtain ⟨list, runs⟩ := exists_runs text.toList
    rwa [← String.ofList_toList (s := text), words_of_runs runs, String.ofList_toList]

end CallLibrary.Text
