import CallLibrary.Proofs.Layout.Rows

/-!
# Sections with blank lines between them

Files and libraries put one separator between any two of their parts. The parts stay recognisable in
the result: mapping goes through to them, their rows and their texts are separated in the same way,
and a result can be cut at any of its separators.
-/

namespace CallLibrary.Layout

variable {α β : Type}

theorem map_intercalate (f : α → β) (separator : List α) (parts : List (List α)) :
    (List.intercalate separator parts).map f =
      List.intercalate (separator.map f) (parts.map (·.map f)) := by
  induction parts with
  | nil => rfl
  | cons first rest ih =>
    cases rest with
    | nil => simp
    | cons second rest =>
      simp only [List.map_cons] at ih
      simp only [List.intercalate_cons_cons, List.map_cons, List.map_append, ih]

theorem intercalate_append {separator : List α} {front back : List (List α)} (some : front ≠ [])
    (more : back ≠ []) :
    List.intercalate separator (front ++ back) =
      List.intercalate separator front ++ separator ++ List.intercalate separator back := by
  induction front with
  | nil => exact absurd rfl some
  | cons first rest ih =>
    cases rest with
    | nil => rw [List.singleton_append, List.intercalate_cons_of_ne_nil more,
        List.intercalate_singleton]
    | cons second rest =>
      have others := ih (List.cons_ne_nil second rest)
      simp only [List.cons_append] at others ⊢
      simp only [List.intercalate_cons_cons, others, List.append_assoc]

theorem mem_of_mem_intercalate {separator : List α} {parts : List (List α)} {a : α}
    (member : a ∈ List.intercalate separator parts) :
    a ∈ separator ∨ ∃ part ∈ parts, a ∈ part := by
  induction parts with
  | nil => cases member
  | cons first rest ih =>
    cases rest with
    | nil => exact .inr ⟨first, by simp, by simpa using member⟩
    | cons second rest =>
      rw [List.intercalate_cons_cons, List.mem_append, List.mem_append] at member
      rcases member with (here | between) | later
      · exact .inr ⟨first, by simp, here⟩
      · exact .inl between
      · rcases ih later with between | ⟨part, listed, inside⟩
        · exact .inl between
        · exact .inr ⟨part, List.mem_cons_of_mem first listed, inside⟩

/-- Behind its first part, a text has the other parts each with a separator in front. -/
theorem intercalate_cons_eq_join (separator first : String) (rest : List String) :
    separator.intercalate (first :: rest) = first ++ String.join (rest.map (separator ++ ·)) := by
  induction rest generalizing first with
  | nil => simp
  | cons second rest ih =>
    rw [String.intercalate_cons_cons, ih, List.map_cons, String.join_cons]
    simp only [String.append_assoc]

/-- The rows of sections are the sections of rows. -/
theorem Fragment.rowsAll_intercalate (level : Nat) (groups : List (List Fragment)) :
    rowsAll level (List.intercalate [.blank] groups) =
      List.intercalate [.blank] (groups.map (rowsAll level)) := by
  induction groups with
  | nil => rfl
  | cons first rest ih =>
    cases rest with
    | nil => simp
    | cons second rest =>
      simp only [List.map_cons] at ih
      simp only [List.intercalate_cons_cons, List.map_cons, rowsAll_append, ih]
      rfl

/-- Blank rows between groups of rows are line feeds between their texts. -/
theorem Row.written_intercalate (indent : Indent) (groups : List (List Row)) :
    written indent (List.intercalate [.blank] groups) =
      String.intercalate "\n" (groups.map (written indent)) := by
  induction groups with
  | nil => rfl
  | cons first rest ih =>
    by_cases more : rest = []
    · rw [more, List.intercalate_singleton, List.map_singleton, String.intercalate_singleton]
    · have blank : written indent [.blank] = "\n" := written_singleton indent .blank
      have moreTexts : rest.map (written indent) ≠ [] := by simpa using more
      rw [List.intercalate_cons_of_ne_nil more, written_append, written_append, blank, ih,
        List.map_cons, String.intercalate_cons_of_ne_nil moreTexts]

/-- The text of fragments at a level, in the style of generated sources. -/
def renderAt (level : Nat) (fragments : List Fragment) : String :=
  ((Builder.mk .standard level "").addAll fragments).text

theorem renderAt_zero (fragments : List Fragment) : renderAt 0 fragments = render fragments := rfl

theorem renderAt_eq_written (level : Nat) (fragments : List Fragment) :
    renderAt level fragments = Row.written .standard (Fragment.rowsAll level fragments) := by
  rw [renderAt, Builder.addAll_eq_write]
  exact String.empty_append

theorem renderAt_append (level : Nat) (fragments others : List Fragment) :
    renderAt level (fragments ++ others) = renderAt level fragments ++ renderAt level others := by
  simp only [renderAt_eq_written, Fragment.rowsAll_append, Row.written_append]

/-- The text of a block: its body stands one level deeper between its two lines. -/
theorem renderAt_block (header : String) (body : List Fragment) (close : String) :
    renderAt 0 [.block header body (some close)] =
      header ++ "\n" ++ renderAt 1 body ++ (close ++ "\n") := by
  rw [renderAt_eq_written, renderAt_eq_written, Fragment.rowsAll, Fragment.rowsAll, Fragment.rows,
    List.append_nil, Row.written_append, Row.written_cons, Row.line_text_zero, Option.toList_some,
    List.map_singleton, Row.written_singleton, Row.line_text_zero]

/-- The text of sections is that of each of them, with empty lines between. -/
theorem renderAt_intercalate (level : Nat) (groups : List (List Fragment)) :
    renderAt level (List.intercalate [.blank] groups) =
      String.intercalate "\n" (groups.map (renderAt level)) := by
  rw [renderAt_eq_written, Fragment.rowsAll_intercalate, Row.written_intercalate, List.map_map]
  refine congrArg _ (List.map_congr_left fun group _ => ?_)
  exact (renderAt_eq_written level group).symm

end CallLibrary.Layout
