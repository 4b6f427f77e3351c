import CallLibrary.Proofs.Layout.Lines

/-!
# How lines begin

Lines of code are told apart by the texts that they begin with. What follows such a text may come
from anywhere: once every line of some fragments is known to begin with one of a few texts, no line
begins with a text that clashes with all of these.
-/

namespace CallLibrary.Layout

/-- The texts of the lines of fragments, at whatever level they stand. -/
def contents (fragments : List Fragment) : List String :=
  (Fragment.rowsAll 0 fragments).map Row.content

/-- Some line begins with a text. -/
def Opens (fragments : List Fragment) (opening : String) : Prop :=
  ∃ line ∈ contents fragments, opening.toList <+: line.toList

def OpensWithin (fragments : List Fragment) (openings : List String) : Prop :=
  ∀ line ∈ contents fragments, ∃ opening ∈ openings, opening.toList <+: line.toList

/-- The bytes of a text. Unlike its characters they are computed one by one, so that long texts can
be told apart by their first few. -/
def bytes (text : String) : List UInt8 := text.toByteArray.data.toList

/-- Two texts such that no line begins with both. -/
def Clash (opening other : String) : Prop :=
  ¬ bytes opening <+: bytes other ∧ ¬ bytes other <+: bytes opening

instance (opening other : String) : Decidable (Clash opening other) :=
  inferInstanceAs (Decidable (¬ bytes opening <+: bytes other ∧ ¬ bytes other <+: bytes opening))

theorem bytes_append (text other : String) : bytes (text ++ other) = bytes text ++ bytes other := by
  simp [bytes, String.toByteArray_append]

theorem bytes_isPrefix {opening line : String} (begins : opening.toList <+: line.toList) :
    bytes opening <+: bytes line := by
  obtain ⟨rest, whole⟩ := begins
  have parts : line = opening ++ String.ofList rest := by
    rw [← String.toList_inj, String.toList_append, String.toList_ofList, whole]
  rw [parts, bytes_append]
  exact List.prefix_append _ _

theorem contents_append (fragments others : List Fragment) :
    contents (fragments ++ others) = contents fragments ++ contents others := by
  simp only [contents, Fragment.rowsAll_append, List.map_append]

theorem prefix_append_text (opening rest : String) :
    opening.toList <+: (opening ++ rest).toList := by
  rw [String.toList_append]
  exact List.prefix_append _ _

theorem opens_append {fragments others : List Fragment} {opening : String} :
    Opens (fragments ++ others) opening ↔ Opens fragments opening ∨ Opens others opening := by
  simp only [Opens, contents_append, List.mem_append, or_and_right, exists_or]

theorem opens_line (opening rest : String) : Opens [.line (opening ++ rest)] opening :=
  ⟨_, List.mem_singleton_self _, prefix_append_text opening rest⟩

theorem opensWithin_append {fragments others : List Fragment} {openings more : List String}
    (first : OpensWithin fragments openings) (second : OpensWithin others more) :
    OpensWithin (fragments ++ others) (openings ++ more) := by
  intro line member
  rw [contents_append, List.mem_append] at member
  rcases member with here | there
  · obtain ⟨opening, listed, begins⟩ := first line here
    exact ⟨opening, List.mem_append_left _ listed, begins⟩
  · obtain ⟨opening, listed, begins⟩ := second line there
    exact ⟨opening, List.mem_append_right _ listed, begins⟩

theorem OpensWithin.mono {fragments : List Fragment} {openings more : List String}
    (within : OpensWithin fragments openings) (included : openings ⊆ more) :
    OpensWithin fragments more := by
  intro line member
  obtain ⟨opening, listed, begins⟩ := within line member
  exact ⟨opening, included listed, begins⟩

theorem opensWithin_line (opening rest : String) :
    OpensWithin [.line (opening ++ rest)] [opening] := by
  intro line member
  obtain rfl := List.mem_singleton.mp member
  exact ⟨opening, List.mem_singleton_self _, prefix_append_text opening rest⟩

theorem opensWithin_contents (fragments : List Fragment) :
    OpensWithin fragments (contents fragments) :=
  fun line member => ⟨line, member, List.prefix_rfl⟩

/-- No line begins with a text that clashes with all that lines begin with. -/
theorem OpensWithin.not_opens {fragments : List Fragment} {openings : List String}
    (within : OpensWithin fragments openings) {opening : String}
    (clash : ∀ other ∈ openings, Clash opening other) : ¬ Opens fragments opening := by
  rintro ⟨line, member, begins⟩
  obtain ⟨other, listed, beginsOther⟩ := within line member
  obtain ⟨notBefore, notBehind⟩ := clash other listed
  rcases List.prefix_or_prefix_of_prefix (bytes_isPrefix begins)
      (bytes_isPrefix beginsOther) with before | behind
  · exact notBefore before
  · exact notBehind behind

end CallLibrary.Layout
