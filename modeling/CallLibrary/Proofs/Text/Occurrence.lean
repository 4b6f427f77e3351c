import Mathlib.Data.List.Infix
import CallLibrary.Text.Span

/-!
# Where a text is first found

A search goes through a text from its front and stops at the first occurrence. In a text of two
parts an occurrence may begin in the front part and reach into the back part. If none begins in the
front part, the search finds what it finds in the back part alone; otherwise it ends in the front
part, whatever the back part holds.
-/

namespace CallLibrary.Text

/-- An occurrence begins in the front part of a text. -/
def BeginsIn (needle front back : List Char) : Prop :=
  ∃ before after, front = before ++ after ∧ after ≠ [] ∧ needle <+: after ++ back

variable {needle front back : List Char}

theorem not_beginsIn_nil : ¬ BeginsIn needle [] back := by
  intro ⟨before, after, parts, nonempty, _⟩
  exact nonempty (List.append_eq_nil_iff.mp parts.symm).2

theorem beginsIn_cons {c : Char} :
    BeginsIn needle (c :: front) back ↔
      needle <+: c :: (front ++ back) ∨ BeginsIn needle front back := by
  constructor
  · intro ⟨before, after, parts, nonempty, starts⟩
    cases before with
    | nil =>
      rw [List.nil_append] at parts
      subst parts
      exact .inl starts
    | cons d before =>
      obtain ⟨rfl, rfl⟩ := List.cons.inj parts
      exact .inr ⟨before, after, rfl, nonempty, starts⟩
  · intro begins
    rcases begins with here | ⟨before, after, rfl, nonempty, starts⟩
    · exact ⟨[], c :: front, rfl, by simp, here⟩
    · exact ⟨c :: before, after, rfl, nonempty, starts⟩

theorem beginsIn_concat {c : Char} :
    BeginsIn needle (front ++ [c]) back ↔
      BeginsIn needle front (c :: back) ∨ needle <+: c :: back := by
  induction front with
  | nil => simp [beginsIn_cons, not_beginsIn_nil]
  | cons d front ih => simp only [List.cons_append, beginsIn_cons, ih, List.append_assoc,
      List.nil_append, or_assoc]

/-- Where nothing begins in the front part, the search goes on behind it. -/
theorem find?_append_of_not_beginsIn (outside : ¬ BeginsIn needle front back) :
    find? needle (front ++ back) = (find? needle back).map (byteLength front + ·) := by
  induction front with
  | nil => simp [byteLength]
  | cons c front ih =>
    rw [beginsIn_cons, not_or] at outside
    obtain ⟨notHere, later⟩ := outside
    have elsewhere : ¬ needle.isPrefixOf (c :: (front ++ back)) = true :=
      fun starts => notHere (List.isPrefixOf_iff_prefix.mp starts)
    rw [List.cons_append, find?, if_neg elsewhere, ih later, Option.map_map, byteLength]
    congr 1
    funext offset
    exact (Nat.add_assoc _ _ _).symm

/-- Where something begins in the front part, the search ends there. -/
theorem exists_find?_of_beginsIn (inside : BeginsIn needle front back) :
    ∃ offset, find? needle (front ++ back) = some offset ∧ offset < byteLength front := by
  induction front with
  | nil => exact absurd inside not_beginsIn_nil
  | cons c front ih =>
    have positive : 0 < c.utf8Size := c.utf8Size_pos
    rw [List.cons_append, find?, byteLength]
    by_cases here : needle <+: c :: (front ++ back)
    · rw [if_pos (List.isPrefixOf_iff_prefix.mpr here)]
      exact ⟨0, rfl, by omega⟩
    · rw [if_neg fun starts => here (List.isPrefixOf_iff_prefix.mp starts)]
      have later := (beginsIn_cons.mp inside).resolve_left here
      obtain ⟨offset, found, before⟩ := ih later
      rw [found]
      exact ⟨c.utf8Size + offset, rfl, by omega⟩

/-- Nothing is found exactly in texts without an occurrence. -/
theorem find?_eq_none_iff {text : List Char} : find? needle text = none ↔ ¬ needle <:+: text := by
  induction text with
  | nil => simp [find?]
  | cons c rest ih =>
    rw [find?, List.infix_cons_iff, ← List.isPrefixOf_iff_prefix]
    by_cases here : needle.isPrefixOf (c :: rest) = true
    · simp [here]
    · simp [here, ih]

theorem prefix_of_prefix_append_cons {c : Char} (absent : c ∉ needle)
    (starts : needle <+: front ++ c :: back) : needle <+: front := by
  induction front generalizing needle with
  | nil =>
    cases needle with
    | nil => exact List.nil_prefix
    | cons first rest =>
      obtain ⟨same, _⟩ := List.cons_prefix_cons.mp starts
      simp [same] at absent
  | cons d front ih =>
    cases needle with
    | nil => exact List.nil_prefix
    | cons first rest =>
      obtain ⟨rfl, later⟩ := List.cons_prefix_cons.mp starts
      have absentLater : c ∉ rest := fun member => absent (List.mem_cons_of_mem _ member)
      exact List.cons_prefix_cons.mpr ⟨rfl, ih absentLater later⟩

/-- What begins before a character that it does not hold ends before it. -/
theorem infix_of_beginsIn_concat {c : Char} (absent : c ∉ needle) (given : needle ≠ [])
    (begins : BeginsIn needle (front ++ [c]) back) : needle <:+: front := by
  rcases beginsIn_concat.mp begins with ⟨before, after, rfl, _, starts⟩ | starts
  · exact (prefix_of_prefix_append_cons absent starts).isInfix.trans
      (List.suffix_append before after).isInfix
  · have behindNothing : needle <+: [] ++ c :: back := starts
    have nothing := prefix_of_prefix_append_cons absent behindNothing
    exact absurd (List.prefix_nil.mp nothing) given

/-- The bytes of a text are those of its characters. -/
theorem byteLength_toList (s : String) : byteLength s.toList = s.utf8ByteSize := by
  have each (l : List Char) : byteLength l = (String.ofList l).utf8ByteSize := by
    induction l with
    | nil => rfl
    | cons c rest ih =>
      rw [byteLength, ih, String.ofList_cons, String.utf8ByteSize_append,
        String.utf8ByteSize_singleton]
  rw [each, String.ofList_toList]

end CallLibrary.Text
