import CallLibrary.Proofs.Text.Occurrence

/-!
# Places of a text in another

A text stands in another at an offset if the bytes from there on are its bytes in UTF-8. No byte at
the front of a character stands in the middle of another one, so such an offset is always a boundary
between characters, and cutting the bytes is the same as cutting the text. The search goes through
characters and finds the first of these offsets.
-/

namespace CallLibrary.Text

/-- The bytes of a text from an offset on are those of another text. -/
def StandsAt (needle text : String) (offset : Nat) : Prop :=
  text.toByteArray.extract offset (offset + needle.utf8ByteSize) = needle.toByteArray

def StandsFirstAt (needle text : String) (offset : Nat) : Prop :=
  StandsAt needle text offset ∧ ∀ earlier < offset, ¬ StandsAt needle text earlier

instance (needle text : String) (offset : Nat) : Decidable (StandsAt needle text offset) :=
  inferInstanceAs (Decidable
    (text.toByteArray.extract offset (offset + needle.utf8ByteSize) = needle.toByteArray))

instance (needle text : String) (offset : Nat) : Decidable (StandsFirstAt needle text offset) :=
  inferInstanceAs (Decidable
    (StandsAt needle text offset ∧ ∀ earlier < offset, ¬ StandsAt needle text earlier))

variable {needle text : String} {offset : Nat}

theorem StandsAt.offset_add_le (given : needle ≠ "") (stands : StandsAt needle text offset) :
    offset + needle.utf8ByteSize ≤ text.utf8ByteSize := by
  have nonempty : needle.utf8ByteSize ≠ 0 := by simpa using given
  have size := congrArg ByteArray.size stands
  rw [ByteArray.size_extract, String.size_toByteArray, String.size_toByteArray] at size
  omega

/-- Both ends of a place are boundaries between characters. -/
theorem StandsAt.isValid (given : needle ≠ "") (stands : StandsAt needle text offset) :
    String.Pos.Raw.IsValid text ⟨offset⟩ ∧
      String.Pos.Raw.IsValid text ⟨offset + needle.utf8ByteSize⟩ := by
  have nonempty : needle.utf8ByteSize ≠ 0 := by simpa using given
  have inside := stands.offset_add_le given
  have whole : (text.toByteArray.extract offset (offset + needle.utf8ByteSize)).IsValidUTF8 := by
    rw [show text.toByteArray.extract offset (offset + needle.utf8ByteSize) = needle.toByteArray
      from stands]
    exact needle.isValidUTF8
  have ends := (String.Pos.Raw.isValidUTF8_extract_iff (s := text) ⟨offset⟩
    ⟨offset + needle.utf8ByteSize⟩ (Nat.le_add_right _ _) inside).mp whole
  refine ends.resolve_left fun same => ?_
  have equal := congrArg String.Pos.Raw.byteIdx same
  simp only at equal
  omega

/-- Cutting the bytes is cutting the text. -/
theorem standsAt_iff (given : needle ≠ "") :
    StandsAt needle text offset ↔
      ∃ before after, text = before ++ needle ++ after ∧ before.utf8ByteSize = offset := by
  constructor
  · intro stands
    obtain ⟨begins, ends⟩ := stands.isValid given
    obtain ⟨before, rest, cut, here⟩ := String.Pos.Raw.isValid_iff_exists_append.mp begins
    obtain ⟨front, after, cut', there⟩ := String.Pos.Raw.isValid_iff_exists_append.mp ends
    have size : offset = before.utf8ByteSize := congrArg String.Pos.Raw.byteIdx here
    have size' : offset + needle.utf8ByteSize = front.utf8ByteSize :=
      congrArg String.Pos.Raw.byteIdx there
    have first : text.toByteArray.extract 0 offset = before.toByteArray := by
      rw [cut, String.toByteArray_append,
        ByteArray.extract_append_eq_left (by rw [String.size_toByteArray, size])]
    have inside : offset + needle.utf8ByteSize ≤ text.toByteArray.size := by
      rw [String.size_toByteArray]
      exact stands.offset_add_le given
    have last : text.toByteArray.extract (offset + needle.utf8ByteSize) text.toByteArray.size =
        after.toByteArray := by
      rw [cut', String.toByteArray_append,
        ByteArray.extract_append_eq_right (by rw [String.size_toByteArray, size'])
          (by rw [ByteArray.size_append])]
    have upToEnd := ByteArray.extract_eq_extract_append_extract (a := text.toByteArray) offset
      (Nat.zero_le _) (Nat.le_add_right offset needle.utf8ByteSize)
    have whole := ByteArray.extract_eq_extract_append_extract (a := text.toByteArray)
      (offset + needle.utf8ByteSize) (Nat.zero_le _) inside
    refine ⟨before, after, ?_, size.symm⟩
    rw [← String.toByteArray_inj, String.toByteArray_append, String.toByteArray_append, ← first,
      ← stands, ← last, ← upToEnd, ← whole, ByteArray.extract_zero_size]
  · rintro ⟨before, after, rfl, rfl⟩
    have size : before.utf8ByteSize = before.toByteArray.size := String.size_toByteArray.symm
    rw [StandsAt, String.toByteArray_append, String.toByteArray_append, ByteArray.append_assoc,
      ← Nat.add_zero before.utf8ByteSize, Nat.add_assoc, ByteArray.extract_append_size_add' size,
      Nat.zero_add, ByteArray.extract_append_eq_left String.size_toByteArray.symm]

/-! ## The search -/

theorem find?_append_self (needle rest : List Char) : find? needle (needle ++ rest) = some 0 := by
  cases needle with
  | nil => cases rest <;> rfl
  | cons c needle =>
    have starts : (c :: needle).isPrefixOf (c :: needle ++ rest) = true :=
      List.isPrefixOf_iff_prefix.mpr (List.prefix_append _ _)
    rw [List.cons_append] at starts ⊢
    rw [find?, if_pos starts]

/-- Where a text occurs, the search does not go beyond it. -/
theorem exists_find?_le (needle before after : List Char) :
    ∃ offset, find? needle (before ++ (needle ++ after)) = some offset ∧
      offset ≤ byteLength before := by
  by_cases begins : BeginsIn needle before (needle ++ after)
  · obtain ⟨offset, found, inFront⟩ := exists_find?_of_beginsIn begins
    exact ⟨offset, found, Nat.le_of_lt inFront⟩
  · rw [find?_append_of_not_beginsIn begins, find?_append_self]
    exact ⟨byteLength before, rfl, Nat.le_refl _⟩

/-- What the search finds is an occurrence. -/
theorem exists_parts_of_find? {needle text : List Char} {offset : Nat}
    (found : find? needle text = some offset) :
    ∃ before after, text = before ++ (needle ++ after) ∧ byteLength before = offset := by
  induction text generalizing offset with
  | nil =>
    rw [find?] at found
    split at found
    next empty =>
      cases found
      exact ⟨[], [], by rw [List.isEmpty_iff.mp empty]; rfl, rfl⟩
    next => cases found
  | cons c rest ih =>
    rw [find?] at found
    split at found
    next starts =>
      cases found
      obtain ⟨after, whole⟩ := List.isPrefixOf_iff_prefix.mp starts
      exact ⟨[], after, whole.symm, rfl⟩
    next =>
      obtain ⟨later, foundLater, rfl⟩ := Option.map_eq_some_iff.mp found
      obtain ⟨before, after, rfl, size⟩ := ih foundLater
      exact ⟨c :: before, after, rfl, by rw [byteLength, size]⟩

theorem standsAt_iff_toList (given : needle ≠ "") :
    StandsAt needle text offset ↔ ∃ before after : List Char,
      text.toList = before ++ (needle.toList ++ after) ∧ byteLength before = offset := by
  rw [standsAt_iff given]
  constructor
  · rintro ⟨before, after, rfl, rfl⟩
    refine ⟨before.toList, after.toList, ?_, byteLength_toList before⟩
    rw [String.toList_append, String.toList_append, List.append_assoc]
  · rintro ⟨before, after, parts, rfl⟩
    refine ⟨String.ofList before, String.ofList after, ?_, ?_⟩
    · rw [← String.toList_inj, parts]
      simp
    · rw [← byteLength_toList, String.toList_ofList]

/-- What is found stands where it is found. -/
theorem standsAt_of_find? (given : needle ≠ "")
    (found : find? needle.toList text.toList = some offset) : StandsAt needle text offset :=
  (standsAt_iff_toList given).mpr (exists_parts_of_find? found)

/-- What stands at an offset is found there or before. -/
theorem StandsAt.exists_find? (given : needle ≠ "") (stands : StandsAt needle text offset) :
    ∃ first, find? needle.toList text.toList = some first ∧ first ≤ offset := by
  obtain ⟨before, after, parts, rfl⟩ := (standsAt_iff_toList given).mp stands
  rw [parts]
  exact exists_find?_le needle.toList before after

/-- The search gives the first place. -/
theorem find?_eq_some_iff (given : needle ≠ "") :
    find? needle.toList text.toList = some offset ↔ StandsFirstAt needle text offset := by
  constructor
  · intro found
    refine ⟨standsAt_of_find? given found, fun earlier before stands => ?_⟩
    obtain ⟨first, foundFirst, bound⟩ := stands.exists_find? given
    rw [found] at foundFirst
    cases foundFirst
    omega
  · rintro ⟨stands, none⟩
    obtain ⟨first, found, bound⟩ := stands.exists_find? given
    have notEarlier : ¬ first < offset :=
      fun before => none first before (standsAt_of_find? given found)
    have same : first = offset := by omega
    rw [found, same]

/-- The search gives nothing exactly where there is no place. -/
theorem find?_eq_none_iff_not_standsAt (given : needle ≠ "") :
    find? needle.toList text.toList = none ↔ ∀ k, ¬ StandsAt needle text k := by
  constructor
  · intro nothing k stands
    obtain ⟨first, found, _⟩ := stands.exists_find? given
    rw [nothing] at found
    cases found
  · intro nowhere
    cases found : find? needle.toList text.toList with
    | none => rfl
    | some offset => exact absurd (standsAt_of_find? given found) (nowhere offset)

example : StandsFirstAt "é" "aéé" 1 ∧ ¬ StandsAt "é" "aéé" 2 ∧ StandsAt "é" "aéé" 3 := by decide

end CallLibrary.Text
