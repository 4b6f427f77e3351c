import CallLibrary.Solidity.Identifier
import CallLibrary.Text.LowerCase

/-!
# Which texts are identifiers

The checker reads a name from its front and gives the first defect. Here identifiers are described
by their characters alone, and the checker is shown to accept exactly these. Identifiers stay
identifiers when characters of the right kind are added behind, and when their first letter is
lowered.
-/

namespace CallLibrary.Solidity

def IsCapital (c : Char) : Prop := 'A' ≤ c ∧ c ≤ 'Z'

/-- An ASCII letter, an underscore or a dollar sign. -/
def StartsName (c : Char) : Prop := IsCapital c ∨ ('a' ≤ c ∧ c ≤ 'z') ∨ c = '_' ∨ c = '$'

/-- One of these or a digit. -/
def ContinuesName (c : Char) : Prop := StartsName c ∨ ('0' ≤ c ∧ c ≤ '9')

instance (c : Char) : Decidable (IsCapital c) :=
  inferInstanceAs (Decidable ('A' ≤ c ∧ c ≤ 'Z'))

instance (c : Char) : Decidable (StartsName c) :=
  inferInstanceAs (Decidable (IsCapital c ∨ ('a' ≤ c ∧ c ≤ 'z') ∨ c = '_' ∨ c = '$'))

instance (c : Char) : Decidable (ContinuesName c) :=
  inferInstanceAs (Decidable (StartsName c ∨ ('0' ≤ c ∧ c ≤ '9')))

/-- A character that starts a name, followed by any number of characters that continue it. -/
def IsIdentifier (name : String) : Prop :=
  ∃ first rest, name.toList = first :: rest ∧ StartsName first ∧ ∀ c ∈ rest, ContinuesName c

/-! ## The checker -/

theorem isAlpha_iff {c : Char} : c.isAlpha = true ↔ IsCapital c ∨ ('a' ≤ c ∧ c ≤ 'z') := by
  change (decide ('A' ≤ c ∧ c ≤ 'Z') || (decide ('a' ≤ c) && decide (c ≤ 'z'))) = true ↔ _
  simp only [IsCapital, Bool.or_eq_true, Bool.and_eq_true, decide_eq_true_eq]

theorem isDigit_iff {c : Char} : c.isDigit = true ↔ '0' ≤ c ∧ c ≤ '9' := by
  change (decide ('0' ≤ c) && decide (c ≤ '9')) = true ↔ _
  simp only [Bool.and_eq_true, decide_eq_true_eq]

theorem isNameStart_iff {c : Char} : isNameStart c = true ↔ StartsName c := by
  simp only [isNameStart, StartsName, Bool.or_eq_true, isAlpha_iff, beq_iff_eq, or_assoc]

theorem isNameRest_iff {c : Char} : isNameRest c = true ↔ ContinuesName c := by
  have either : isNameRest c = true ↔ isNameStart c = true ∨ c.isDigit = true := by
    change ((c.isAlpha || c.isDigit) || c == '_' || c == '$') = true ↔ _
    simp only [isNameStart, Bool.or_eq_true]
    rw [or_right_comm (a := c.isAlpha = true), or_right_comm]
  rw [either, isNameStart_iff, isDigit_iff, ContinuesName]

theorem isReserved_iff {name : String} : isReserved name = true ↔ name ∈ reservedWords := by
  simp [isReserved]

theorem isIdentifier_iff {name : String} {first : Char} {rest : List Char}
    (spelled : name.toList = first :: rest) :
    IsIdentifier name ↔ StartsName first ∧ ∀ c ∈ rest, ContinuesName c := by
  constructor
  · rintro ⟨_, _, spelled', starts, continues⟩
    obtain ⟨rfl, rfl⟩ := List.cons.inj (spelled.symm.trans spelled')
    exact ⟨starts, continues⟩
  · rintro ⟨starts, continues⟩
    exact ⟨first, rest, spelled, starts, continues⟩

/-- The checker finds no defect exactly in identifiers. -/
theorem nameDefect?_eq_none {name : String} : nameDefect? name = none ↔ IsIdentifier name := by
  cases spelled : name.toList with
  | nil => simp [nameDefect?, IsIdentifier, spelled, nameDefectOf?]
  | cons first rest =>
    rw [isIdentifier_iff spelled, nameDefect?, spelled, nameDefectOf?, ← isNameStart_iff]
    simp only [← isNameRest_iff]
    by_cases starts : isNameStart first = true
    · simp [starts]
    · simp [starts]

/-! ## Reserved words -/

/-- Reserved words are written in small letters. -/
theorem small_of_reserved {word : String} (reserved : word ∈ reservedWords) :
    ∀ c ∈ word.toList, 'a' ≤ c ∧ c ≤ 'z' := by
  have each : (reservedWords.all fun word =>
      word.toList.all fun c => decide ('a' ≤ c ∧ c ≤ 'z')) = true := by decide +kernel
  simp only [List.all_eq_true, decide_eq_true_eq] at each
  exact each word reserved

/-- They are spelled like identifiers. -/
theorem isIdentifier_of_reserved {word : String} (reserved : word ∈ reservedWords) :
    IsIdentifier word := by
  have starts : ∀ c ∈ word.toList, StartsName c := fun c member =>
    .inr (.inl (small_of_reserved reserved c member))
  cases spelled : word.toList with
  | nil =>
    have empty : word = "" := by simpa using spelled
    exact absurd (empty ▸ reserved) (by decide)
  | cons first rest =>
    rw [spelled, List.forall_mem_cons] at starts
    exact (isIdentifier_iff spelled).mpr ⟨starts.1, fun c member => .inl (starts.2 c member)⟩

/-- An ending with another character makes a name that is not reserved. -/
theorem append_not_reserved {ending : String}
    (mixed : ∃ c ∈ ending.toList, ¬ ('a' ≤ c ∧ c ≤ 'z')) (name : String) :
    name ++ ending ∉ reservedWords := by
  intro reserved
  obtain ⟨c, member, other⟩ := mixed
  exact other (small_of_reserved reserved c (by simp [member]))

/-- A text without a given ending is no text with that ending. -/
theorem ne_append_of_not_suffix {name ending : String}
    (other : ¬ ending.toList <:+ name.toList) (front : String) : name ≠ front ++ ending := by
  intro same
  apply other
  rw [same, String.toList_append]
  exact List.suffix_append front.toList ending.toList

/-! ## Identifiers made of identifiers -/

/-- What holds of all ASCII characters holds of every character that starts a name. -/
theorem StartsName.of_ascii {p : Char → Prop} (each : ∀ code : Fin 128, p (Char.ofNat code))
    {c : Char} (starts : StartsName c) : p c := by
  have small : c.toNat < 128 := by
    simp only [StartsName, IsCapital, Char.le_def, UInt32.le_iff_toNat_le] at starts
    rcases starts with ⟨_, last⟩ | ⟨_, last⟩ | rfl | rfl
    · exact Nat.lt_of_le_of_lt last (by decide)
    · exact Nat.lt_of_le_of_lt last (by decide)
    · decide
    · decide
  have here := each ⟨c.toNat, small⟩
  rwa [Char.ofNat_toNat] at here

theorem StartsName.toLower {c : Char} (starts : StartsName c) : StartsName c.toLower := by
  have lowered : StartsName c → StartsName c.toLower :=
    starts.of_ascii (p := fun c => StartsName c → StartsName c.toLower) (by decide +kernel)
  exact lowered starts

theorem IsIdentifier.append {name : String} (identifier : IsIdentifier name) {more : String}
    (continues : more.toList.all isNameRest = true) : IsIdentifier (name ++ more) := by
  obtain ⟨first, rest, spelled, starts, others⟩ := identifier
  simp only [List.all_eq_true, isNameRest_iff] at continues
  refine ⟨first, rest ++ more.toList, by simp [spelled], starts, ?_⟩
  exact List.forall_mem_append.mpr ⟨others, continues⟩

/-- Lowering a name that starts like an identifier stays within ASCII. -/
theorem toList_decapitalize {name : String} {first : Char} {rest : List Char}
    (spelled : name.toList = first :: rest) (starts : StartsName first) :
    (Text.decapitalize name).toList = first.toLower :: rest := by
  have small : first.toNat < 0x80 :=
    starts.of_ascii (p := fun c => c.toNat < 0x80) (by decide +kernel)
  simp [Text.decapitalize, spelled, Text.lowerCase, small]

/-- An identifier stays one when its first letter is made small. -/
theorem IsIdentifier.decapitalize {name : String} (identifier : IsIdentifier name) :
    IsIdentifier (Text.decapitalize name) := by
  obtain ⟨first, rest, spelled, starts, others⟩ := identifier
  exact ⟨first.toLower, rest, toList_decapitalize spelled starts, starts.toLower, others⟩

end CallLibrary.Solidity
