import CallLibrary.Text.LowerCase

/-!
# Texts on one line

A text stands on one line if it holds no line feed. Putting such texts together gives such a text,
and so does lowering a name: no character has the line feed as its lower-case form but itself.
-/

namespace CallLibrary.Text

def OneLine (s : String) : Prop := '\n' ∉ s.toList

instance (s : String) : Decidable (OneLine s) := inferInstanceAs (Decidable ('\n' ∉ s.toList))

@[simp] theorem oneLine_append {s t : String} : OneLine (s ++ t) ↔ OneLine s ∧ OneLine t := by
  simp [OneLine, String.toList_append]

/-- A literal is judged by its characters. -/
theorem oneLine_ofList {characters : List Char} (none : '\n' ∉ characters) :
    OneLine (String.ofList characters) := by
  simpa [OneLine] using none

theorem oneLine_join {parts : List String} (each : ∀ s ∈ parts, OneLine s) :
    OneLine (String.join parts) := by
  simpa [OneLine, String.toList_join] using each

theorem oneLine_intercalate {separator : String} {parts : List String}
    (between : OneLine separator) (each : ∀ s ∈ parts, OneLine s) :
    OneLine (String.intercalate separator parts) := by
  induction parts with
  | nil => exact List.not_mem_nil
  | cons first rest ih =>
    have here : OneLine first := each first (by simp)
    have others := ih fun s member => each s (List.mem_cons_of_mem _ member)
    cases rest with
    | nil => simpa using here
    | cons second rest =>
      rw [String.intercalate_cons_cons, oneLine_append, oneLine_append]
      exact ⟨⟨here, between⟩, others⟩

/-- No code point but that of the line feed gives a line feed. -/
theorem eq_of_ofNat_eq_newline {code : Nat} (newline : Char.ofNat code = '\n') : code = 10 := by
  by_cases valid : code.isValidChar
  · have back : (Char.ofNat code).toNat = code := by
      unfold Char.ofNat
      rw [dif_pos valid]
      rfl
    rw [newline] at back
    exact back.symm
  · unfold Char.ofNat at newline
    rw [dif_neg valid] at newline
    cases newline

theorem toLower_of_not_capital {c : Char} (other : ¬ (65 ≤ c.toNat ∧ c.toNat ≤ 90)) :
    c.toLower = c := by
  unfold Char.toLower
  rw [dif_neg]
  intro ⟨least, greatest⟩
  exact other ⟨UInt32.le_iff_toNat_le.mp least, UInt32.le_iff_toNat_le.mp greatest⟩

theorem toLower_of_capital {c : Char} (capital : 65 ≤ c.toNat ∧ c.toNat ≤ 90) :
    c.toLower = Char.ofNat (c.toNat + 32) := by
  have isCapital : c.val ≥ 'A'.val ∧ c.val ≤ 'Z'.val :=
    ⟨UInt32.le_iff_toNat_le.mpr capital.1, UInt32.le_iff_toNat_le.mpr capital.2⟩
  have code : c.toLower.toNat = c.toNat + 32 := by
    unfold Char.toLower
    rw [dif_pos isCapital]
    have bound : c.val.toNat ≤ 90 := capital.2
    -- Between `A` and `Z` adding the distance of the cases does not wrap around.
    change (c.val + ('a'.val - 'A'.val)).toNat = c.val.toNat + 32
    rw [UInt32.toNat_add]
    change (c.val.toNat + 32) % 2 ^ 32 = c.val.toNat + 32
    omega
  rw [← code, Char.ofNat_toNat]

theorem toLower_ne_newline {c : Char} (other : c ≠ '\n') : c.toLower ≠ '\n' := by
  by_cases capital : 65 ≤ c.toNat ∧ c.toNat ≤ 90
  · rw [toLower_of_capital capital]
    intro newline
    have code := eq_of_ofNat_eq_newline newline
    omega
  · rwa [toLower_of_not_capital capital]

/-- Capital letters outside ASCII have their lower-case forms beyond the line feed. -/
theorem caseRuns_beyond : ∀ run ∈ caseRuns, 10 < run.first + run.distance := by
  have all : caseRuns.all (fun run => decide (10 < run.first + run.distance)) = true := by
    decide +kernel
  simpa using all

/-- The lower-case form of a character has a line feed only for the line feed. -/
theorem not_mem_lowerCase {c : Char} (other : c ≠ '\n') : '\n' ∉ lowerCase c := by
  unfold lowerCase
  split
  · simpa using (toLower_ne_newline other).symm
  · split
    · decide
    · split
      next run found =>
        have beyond := caseRuns_beyond run (List.mem_of_find?_eq_some found)
        have inRun := List.find?_some found
        simp only [CaseRun.contains, Bool.and_eq_true, decide_eq_true_eq] at inRun
        intro newline
        have code := eq_of_ofNat_eq_newline (List.mem_singleton.mp newline).symm
        omega
      next => simpa using other.symm

theorem oneLine_decapitalize {s : String} (oneLine : OneLine s) : OneLine (decapitalize s) := by
  unfold decapitalize
  unfold OneLine at oneLine
  split
  next => decide
  next c rest spelled =>
    rw [spelled] at oneLine
    simp only [List.mem_cons, not_or] at oneLine
    have first := not_mem_lowerCase (Ne.symm oneLine.1)
    simp [OneLine, first, oneLine.2]

end CallLibrary.Text
