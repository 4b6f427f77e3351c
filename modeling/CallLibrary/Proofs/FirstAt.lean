/-!
# First elements of a list

Searches stop at the first element with a property. What such a search finds is stated without the
search: an element that has the property while no element before it does. A list has such an element
exactly if some element has the property.
-/

namespace CallLibrary

variable {α : Type} {p : α → Prop}

/-- The element at a position is the first one of a list with a property. -/
def FirstAt (p : α → Prop) (l : List α) (position : Nat) (a : α) : Prop :=
  l[position]? = some a ∧ p a ∧ ∀ earlier b, earlier < position → l[earlier]? = some b → ¬ p b

theorem FirstAt.mem {l : List α} {position : Nat} {a : α} (first : FirstAt p l position a) :
    a ∈ l :=
  List.mem_of_getElem? first.1

theorem not_firstAt_nil {position : Nat} {a : α} : ¬ FirstAt p [] position a := by
  intro first
  simpa using first.mem

theorem firstAt_cons_of_pos {head : α} (here : p head) {rest : List α} {position : Nat} {a : α} :
    FirstAt p (head :: rest) position a ↔ position = 0 ∧ a = head := by
  constructor
  · rintro ⟨found, _, none⟩
    cases position with
    | zero => exact ⟨rfl, by simpa using found.symm⟩
    | succ position => exact absurd here (none 0 head (Nat.succ_pos position) rfl)
  · rintro ⟨rfl, rfl⟩
    exact ⟨rfl, here, fun earlier b before => absurd before (Nat.not_lt_zero earlier)⟩

theorem firstAt_cons_of_neg {head : α} (not : ¬ p head) {rest : List α} {position : Nat} {a : α} :
    FirstAt p (head :: rest) position a ↔
      ∃ position', position = position' + 1 ∧ FirstAt p rest position' a := by
  constructor
  · rintro ⟨found, holds, none⟩
    cases position with
    | zero =>
      simp only [List.getElem?_cons_zero, Option.some.injEq] at found
      exact absurd (found ▸ holds) not
    | succ position =>
      refine ⟨position, rfl, by simpa using found, holds, ?_⟩
      intro earlier b before there
      exact none (earlier + 1) b (by omega) (by simpa using there)
  · rintro ⟨position', rfl, found, holds, none⟩
    refine ⟨by simpa using found, holds, ?_⟩
    intro earlier b before there
    cases earlier with
    | zero =>
      simp only [List.getElem?_cons_zero, Option.some.injEq] at there
      exact there ▸ not
    | succ earlier => exact none earlier b (by omega) (by simpa using there)

/-- Some element is the first one with a property exactly if some element has it. -/
theorem exists_firstAt {l : List α} :
    (∃ position a, FirstAt p l position a) ↔ ∃ a ∈ l, p a := by
  constructor
  · rintro ⟨position, a, first⟩
    exact ⟨a, first.mem, first.2.1⟩
  · intro someone
    induction l with
    | nil => simp at someone
    | cons head rest ih =>
      by_cases here : p head
      · exact ⟨0, head, (firstAt_cons_of_pos here).mpr ⟨rfl, rfl⟩⟩
      · obtain ⟨a, member, holds⟩ := someone
        have later : a ∈ rest := by
          rcases List.mem_cons.mp member with rfl | later
          · exact absurd holds here
          · exact later
        obtain ⟨position, first, atPosition⟩ := ih ⟨a, later, holds⟩
        exact ⟨position + 1, first, (firstAt_cons_of_neg here).mpr ⟨position, rfl, atPosition⟩⟩

end CallLibrary
