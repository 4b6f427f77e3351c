import Mathlib.Tactic.ByContra
import CallLibrary.Proofs.FirstAt
import CallLibrary.Proofs.Manifest.Validation

/-!
# The first broken rule

Validation is a chain of early exits inside nested loops. What such a chain reports is stated
without it: rules are listed one after the other, each with the violation that stands for it, and a
check reports the first rule of the list that is broken. There is one lemma for a single condition,
one for two checks in sequence and one for a loop; checks are put together as their lists are.
-/

namespace CallLibrary

open Outcome

/-- Something that a manifest must satisfy, the violation of a manifest that does not, and the text
shown for it. -/
structure Rule where
  holds : Prop
  violation : Violation
  text : String

/-! ## The first broken rule -/

/-- A violation is that of the first broken rule of a list. -/
def FirstBroken (rules : List Rule) (violation : Violation) : Prop :=
  ∃ position rule, FirstAt (fun r : Rule => ¬ r.holds) rules position rule ∧
    violation = rule.violation

theorem not_firstBroken_nil {violation : Violation} : ¬ FirstBroken [] violation := by
  rintro ⟨_, _, first, _⟩
  exact not_firstAt_nil first

theorem firstBroken_cons_of_broken {rule : Rule} (broken : ¬ rule.holds) {rest : List Rule}
    {violation : Violation} :
    FirstBroken (rule :: rest) violation ↔ violation = rule.violation := by
  simp only [FirstBroken, firstAt_cons_of_pos (p := fun r : Rule => ¬ r.holds) broken]
  constructor
  · rintro ⟨_, _, ⟨_, rfl⟩, same⟩
    exact same
  · intro same
    exact ⟨0, rule, ⟨rfl, rfl⟩, same⟩

theorem firstBroken_cons_of_holds {rule : Rule} (holds : rule.holds) {rest : List Rule}
    {violation : Violation} :
    FirstBroken (rule :: rest) violation ↔ FirstBroken rest violation := by
  simp only [FirstBroken,
    firstAt_cons_of_neg (p := fun r : Rule => ¬ r.holds) (not_not_intro holds)]
  constructor
  · rintro ⟨_, first, ⟨position, rfl, found⟩, same⟩
    exact ⟨position, first, found, same⟩
  · rintro ⟨position, first, found, same⟩
    exact ⟨position + 1, first, ⟨position, rfl, found⟩, same⟩

/-- Rules behind others matter once none of these is broken. -/
theorem firstBroken_append {rules others : List Rule} {violation : Violation} :
    FirstBroken (rules ++ others) violation ↔
      FirstBroken rules violation ∨
        (∀ rule ∈ rules, rule.holds) ∧ FirstBroken others violation := by
  induction rules with
  | nil => simp [not_firstBroken_nil]
  | cons rule rest ih =>
    by_cases holds : rule.holds
    · simp only [List.cons_append, firstBroken_cons_of_holds holds, ih, List.forall_mem_cons, holds,
        true_and]
    · simp only [List.cons_append, firstBroken_cons_of_broken holds, List.forall_mem_cons, holds,
        false_and, or_false]

/-- Some violation is that of the first broken rule exactly if a rule is broken. -/
theorem exists_firstBroken {rules : List Rule} :
    (∃ violation, FirstBroken rules violation) ↔ ∃ rule ∈ rules, ¬ rule.holds := by
  rw [← exists_firstAt (p := fun r : Rule => ¬ r.holds)]
  constructor
  · rintro ⟨_, position, rule, first, _⟩
    exact ⟨position, rule, first⟩
  · rintro ⟨position, rule, first⟩
    exact ⟨rule.violation, position, rule, first, rfl⟩

/-! ## Checks that report the first broken rule -/

/-- A check fails exactly with the violation of the first broken rule. -/
def Reports (check : Except Violation Unit) (rules : List Rule) : Prop :=
  ∀ violation, check = .error violation ↔ FirstBroken rules violation

namespace Reports

variable {check next : Except Violation Unit} {rules others : List Rule}

/-- It passes exactly if no rule is broken. -/
theorem passes (reports : Reports check rules) :
    check = .ok () ↔ ∀ rule ∈ rules, rule.holds := by
  constructor
  · intro passed rule member
    by_contra broken
    obtain ⟨violation, first⟩ := exists_firstBroken.mpr ⟨rule, member, broken⟩
    rw [(reports violation).mpr first] at passed
    cases passed
  · intro all
    cases failed : check with
    | ok _ => rfl
    | error violation =>
      obtain ⟨rule, member, broken⟩ :=
        exists_firstBroken.mp ⟨violation, (reports violation).mp failed⟩
      exact absurd (all rule member) broken

theorem ok : Reports (.ok ()) [] := by
  intro violation
  simp [not_firstBroken_nil]

/-- A single condition. -/
theorem require {condition : Bool} {holds : Prop} (agree : condition = true ↔ holds)
    {violation : Violation} {text : String} :
    Reports (CallLibrary.require condition violation) [⟨holds, violation, text⟩] := by
  intro reported
  by_cases here : holds
  · rw [firstBroken_cons_of_holds here]
    simp [CallLibrary.require, agree.mpr here, not_firstBroken_nil]
  · have fails : condition = false := by simpa [← agree] using here
    rw [firstBroken_cons_of_broken here]
    simp [CallLibrary.require, fails, eq_comm]

/-- One check after the other. -/
theorem andThen (first : Reports check rules) (second : Reports next others) :
    Reports (check >>= fun _ => next) (rules ++ others) := by
  intro violation
  rw [firstBroken_append, bind_eq_error, first violation, ← first.passes, ← second violation]
  constructor
  · rintro (broken | ⟨⟨⟩, passed, failed⟩)
    · exact .inl broken
    · exact .inr ⟨passed, failed⟩
  · rintro (broken | ⟨passed, failed⟩)
    · exact .inl broken
    · exact .inr ⟨(), passed, failed⟩

/-- A condition before other checks. -/
theorem requireThen {condition : Bool} {holds : Prop} (agree : condition = true ↔ holds)
    {violation : Violation} {text : String} (second : Reports next others) :
    Reports (CallLibrary.require condition violation >>= fun _ => next)
      (⟨holds, violation, text⟩ :: others) :=
  (require agree).andThen second

/-- A loop over a list. -/
theorem checkAll {α : Type} {check : α → Except Violation Unit} {rules : α → List Rule}
    (each : ∀ a, Reports (check a) (rules a)) (l : List α) :
    Reports (CallLibrary.checkAll check l) (l.flatMap rules) := by
  induction l with
  | nil => exact ok
  | cons a rest ih => exact (each a).andThen ih

end Reports

end CallLibrary
