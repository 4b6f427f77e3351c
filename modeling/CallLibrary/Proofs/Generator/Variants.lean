import Mathlib.Logic.Basic
import Mathlib.Tactic.ByContra
import CallLibrary.Generator.Assembly
import CallLibrary.Proofs.Calls.Inputs

/-!
# The variants of a library

A library is filled form by form, and in each form function by function; the first error ends it.
With all inputs named the loops give the variants in exactly this order. Otherwise they fail, always
in the first form, at the first function with an input that has no name: the forms that come later,
and the root variants that a namespace leaves out, have no say in this.
-/

namespace CallLibrary.Generator

open Calls (Form GenerationError Setting Wrapper)
open Interface (Function Options Parameter)
open Outcome

/-- The error of an input without a name: the first function that has one, and the least position of
one in it. -/
def FirstUnnamed (functions : List Function) (e : GenerationError) : Prop :=
  ∃ index function position parameter,
    FirstAt (fun f : Function => ¬ f.InputsNamed) functions index function ∧
    FirstAt (fun p : Parameter => p.name = none) function.parameters position parameter ∧
    e = .unnamedParameter function.name position

theorem variantsIn_of_inputsNamed {functions : List Function}
    (named : ∀ f ∈ functions, f.InputsNamed) (setting : Setting) (form : Form) :
    variantsIn setting form functions =
      .ok ((functions.filter (form.applies setting)).map (form.variantOf setting)) := by
  induction functions with
  | nil => rfl
  | cons function rest ih =>
    have others := ih fun f member => named f (List.mem_cons_of_mem _ member)
    have here := Form.variant?_of_inputsNamed (named function (by simp)) form setting
    simp only [variantsIn, here, others, bind, Except.bind, pure_eq_ok]
    by_cases has : form.applies setting function = true
    · simp [has]
    · simp [has]

/-- With names for all inputs, the forms one after the other give the variants of the functions that
have them. -/
theorem variants_of_inputsNamed {functions : List Function}
    (named : ∀ f ∈ functions, f.InputsNamed) (setting : Setting) (forms : List Form) :
    variants setting functions forms =
      .ok (forms.flatMap fun form =>
        (functions.filter (form.applies setting)).map (form.variantOf setting)) := by
  induction forms with
  | nil => rfl
  | cons form rest ih =>
    simp only [variants, variantsIn_of_inputsNamed named, ih, bind, Except.bind, pure_eq_ok,
      List.flatMap_cons]

theorem inputsNamed_iff {function : Function} :
    function.InputsNamed ↔ ∀ e, Calls.namesFrom function.name 0 function.parameters ≠ .error e := by
  constructor
  · intro named e
    rw [Calls.namesFrom_of_inputsNamed named]
    simp
  · intro reads parameter member unnamed
    obtain ⟨position, first, least⟩ :=
      exists_firstAt (p := fun p : Parameter => p.name = none).mpr ⟨parameter, member, unnamed⟩
    exact reads _ (Calls.namesFrom_eq_error.mpr ⟨position, first, least, rfl⟩)

/-- The loop over the functions stops at the first one that has a variant in the form and an input
without a name. -/
theorem variantsIn_eq_error {functions : List Function} {setting : Setting} {form : Form}
    {e : GenerationError} :
    variantsIn setting form functions = .error e ↔
      ∃ index function,
        FirstAt (fun f : Function => form.applies setting f = true ∧ ¬ f.InputsNamed)
          functions index function ∧
        Calls.namesFrom function.name 0 function.parameters = .error e := by
  induction functions with
  | nil => simp [variantsIn, not_firstAt_nil]
  | cons function rest ih =>
    simp only [variantsIn, bind_eq_error, pure_eq_ok, reduceCtorEq, and_false, exists_false,
      or_false, ih, Form.variant?_eq_error]
    -- The loop stops at a function that the form is given for and whose inputs lack a name; a
    -- function that the form leaves out is passed over even if it has such an input.
    by_cases stops : form.applies setting function = true ∧ ¬ function.InputsNamed
    · have fails : ∀ o, form.variant? setting function ≠ .ok o := by
        intro o given
        refine stops.2 (inputsNamed_iff.mpr fun e' failed => ?_)
        rw [Form.variant?_eq_error.mpr ⟨stops.1, failed⟩] at given
        cases given
      simp only [fails, false_and, exists_false, or_false,
        firstAt_cons_of_pos (p := fun f : Function =>
          form.applies setting f = true ∧ ¬ f.InputsNamed) stops]
      constructor
      · rintro ⟨_, failed⟩
        exact ⟨0, function, ⟨rfl, rfl⟩, failed⟩
      · rintro ⟨_, _, ⟨rfl, rfl⟩, failed⟩
        exact ⟨stops.1, failed⟩
    · have passes : ∀ e', ¬ (form.applies setting function = true ∧
          Calls.namesFrom function.name 0 function.parameters = .error e') := by
        rintro e' ⟨has, failed⟩
        exact stops ⟨has, fun named => inputsNamed_iff.mp named e' failed⟩
      obtain ⟨o, given⟩ := exists_ok_iff.mpr fun e' failed =>
        passes e' (Form.variant?_eq_error.mp failed)
      simp only [passes, false_or, given, Except.ok.injEq, exists_eq_left',
        firstAt_cons_of_neg (p := fun f : Function =>
          form.applies setting f = true ∧ ¬ f.InputsNamed) stops]
      constructor
      · rintro ⟨index, unnamed, first, failed⟩
        exact ⟨index + 1, unnamed, ⟨index, rfl, first⟩, failed⟩
      · rintro ⟨_, unnamed, ⟨index, rfl, first⟩, failed⟩
        exact ⟨index, unnamed, first, failed⟩

/-- The direct form is given for every function, so it meets the first input without a name. -/
theorem variantsIn_direct_eq_error {functions : List Function} {setting : Setting}
    {e : GenerationError} :
    variantsIn setting .direct functions = .error e ↔ FirstUnnamed functions e := by
  simp only [variantsIn_eq_error, FirstUnnamed, Form.applies, true_and, Calls.namesFrom_eq_error,
    Nat.zero_add]
  constructor
  · rintro ⟨index, function, earliest, position, parameter, least, rfl⟩
    exact ⟨index, function, position, parameter, earliest, least, rfl⟩
  · rintro ⟨index, function, position, parameter, earliest, least, rfl⟩
    exact ⟨index, function, earliest, position, parameter, least, rfl⟩

/-- There is such an error exactly if some input has no name. -/
theorem exists_firstUnnamed {functions : List Function} :
    (∃ e, FirstUnnamed functions e) ↔ ∃ f ∈ functions, ¬ f.InputsNamed := by
  constructor
  · rintro ⟨e, index, function, position, parameter, earliest, least, rfl⟩
    exact ⟨function, earliest.mem, earliest.2.1⟩
  · intro someUnnamed
    obtain ⟨index, function, earliest⟩ :=
      exists_firstAt (p := fun f : Function => ¬ f.InputsNamed).mpr someUnnamed
    have unnamed := earliest.2.1
    simp only [Function.InputsNamed, not_forall, not_not, exists_prop] at unnamed
    obtain ⟨position, parameter, least⟩ :=
      exists_firstAt (p := fun p : Parameter => p.name = none).mpr unnamed
    exact ⟨_, index, function, position, parameter, earliest, least, rfl⟩

/-- Once the direct form has gone through all functions, all inputs are known to have names. -/
theorem inputsNamed_of_variantsIn {functions : List Function} {setting : Setting}
    {direct : List Solidity.Function}
    (given : variantsIn setting .direct functions = .ok direct) :
    ∀ f ∈ functions, f.InputsNamed := by
  by_contra someUnnamed
  simp only [not_forall] at someUnnamed
  obtain ⟨f, member, unnamed⟩ := someUnnamed
  obtain ⟨e, first⟩ := exists_firstUnnamed.mpr ⟨f, member, unnamed⟩
  rw [variantsIn_direct_eq_error.mpr first] at given
  cases given

/-- All forms together fail with the error of the first input without a name and no other: what
comes after the direct form cannot fail. -/
theorem variants_eq_error {functions : List Function} {setting : Setting} {e : GenerationError} :
    variants setting functions Form.all = .error e ↔ FirstUnnamed functions e := by
  rw [Form.all, variants, bind_eq_error, variantsIn_direct_eq_error]
  constructor
  · rintro (failed | ⟨direct, given, failed⟩)
    · exact failed
    · have named := inputsNamed_of_variantsIn given
      rw [variants_of_inputsNamed named] at failed
      cases failed
  · intro failed
    exact .inl failed

/-- The variants of a library: those of each form in the order of the functions, one form after the
other. -/
theorem variants_eq_ok {functions : List Function} {setting : Setting}
    {given : List Solidity.Function} :
    variants setting functions Form.all = .ok given ↔
      (∀ f ∈ functions, f.InputsNamed) ∧
        given = Form.all.flatMap fun form =>
          (functions.filter (form.applies setting)).map (form.variantOf setting) := by
  constructor
  · intro succeeded
    obtain ⟨direct, first, _⟩ := bind_eq_ok.mp succeeded
    have named := inputsNamed_of_variantsIn first
    rw [variants_of_inputsNamed named] at succeeded
    exact ⟨named, (Except.ok.inj succeeded).symm⟩
  · rintro ⟨named, rfl⟩
    exact variants_of_inputsNamed named setting Form.all

end CallLibrary.Generator
