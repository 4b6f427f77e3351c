import CallLibrary.Manifest.Load
import CallLibrary.Proofs.Calls.Inputs
import CallLibrary.Proofs.Outcome

/-!
# What validation guarantees

The checks of a manifest run over lists and stop at the first violation. A manifest that passes has
passed every single check; in particular all inputs of its functions have names.
-/

namespace CallLibrary

open Document (Failure)
open Interface (Function Parameter)
open Outcome

@[simp] theorem require_eq_ok {holds : Bool} {violation : Violation} :
    require holds violation = .ok () ↔ holds = true := by
  cases holds <;> simp [require]

/-- A list passes exactly if each of its elements does. -/
theorem checkAll_eq_ok {α : Type} {check : α → Except Violation Unit} {l : List α} :
    checkAll check l = .ok () ↔ ∀ a ∈ l, check a = .ok () := by
  induction l with
  | nil => simp [checkAll]
  | cons a rest ih => simp [checkAll, check_then_eq_ok, ih]

/-- Where names are required, a parameter that passes has one. -/
theorem named_of_checkParameters {owner : String} {position : Nat} {parameters : List Parameter}
    (passed : checkParameters owner true position parameters = .ok ()) :
    ∀ parameter ∈ parameters, parameter.name ≠ none := by
  induction parameters generalizing position with
  | nil => simp
  | cons parameter rest ih =>
    simp only [checkParameters, check_then_eq_ok] at passed
    obtain ⟨here, others⟩ := passed
    have named : parameter.name ≠ none := by
      intro unnamed
      simp [checkParameter, unnamed] at here
    exact List.forall_mem_cons.mpr ⟨named, ih others⟩

theorem inputsNamed_of_checkFunction {function : Function}
    (passed : checkFunction function = .ok ()) : function.InputsNamed := by
  simp only [checkFunction, check_then_eq_ok] at passed
  obtain ⟨_, inputs, _⟩ := passed
  exact named_of_checkParameters inputs

namespace Manifest

/-- A manifest that passes has passed the checks of its system, imports, functions and errors. -/
theorem validate_eq_ok {m : Manifest} :
    m.validate = .ok () ↔
      m.system.check = .ok () ∧ (∀ i ∈ m.imports, checkImport i = .ok ()) ∧
        (∀ f ∈ m.functions, checkFunction f = .ok ()) ∧
        ∀ e ∈ m.errors, checkError e = .ok () := by
  simp only [validate, check_then_eq_ok, checkAll_eq_ok]

/-- A manifest is accepted exactly if it can be read and passes. -/
theorem parse_eq_ok {format : ManifestFormat} {source : Source} {m : Manifest} :
    parse format source = .ok m ↔ decode format source = .ok m ∧ m.validate = .ok () := by
  rw [parse, bind_eq_ok]
  constructor
  · rintro ⟨m', read, checked⟩
    cases verdict : m'.validate with
    | error violation => simp [verdict] at checked
    | ok _ =>
      simp only [verdict, pure_eq_ok, Except.ok.injEq] at checked
      subst checked
      exact ⟨read, verdict⟩
  · rintro ⟨read, passed⟩
    exact ⟨m, read, by simp [passed]⟩

/-- What cannot be read is not refused for a violation. -/
theorem problem_of_decode {format : ManifestFormat} {source : Source} {diagnostic : Diagnostic}
    (failed : decode format source = .error diagnostic) (violation : Violation) :
    diagnostic.problem ≠ .violation violation := by
  have unread (style : Decimal.Style) (failure : Failure) :
      (unreadable source style failure).problem ≠ .violation violation := by
    cases failure <;> simp [unreadable]
  have ofMapError {outcome : Except Failure Manifest} {style : Decimal.Style}
      (failed : outcome.mapError (unreadable source style) = .error diagnostic) :
      diagnostic.problem ≠ .violation violation := by
    cases outcome with
    | ok m => cases failed
    | error failure =>
      cases failed
      exact unread style failure
  cases format with
  | toml => exact ofMapError failed
  | json => exact ofMapError failed

/-- A manifest is refused for a violation if it can be read and the violation ends its validation.
-/
theorem parse_eq_violation {format : ManifestFormat} {source : Source} {file : String}
    {span : Option Text.Span} {violation : Violation} :
    parse format source = .error ⟨file, span, .violation violation⟩ ↔
      ∃ m, decode format source = .ok m ∧ m.validate = .error violation ∧
        file = source.file ∧ span = source.find? violation.subject := by
  unfold parse
  cases decoded : decode format source with
  | error diagnostic =>
    have read := problem_of_decode decoded violation
    simp only [error_bind, Except.error.injEq, reduceCtorEq, false_and, exists_false, iff_false]
    intro same
    exact read (same ▸ rfl)
  | ok m =>
    cases checked : m.validate with
    | ok _ => simp [ok_bind, checked]
    | error other =>
      simp only [ok_bind, checked, Source.diagnose, Except.error.injEq, Diagnostic.mk.injEq,
        Problem.violation.injEq]
      constructor
      · intro ⟨sameFile, sameSpan, same⟩
        subst same
        exact ⟨m, rfl, checked, sameFile.symm, sameSpan.symm⟩
      · intro ⟨m', read, violated, sameFile, sameSpan⟩
        cases read
        cases checked.symm.trans violated
        exact ⟨sameFile.symm, sameSpan.symm, rfl⟩

/-- In a manifest that was accepted all inputs have names. -/
theorem inputsNamed_of_parse {format : ManifestFormat} {source : Source} {m : Manifest}
    (parsed : parse format source = .ok m) : ∀ f ∈ m.functions, f.InputsNamed := by
  intro f member
  have passed := (validate_eq_ok.mp (parse_eq_ok.mp parsed).2).2.2.1
  exact inputsNamed_of_checkFunction (passed f member)

end Manifest

end CallLibrary
