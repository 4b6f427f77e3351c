import CallLibrary.Proofs.Calls.Ambiguity
import CallLibrary.Proofs.Generator.Variants

/-!
# When a file is generated

Generation resolves the imports first and gives the variants afterwards. A file comes out exactly if
no symbol that the file does not define is requested from two paths and all inputs have names, and
the error is fixed by the options: an ambiguous symbol goes before an input without a name.
-/

namespace CallLibrary.Generator

open Calls (Ambiguous FirstAmbiguity GenerationError)
open Interface (Options)
open Outcome

/-- No symbol that the file does not define is requested from two paths. -/
def Unambiguous (options : Options) : Prop :=
  ∀ symbol, ¬ Ambiguous (allImports options) (Names.ofOptions options).defined symbol

/-- Why no file is generated: an ambiguous import, or else an input without a name. -/
def Refused (options : Options) (e : GenerationError) : Prop :=
  FirstAmbiguity (allImports options) (Names.ofOptions options).defined e ∨
    Unambiguous options ∧ FirstUnnamed options.functions e

theorem unambiguous_iff {options : Options} :
    Unambiguous options ↔
      ∃ imports,
        Calls.resolveImports (allImports options) (Names.ofOptions options).defined =
          .ok imports := by
  rw [exists_ok_iff]
  simp only [ne_eq, Calls.resolveImports_eq_error, Unambiguous, ← not_exists,
    Calls.exists_firstAmbiguity]

/-- No file is generated exactly for one of these reasons. -/
theorem render_eq_error {options : Options} {e : GenerationError} :
    render options = .error e ↔ Refused options e := by
  simp only [render, bind_eq_error, Calls.resolveImports_eq_error, variants_eq_error, pure_eq_ok,
    reduceCtorEq, and_false, exists_false, or_false]
  rw [Refused, unambiguous_iff]
  constructor
  · rintro (ambiguous | ⟨imports, resolved, unnamed⟩)
    · exact .inl ambiguous
    · exact .inr ⟨⟨imports, resolved⟩, unnamed⟩
  · rintro (ambiguous | ⟨⟨imports, resolved⟩, unnamed⟩)
    · exact .inl ambiguous
    · exact .inr ⟨imports, resolved, unnamed⟩

/-- A file is generated exactly if no import is ambiguous and all inputs have names. -/
theorem render_succeeds_iff {options : Options} :
    (∃ text, render options = .ok text) ↔
      Unambiguous options ∧ ∀ f ∈ options.functions, f.InputsNamed := by
  simp only [exists_ok_iff, ne_eq, render_eq_error]
  constructor
  · intro accepted
    have clear : Unambiguous options := by
      intro symbol ambiguous
      obtain ⟨e, first⟩ := Calls.exists_firstAmbiguity.mpr ⟨symbol, ambiguous⟩
      exact accepted e (.inl first)
    refine ⟨clear, fun f member => ?_⟩
    by_contra unnamed
    obtain ⟨e, first⟩ := exists_firstUnnamed.mpr ⟨f, member, unnamed⟩
    exact accepted e (.inr ⟨clear, first⟩)
  · rintro ⟨clear, named⟩ e (ambiguous | ⟨_, unnamed⟩)
    · obtain ⟨symbol, twice⟩ := Calls.exists_firstAmbiguity.mp ⟨e, ambiguous⟩
      exact clear symbol twice
    · obtain ⟨f, member, lacks⟩ := exists_firstUnnamed.mp ⟨e, unnamed⟩
      exact lacks (named f member)

/-- Generation succeeds exactly if no symbol outside the five defined names is requested from two
paths and every input of every function has a name; every failure is determined, with ambiguity
before missing names; and the namespace, which decides on the root variants, has no influence. -/
theorem render_verdict (options : Options) :
    let requests := options.imports ++ requiredImports options.worldPath options.storePath
    let defined := [options.libraryName, options.systemLabel ++ "Type",
      Text.decapitalize options.systemLabel, "CallWrapper", "RootCallWrapper"]
    ((∃ text, render options = .ok text) ↔
      (∀ symbol, ¬ Ambiguous requests defined symbol) ∧
        ∀ f ∈ options.functions, f.InputsNamed) ∧
    (∀ e, render options = .error e ↔
      FirstAmbiguity requests defined e ∨
        (∀ symbol, ¬ Ambiguous requests defined symbol) ∧ FirstUnnamed options.functions e) ∧
    ∀ namespaceName e,
      render { options with namespaceName } = .error e ↔ render options = .error e := by
  refine ⟨render_succeeds_iff, fun e => render_eq_error, fun namespaceName e => ?_⟩
  have same : Refused { options with namespaceName } e ↔ Refused options e := Iff.rfl
  rw [render_eq_error, render_eq_error, same]

end CallLibrary.Generator
