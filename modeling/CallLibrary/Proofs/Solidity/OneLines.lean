import CallLibrary.Proofs.Interface.Strings
import CallLibrary.Proofs.Layout.Lines
import CallLibrary.Solidity.SourceUnit

/-!
# Declarations on one line each

Signatures, error lines and import statements take one line each if the names and types in them do.
-/

namespace CallLibrary.Solidity

open Interface (ErrorSignature Parameter)
open Layout (Fragment OneLines)
open Text (OneLine)

theorem oneLine_parameterList {parameters : List Parameter}
    (each : ∀ p ∈ parameters, p.OnLines) : OneLine (parameterList parameters) := by
  refine Text.oneLine_intercalate (by decide) fun s listed => ?_
  obtain ⟨p, member, rfl⟩ := List.mem_map.mp listed
  exact (each p member).declaration

theorem oneLine_returnClause {returns : List Parameter} (each : ∀ p ∈ returns, p.OnLines) :
    OneLine (returnClause returns) := by
  unfold returnClause
  split
  · decide
  · simp only [Text.oneLine_append]
    exact ⟨⟨by decide, oneLine_parameterList each⟩, by decide⟩

theorem oneLine_errorLine {e : ErrorSignature} (oneLine : e.OnLines) : OneLine (errorLine e) := by
  unfold errorLine
  simp only [Text.oneLine_append]
  exact ⟨⟨⟨⟨by decide, oneLine.name⟩, by decide⟩, oneLine_parameterList oneLine.parameters⟩,
    by decide⟩

theorem Import.oneLine_statement {i : Import} (path : OneLine i.path)
    (symbols : ∀ symbol ∈ i.symbols, OneLine symbol) : OneLine i.statement := by
  unfold Import.statement
  simp only [Text.oneLine_append]
  exact ⟨⟨⟨⟨by decide, Text.oneLine_intercalate (by decide) symbols⟩, by decide⟩, path⟩, by decide⟩

structure Function.OnLines (f : Function) : Prop where
  name : OneLine f.name
  parameters : ∀ p ∈ f.parameters, p.OnLines
  returns : ∀ p ∈ f.returns, p.OnLines
  body : OneLines f.body

theorem Function.OnLines.signature {f : Function} (oneLine : f.OnLines) : OneLine f.signature := by
  have visibility : OneLine (if f.isPrivate then " private" else " internal") := by
    split <;> decide
  have access : OneLine f.access.suffix := by
    cases f.access <;> decide
  have returns : OneLine
      (if (returnClause f.returns).isEmpty then "" else " " ++ returnClause f.returns) := by
    split
    · decide
    · exact Text.oneLine_append.mpr ⟨by decide, oneLine_returnClause oneLine.returns⟩
  unfold Function.signature
  simp only [Text.oneLine_append]
  exact ⟨⟨⟨⟨⟨⟨⟨⟨by decide, oneLine.name⟩, by decide⟩, oneLine_parameterList oneLine.parameters⟩,
    by decide⟩, visibility⟩, access⟩, returns⟩, by decide⟩

theorem Function.OnLines.fragment {f : Function} (oneLine : f.OnLines) : OneLines [f.fragment] := by
  refine Layout.oneLines_block.mpr ⟨oneLine.signature, oneLine.body, fun text close => ?_⟩
  cases close
  decide

/-- A library stands on as many lines as its parts. -/
theorem Library.oneLines_fragments {l : Library} (name : OneLine l.name)
    (documentation : ∀ line ∈ l.documentation, OneLine line)
    (members : ∀ member ∈ l.members, OneLines member) : OneLines l.fragments := by
  refine Layout.oneLines_append.mpr ⟨?_, Layout.oneLines_block.mpr ⟨?_, ?_, fun text close => ?_⟩⟩
  · split
    · exact Layout.oneLines_nil
    · exact Layout.oneLines_documentation.mpr documentation
  · simp only [Text.oneLine_append]
    exact ⟨⟨by decide, name⟩, by decide⟩
  · exact Layout.oneLines_intercalate members
  · cases close
    decide

end CallLibrary.Solidity
