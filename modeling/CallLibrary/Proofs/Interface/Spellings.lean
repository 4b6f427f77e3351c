import CallLibrary.Interface.Schema
import CallLibrary.Proofs.Document.Spellings

/-!
# Spellings of an interface

The structures of an interface have fields with names of their own, each kept in a place of its own.
A function's results have two names, of which one may be given.
-/

namespace CallLibrary.Interface

open Document (Field Format Key Node Shape)
open Outcome

variable {P : Type}

theorem ImportRequest.shape_orderly : (ImportRequest.shape (P := P)).Orderly where
  distinct := by simp [shape, Field.names]
  fresh := by simp [shape]
  marks := by
    simp only [shape, List.forall_mem_cons, List.not_mem_nil, false_imp_iff, forall_true_iff,
      and_true]
    and_intros <;> exact .of_put fun _ _ => rfl
  apart := by
    simp only [shape, List.pairwise_cons, List.forall_mem_cons, List.not_mem_nil, false_imp_iff,
      forall_true_iff, and_true, List.Pairwise.nil]
    exact .of_put (fun _ _ _ => rfl) (fun _ _ => rfl) (fun _ _ => rfl)

theorem ErrorSignature.shape_orderly : (ErrorSignature.shape (P := P)).Orderly where
  distinct := by simp [shape, Field.names]
  fresh := by simp [shape]
  marks := by
    simp only [shape, List.forall_mem_cons, List.not_mem_nil, false_imp_iff, forall_true_iff,
      and_true]
    and_intros <;> exact .of_put fun _ _ => rfl
  apart := by
    simp only [shape, List.pairwise_cons, List.forall_mem_cons, List.not_mem_nil, false_imp_iff,
      forall_true_iff, and_true, List.Pairwise.nil]
    exact .of_put (fun _ _ _ => rfl) (fun _ _ => rfl) (fun _ _ => rfl)

theorem Function.shape_orderly (format : Format P) : (Function.shape format).Orderly where
  distinct := by simp [shape, Field.names]
  fresh := by simp [shape]
  marks := by
    simp only [shape, List.forall_mem_cons, List.not_mem_nil, false_imp_iff, forall_true_iff,
      and_true]
    and_intros <;> exact .of_put fun _ _ => rfl
  apart := by
    simp only [shape, List.pairwise_cons, List.forall_mem_cons, List.not_mem_nil, false_imp_iff,
      forall_true_iff, and_true, List.Pairwise.nil]
    and_intros <;> exact .of_put (fun _ _ _ => rfl) (fun _ _ => rfl) (fun _ _ => rfl)

theorem Options.shape_orderly (format : Format P) : (Options.shape format).Orderly where
  distinct := by simp [shape, Field.names]
  fresh := by simp [shape]
  marks := by
    simp only [shape, List.forall_mem_cons, List.not_mem_nil, false_imp_iff, forall_true_iff,
      and_true]
    and_intros <;> exact .of_put fun _ _ => rfl
  apart := by
    simp only [shape, List.pairwise_cons, List.forall_mem_cons, List.not_mem_nil, false_imp_iff,
      forall_true_iff, and_true, List.Pairwise.nil]
    and_intros <;> exact .of_put (fun _ _ _ => rfl) (fun _ _ => rfl) (fun _ _ => rfl)

namespace Function

variable {format : Format P} {mark mark₁ mark₂ : P}

/-- The results may be given under either name. -/
theorem read_returns (value : Node P) (front back : List (Key P × Node P)) :
    (shape format).read format
        (.table mark (front ++ (⟨mark₁, some "returns"⟩, value) :: back)) =
      (shape format).read format
        (.table mark (front ++ (⟨mark₁, some "return_parameters"⟩, value) :: back)) := by
  have renamed (draft : FunctionDraft) :
      (shape format).readEntry format mark draft (⟨mark₁, some "returns"⟩, value) =
        (shape format).readEntry format mark draft (⟨mark₁, some "return_parameters"⟩, value) :=
    rfl
  simp only [Shape.read, Shape.readTable, List.foldlM_append, List.foldlM_cons, renamed]

/-- The results may not be given under both names. -/
theorem read_both_returns {entries : List (Key P × Node P)} {value value' : Node P}
    (long : (⟨mark₁, some "return_parameters"⟩, value) ∈ entries)
    (short : (⟨mark₂, some "returns"⟩, value') ∈ entries) (function : Function) :
    (shape format).read format (.table mark entries) ≠ .ok function := by
  obtain ⟨field, member, named, named'⟩ : ∃ field ∈ (shape format).fields,
      "return_parameters" ∈ field.names ∧ "returns" ∈ field.names := by
    simp [shape, Field.names]
  exact toOption_eq_none.mp
    ((shape_orderly format).read_twice member named named' (by simp) long short) function

end Function

end CallLibrary.Interface
