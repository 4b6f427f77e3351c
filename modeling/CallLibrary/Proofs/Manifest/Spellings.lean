import CallLibrary.Document.Json.Reader
import CallLibrary.Manifest.Schema
import CallLibrary.Proofs.Interface.Spellings

/-!
# Spellings of a manifest

A JSON document may give the members of an object in any order, or all of them as an array. The
structures of an interface do not mind members that they do not know; the tables of a manifest are
closed, so that a misspelt field is noticed.
-/

namespace CallLibrary

open Document (Field Format Json.format Key Node Shape)
open Interface (ErrorSignature Function ImportRequest Options Parameter)

variable {P : Type}

theorem SystemIdentity.shape_orderly : (SystemIdentity.shape (P := P)).Orderly where
  distinct := by simp [shape, Field.names]
  fresh := by simp [shape]
  marks := by
    simp only [shape, List.forall_mem_cons, List.not_mem_nil, false_imp_iff, forall_true_iff,
      and_true]
    and_intros <;> exact .of_put fun _ _ => rfl
  apart := by
    simp only [shape, List.pairwise_cons, List.forall_mem_cons, List.not_mem_nil, false_imp_iff,
      forall_true_iff, and_true, List.Pairwise.nil]
    and_intros <;> exact .of_put (fun _ _ _ => rfl) (fun _ _ => rfl) (fun _ _ => rfl)

theorem ImportRoots.shape_orderly : (ImportRoots.shape (P := P)).Orderly where
  distinct := by simp [shape, Field.names]
  fresh := by simp [shape]
  marks := by
    simp only [shape, List.forall_mem_cons, List.not_mem_nil, false_imp_iff, forall_true_iff,
      and_true]
    and_intros <;> exact .of_put fun _ _ => rfl
  apart := by
    simp only [shape, List.pairwise_cons, List.forall_mem_cons, List.not_mem_nil, false_imp_iff,
      forall_true_iff, and_true, List.Pairwise.nil]
    exact .of_put (fun _ _ _ => rfl) (fun _ _ => rfl) (fun _ _ => rfl)

namespace Manifest

theorem shape_orderly (format : Format P) : (shape format).Orderly where
  distinct := by simp [shape, Field.names]
  fresh := by simp [shape]
  marks := by
    simp only [shape, List.forall_mem_cons, List.not_mem_nil, false_imp_iff, forall_true_iff,
      and_true]
    and_intros <;> exact .of_put fun _ _ => rfl
  apart := by
    simp only [shape, List.pairwise_cons, List.forall_mem_cons, List.not_mem_nil, false_imp_iff,
      forall_true_iff, and_true, List.Pairwise.nil]
    and_intros <;> exact .of_put (fun _ _ _ => rfl) (fun _ _ => rfl) (fun _ _ => rfl)

/-- The tables of a manifest and the structures of an interface can be spelt in JSON in any order
and as arrays. Only the tables of a manifest refuse members that they do not know. The results of a
function have two names, and only one of them may be given. -/
theorem json_spellings :
    (shape (P := Unit) Json.format).ClosedSpellings Json.format ∧
      (SystemIdentity.shape (P := Unit)).ClosedSpellings Json.format ∧
      (ImportRoots.shape (P := Unit)).ClosedSpellings Json.format ∧
      (ImportRequest.shape (P := Unit)).OpenSpellings Json.format ∧
      (Function.shape (P := Unit) Json.format).OpenSpellings Json.format ∧
      (ErrorSignature.shape (P := Unit)).OpenSpellings Json.format ∧
      (Options.shape (P := Unit) Json.format).OpenSpellings Json.format ∧
      (∀ (value : Node Unit) (front back : List (Key Unit × Node Unit)),
        (Function.shape Json.format).read Json.format
            (.table () (front ++ (⟨(), some "returns"⟩, value) :: back)) =
          (Function.shape Json.format).read Json.format
            (.table () (front ++ (⟨(), some "return_parameters"⟩, value) :: back))) ∧
      ∀ (entries : List (Key Unit × Node Unit)) (value value' : Node Unit),
        (⟨(), some "return_parameters"⟩, value) ∈ entries →
          (⟨(), some "returns"⟩, value') ∈ entries → ∀ function,
            (Function.shape Json.format).read Json.format (.table () entries) ≠ .ok function := by
  have anyAside (value : Node Unit) : Json.format.allowsAside value = true := rfl
  exact ⟨(shape_orderly _).closedSpellings rfl, SystemIdentity.shape_orderly.closedSpellings rfl,
    ImportRoots.shape_orderly.closedSpellings rfl,
    ImportRequest.shape_orderly.openSpellings rfl anyAside,
    (Function.shape_orderly _).openSpellings rfl anyAside,
    ErrorSignature.shape_orderly.openSpellings rfl anyAside,
    (Options.shape_orderly _).openSpellings rfl anyAside, Function.read_returns,
    fun _ _ _ => Function.read_both_returns⟩

/-- The members of a function that gives its results first and under the shorter name. -/
def previewMembers : List (Key Unit × Node Unit) :=
  [(⟨(), some "returns"⟩, .array () [.scalar () (.text "uint256 shares")]),
    (⟨(), some "selector"⟩, .scalar () .null),
    (⟨(), some "parameters"⟩, .array () [.scalar () (.text "uint256 amount")]),
    (⟨(), some "state_mutability"⟩, .scalar () (.text "view")),
    (⟨(), some "name"⟩, .scalar () (.text "preview"))]

theorem preview_json_spellings :
    (Function.shape Json.format).read Json.format
        (.array ()
          [.scalar () (.text "preview"), .array () [.scalar () (.text "uint256 amount")],
            .scalar () (.text "view"), .array () [.scalar () (.text "uint256 shares")]]) =
      .ok ⟨"preview", [.named "uint256" "amount"], .view, [.named "uint256" "shares"]⟩ := by
  have spellings := json_spellings.2.2.2.2.1
  refine spellings.listing () () previewMembers _ _ ?_ (by decide +kernel)
  simp [Shape.Listed, Function.shape, Field.StandsIn, Field.names, previewMembers]

end Manifest

end CallLibrary
