import Mathlib.Data.List.Nodup
import CallLibrary.Proofs.Generator.Agreement

/-!
# Overloads in a library

A library holds several functions of one name. What tells them apart is the types of their
parameters: two variants of one form differ because their functions do, and two variants of
different forms differ in their receivers. A variant can be taken for a utility only if it has the
utility's receiver, and this is the handle, so that only direct variants are in question.
-/

namespace CallLibrary.Interface

/-- What a system tells its functions apart by: the name and the types of the parameters. -/
def Function.overload (f : Function) : String × List String := (f.name, f.parameters.map (·.type))

end CallLibrary.Interface

namespace CallLibrary.Solidity

/-- What a library tells its functions apart by: the name and the types of the parameters. -/
def Function.overload (f : Function) : String × List String := (f.name, f.parameters.map (·.type))

end CallLibrary.Solidity

namespace CallLibrary.Generator

open Calls (Form Setting)
open Interface (Function)

/-- The type of the handle is another one than the types that libraries use besides it. -/
def HandleApart (handleType : String) : Prop :=
  handleType ∉ ["CallWrapper", "RootCallWrapper", "ResourceId"]

def withReceiver (type : String) (overload : String × List String) : String × List String :=
  (overload.1, type :: overload.2)

theorem withReceiver_inj {type type' : String} {overload overload' : String × List String} :
    withReceiver type overload = withReceiver type' overload' ↔
      type = type' ∧ overload = overload' := by
  simp only [withReceiver, Prod.ext_iff, List.cons.injEq]
  exact and_left_comm

/-- A variant is told apart by its receiver and what tells its function apart. -/
theorem overload_variantOf (form : Form) (setting : Setting) (function : Function) :
    (form.variantOf setting function).overload =
      withReceiver (form.receiver setting).type function.overload := rfl

/-- The forms differ in the types of their receivers. -/
theorem receiver_type_injective {setting : Setting} (apart : HandleApart setting.handleType) :
    Function.Injective fun form : Form => (form.receiver setting).type := by
  have world : setting.handleType ≠ "CallWrapper" := fun same => apart (by simp [same])
  have root : setting.handleType ≠ "RootCallWrapper" := fun same => apart (by simp [same])
  have wrappers : "CallWrapper" ≠ "RootCallWrapper" := by decide
  intro form form' same
  cases form with
  | direct =>
    cases form' with
    | direct => rfl
    | forwarded => exact absurd same world
    | root => exact absurd same root
  | forwarded =>
    cases form' with
    | direct => exact absurd same.symm world
    | forwarded => rfl
    | root => exact absurd same wrappers
  | root =>
    cases form' with
    | direct => exact absurd same.symm root
    | forwarded => exact absurd same.symm wrappers
    | root => rfl

/-! ## Variants among themselves -/

/-- Variants are pairwise distinct if the functions that they are made of are. -/
theorem overload_variants_nodup {setting : Setting} (apart : HandleApart setting.handleType)
    {functions : List Function} (distinct : (functions.map (·.overload)).Nodup)
    {given : List Solidity.Function}
    (succeeded : variants setting functions Form.all = .ok given) :
    (given.map (·.overload)).Nodup := by
  have shape : given.map (·.overload) = Form.all.flatMap fun form =>
      ((functions.filter (form.applies setting)).map (·.overload)).map
        (withReceiver (form.receiver setting).type) := by
    rw [(variants_eq_ok.mp succeeded).2, List.map_flatMap]
    simp only [List.map_map]
    rfl
  have forms : Form.all.Nodup := by decide
  rw [shape, List.nodup_flatMap]
  constructor
  · intro form _
    have injective : Function.Injective (withReceiver (form.receiver setting).type) :=
      fun _ _ same => (withReceiver_inj.mp same).2
    exact (distinct.sublist (List.filter_sublist.map _)).map injective
  · refine forms.imp fun {form form'} different => ?_
    intro overload here there
    obtain ⟨first, _, rfl⟩ := List.mem_map.mp here
    obtain ⟨second, _, same⟩ := List.mem_map.mp there
    exact different (receiver_type_injective apart (withReceiver_inj.mp same).1.symm)

/-! ## Variants and utilities -/

/-- The overloads of the utilities that are called on the handle, without the handle. -/
def takenOverloads : List (String × List String) :=
  [("callFrom", ["address"]), ("callAsRoot", []), ("callAsRootFrom", ["address"]),
    ("toResourceId", []), ("getAddress", [])]

/-- The utilities are called on the handle, except for the one that makes a handle and the one that
has no parameters. -/
theorem overload_utilities_perm (handleType : String) :
    ((utilities handleType).map (·.overload)).Perm
      (takenOverloads.map (withReceiver handleType) ++
        [("fromResourceId", ["ResourceId"]), ("_world", [])]) := by
  have listed : (utilities handleType).map (·.overload) =
      [("callFrom", [handleType, "address"]), ("callAsRoot", [handleType]),
        ("callAsRootFrom", [handleType, "address"]), ("toResourceId", [handleType])] ++
      [("fromResourceId", ["ResourceId"]), ("getAddress", [handleType])] ++ [("_world", [])] := rfl
  rw [listed]
  exact ((List.Perm.swap _ _ _).append_left _).append_right _

/-- Utilities have names of their own. -/
theorem overload_utilities_nodup (handleType : String) :
    ((utilities handleType).map (·.overload)).Nodup := by
  have names : ["callFrom", "callAsRoot", "callAsRootFrom", "toResourceId", "fromResourceId",
      "getAddress", "_world"].Nodup := by decide
  exact List.Nodup.of_map Prod.fst names

/-- A variant is taken for a utility exactly if it is a direct one and its function has the name and
the other parameters of that utility. -/
theorem overload_variantOf_mem_utilities {setting : Setting}
    (apart : HandleApart setting.handleType) (form : Form) (function : Function) :
    (form.variantOf setting function).overload ∈
        (utilities setting.handleType).map (·.overload) ↔
      form = .direct ∧ function.overload ∈ takenOverloads := by
  have wrappers : "CallWrapper" ≠ "ResourceId" ∧ "RootCallWrapper" ≠ "ResourceId" := by decide
  have id : (form.receiver setting).type ≠ "ResourceId" := by
    cases form with
    | direct =>
      intro same
      have handle : setting.handleType = "ResourceId" := same
      exact apart (by simp [handle])
    | forwarded => exact wrappers.1
    | root => exact wrappers.2
  have elsewhere : withReceiver (form.receiver setting).type function.overload ∉
      [("fromResourceId", ["ResourceId"]), ("_world", [])] := by
    simp [withReceiver, id]
  have onHandle : (form.receiver setting).type = setting.handleType ↔ form = .direct :=
    (receiver_type_injective apart).eq_iff (b := .direct)
  rw [(overload_utilities_perm setting.handleType).mem_iff, overload_variantOf, List.mem_append,
    or_iff_left elsewhere, List.mem_map]
  constructor
  · intro found
    obtain ⟨taken, listed, same⟩ := found
    obtain ⟨receiver, rfl⟩ := withReceiver_inj.mp same
    exact ⟨onHandle.mp receiver.symm, listed⟩
  · intro clash
    exact ⟨function.overload, clash.2, by rw [onHandle.mpr clash.1]⟩

/-- The functions of a library are pairwise distinct exactly if no function of the system takes the
place of a utility. -/
theorem overload_library_nodup {setting : Setting} (apart : HandleApart setting.handleType)
    {functions : List Function} (distinct : (functions.map (·.overload)).Nodup)
    {given : List Solidity.Function}
    (succeeded : variants setting functions Form.all = .ok given) :
    ((given ++ utilities setting.handleType).map (·.overload)).Nodup ↔
      ∀ f ∈ functions, f.overload ∉ takenOverloads := by
  have first := overload_variants_nodup apart distinct succeeded
  have second := overload_utilities_nodup setting.handleType
  rw [List.map_append, List.nodup_append']
  constructor
  · intro all f member taken
    have direct := variantOf_mem succeeded member .direct rfl
    have clash := (overload_variantOf_mem_utilities apart .direct f).mpr ⟨rfl, taken⟩
    exact all.2.2 (List.mem_map_of_mem direct) clash
  · intro free
    refine ⟨first, second, ?_⟩
    intro overload variant utility
    obtain ⟨v, member, rfl⟩ := List.mem_map.mp variant
    rw [(variants_eq_ok.mp succeeded).2] at member
    obtain ⟨form, _, made⟩ := List.mem_flatMap.mp member
    obtain ⟨f, listed, rfl⟩ := List.mem_map.mp made
    have clash := (overload_variantOf_mem_utilities apart form f).mp utility
    exact free f (List.mem_of_mem_filter listed) clash.2

end CallLibrary.Generator
