import Mathlib.Data.List.Nodup
import CallLibrary.Proofs.Generator.Dispatch
import CallLibrary.Proofs.Solidity.Locals

/-!
# The scope of a variant

A variant takes over the names of its function and adds names of its own: the receiver and the
variables of its body. Which variables there are depends on the form, on whether the function only
reads and on whether it has results. A name of the function that is one of these is introduced
twice.
-/

namespace CallLibrary.Interface

/-- The names that a function itself introduces: its inputs, then its named results. -/
def Function.ownNames (f : Function) : List String :=
  f.parameters.filterMap (·.name) ++ f.returns.filterMap (·.name)

end CallLibrary.Interface

namespace CallLibrary.Generator

open Calls (Form Setting decodedResult systemCallLine)
open Interface (Function Parameter)
open Layout (Fragment)
open Solidity (Tells declaredBy declaredBy_append declaredBy_cons_cons declaredBy_line
  declaredNames)

def locals (form : Form) (function : Function) : List String :=
  let result := if function.returns = [] then [] else ["result"]
  match form with
  | .direct => []
  | .forwarded =>
    "systemCall" ::
      (if ReadsOnly function then ["worldCall", "success", "returnData"] else []) ++ result
  | .root => "systemCall" :: result

/-! ## What the statements declare -/

/-- The fronts of the statements of variants, each with the names that the statement declares. -/
def fronts : List (String × List String) :=
  [("bytes memory systemCall = ", ["systemCall"]),
    ("bytes memory worldCall = ", ["worldCall"]),
    ("bytes memory result = ", ["result"]),
    ("return abi.decode(result, (", []),
    ("CallWrapper(self.toResourceId(), address(0)).", []),
    ("return CallWrapper(self.toResourceId(), address(0)).", []),
    ("if (address(_world()) == address(this)) revert ", []),
    ("if (!success)", []),
    ("? abi.encodeCall", []),
    (": abi.encodeCall", []),
    ("abi.decode(returnData", []),
    ("self.from ==", []),
    ("SystemCall.staticcallOrRevert(self", []),
    ("SystemCall.callWithHooksOrRevert(self", [])]

/-- The fronts tell the names that are listed with them. -/
theorem tells_of_mem_fronts {front : String} {names : List String}
    (listed : (front, names) ∈ fronts) : Tells front names := by
  have all : ∀ entry ∈ fronts, Tells entry.1 entry.2 := by decide +kernel
  exact all _ listed

theorem declaredBy_systemCallLine (interface : String) (function : Function) :
    declaredBy [systemCallLine interface function] = ["systemCall"] := by
  have tells : Tells "bytes memory systemCall = " ["systemCall"] :=
    tells_of_mem_fronts (by simp [fronts])
  rw [systemCallLine, String.append_assoc]
  exact tells.declaredBy_line _

theorem declaredBy_forwardedFront (setting : Setting) (function : Function) :
    declaredBy (forwardedFront setting function) = ["systemCall"] := by
  have comment := Solidity.declaredBy_comment guardComment
  have guard : declaredBy [.line (guardStatement setting.guardError)] = [] := by
    have tells : Tells "if (address(_world()) == address(this)) revert " [] :=
      tells_of_mem_fronts (by simp [fronts])
    have parts : guardStatement setting.guardError =
        "if (address(_world()) == address(this)) revert " ++ (setting.guardError ++ "();") :=
      String.append_assoc
    rw [parts]
    exact tells.declaredBy_line _
  have encode := declaredBy_systemCallLine setting.interface function
  rw [forwardedFront, declaredBy_cons_cons, declaredBy_cons_cons, comment, guard, encode]
  rfl

/-- The last statements declare the result if there are types to decode it by. -/
theorem declaredBy_decodedResult {expression : String}
    (bare : declaredNames (expression ++ ";") = []) (returns : List Parameter) :
    declaredBy (decodedResult expression returns) =
      if returns = [] then [] else ["result"] := by
  by_cases results : returns = []
  · subst results
    rw [decodedResult_nil, declaredBy_line, bare, if_pos rfl]
  · let types := String.intercalate ", " (returns.map (·.type))
    have binds : declaredBy [.line ("bytes memory result = " ++ expression ++ ";")] =
        ["result"] := by
      have tells : Tells "bytes memory result = " ["result"] :=
        tells_of_mem_fronts (by simp [fronts])
      rw [String.append_assoc]
      exact tells.declaredBy_line _
    have gives : declaredBy [.line ("return abi.decode(result, (" ++ types ++ "));")] = [] := by
      have tells : Tells "return abi.decode(result, (" [] :=
        tells_of_mem_fronts (by simp [fronts])
      simp only [String.append_assoc]
      exact tells.declaredBy_line _
    rw [decodedResult_of_ne_nil expression results, if_neg results, declaredBy_cons_cons, binds,
      gives, List.append_nil]

/-- The call of the world is encoded in one statement, which is written on three lines. -/
theorem declaredBy_encodedWorldCall : declaredBy encodedWorldCall = ["worldCall"] := by
  have binds : Tells "bytes memory worldCall = " ["worldCall"] :=
    tells_of_mem_fronts (by simp [fronts])
  have asItself : Tells "? abi.encodeCall" [] := tells_of_mem_fronts (by simp [fronts])
  have asOther : Tells ": abi.encodeCall" [] := tells_of_mem_fronts (by simp [fronts])
  have lines : declaredBy encodedWorldCall =
      declaredNames ("bytes memory worldCall = " ++ "self.from == address(0)") ++
      (declaredNames ("? abi.encodeCall" ++ "(IWorldCall.call, (self.systemId, systemCall))") ++
      (declaredNames (": abi.encodeCall" ++
        "(IWorldCall.callFrom, (self.from, self.systemId, systemCall));") ++ [])) := rfl
  rw [lines, binds.declaredNames_append, asItself.declaredNames_append,
    asOther.declaredNames_append]
  rfl

/-- The static call of the world declares its two results, and nothing is declared by their use. -/
theorem declaredBy_staticDispatch :
    declaredBy [.line staticCall, .line raiseFailure] = ["success", "returnData"] := by
  have binds : declaredNames staticCall = ["success", "returnData"] := by decide +kernel
  have raises : Tells "if (!success)" [] := tells_of_mem_fronts (by simp [fronts])
  have use : declaredNames raiseFailure = [] :=
    raises.declaredNames_append " revertWithBytes(returnData);"
  rw [declaredBy_cons_cons, declaredBy_line, declaredBy_line, binds, use]
  rfl

/-! ## What the bodies declare -/

/-- The call of the forwarded form declares nothing. -/
theorem declaredBy_direct (setting : Setting) (function : Function) :
    declaredBy (Form.direct.variantOf setting function).body = [] := by
  have call : Tells "CallWrapper(self.toResourceId(), address(0))." [] :=
    tells_of_mem_fronts (by simp [fronts])
  have returned : Tells "return CallWrapper(self.toResourceId(), address(0))." [] :=
    tells_of_mem_fronts (by simp [fronts])
  have spelled : "return " ++ "CallWrapper(self.toResourceId(), address(0))." =
      "return CallWrapper(self.toResourceId(), address(0))." := rfl
  rw [direct_body_eq]
  split
  · simp only [String.empty_append, String.append_assoc]
    exact call.declaredBy_line _
  · simp only [spelled, String.append_assoc]
    exact returned.declaredBy_line _

theorem declaredBy_forwarded (setting : Setting) (function : Function) :
    declaredBy (Form.forwarded.variantOf setting function).body = locals .forwarded function := by
  by_cases reads : ReadsOnly function
  · have bare : declaredNames (staticResult ++ ";") = [] := by
      have tells : Tells "abi.decode(returnData" [] := tells_of_mem_fronts (by simp [fronts])
      exact tells.declaredNames_append ", (bytes));"
    have result := declaredBy_decodedResult bare function.returns
    rw [forwarded_body_of_readsOnly reads, declaredBy_append, declaredBy_append, declaredBy_append,
      declaredBy_forwardedFront, declaredBy_encodedWorldCall, declaredBy_staticDispatch, result]
    simp only [locals, if_pos reads, List.cons_append, List.nil_append]
  · have bare : declaredNames (worldCall ++ ";") = [] := by
      have tells : Tells "self.from ==" [] := tells_of_mem_fronts (by simp [fronts])
      exact tells.declaredNames_append
        (" address(0) ? _world().call(self.systemId, systemCall) : " ++
          "_world().callFrom(self.from, self.systemId, systemCall);")
    have result := declaredBy_decodedResult bare function.returns
    rw [forwarded_body_of_writes reads, declaredBy_append, declaredBy_forwardedFront, result]
    simp only [locals, if_neg reads, List.cons_append, List.nil_append]

theorem declaredBy_root (setting : Setting) (function : Function) :
    declaredBy (Form.root.variantOf setting function).body = locals .root function := by
  have bare : declaredNames (rootCall function ++ ";") = [] := by
    unfold rootCall
    split
    · have tells : Tells "SystemCall.staticcallOrRevert(self" [] :=
        tells_of_mem_fronts (by simp [fronts])
      exact tells.declaredNames_append ".from, self.systemId, systemCall);"
    · have tells : Tells "SystemCall.callWithHooksOrRevert(self" [] :=
        tells_of_mem_fronts (by simp [fronts])
      exact tells.declaredNames_append ".from, self.systemId, systemCall, msg.value);"
  rw [root_body_eq, declaredBy_append, declaredBy_systemCallLine, declaredBy_decodedResult bare]
  rfl

/-! ## What a variant introduces -/

/-- A variant introduces its receiver, the names of its function and the variables of its body. -/
theorem introduced_variantOf (form : Form) (setting : Setting) (function : Function) :
    (form.variantOf setting function).introduced =
      "self" :: function.ownNames ++ locals form function := by
  have receiver : (form.receiver setting).name = some "self" := by cases form <;> rfl
  have body : declaredBy (form.variantOf setting function).body = locals form function := by
    cases form with
    | direct => exact declaredBy_direct setting function
    | forwarded => exact declaredBy_forwarded setting function
    | root => exact declaredBy_root setting function
  have inputs : (form.variantOf setting function).parameters.filterMap (·.name) =
      "self" :: function.parameters.filterMap (·.name) :=
    List.filterMap_cons_some receiver
  have results : (form.variantOf setting function).returns = function.returns := rfl
  rw [Solidity.Function.introduced, body, inputs, results, List.cons_append]
  rfl

/-- The names that a variant adds are distinct. -/
theorem added_nodup (form : Form) (function : Function) :
    ("self" :: locals form function).Nodup := by
  have all : ["self", "systemCall", "worldCall", "success", "returnData", "result"].Nodup := by
    decide
  refine all.sublist ?_
  cases form with
  | direct => simp [locals]
  | forwarded =>
    by_cases reads : ReadsOnly function
    · by_cases results : function.returns = []
      · simp [locals, reads, results]
      · simp [locals, reads, results]
    · by_cases results : function.returns = []
      · simp [locals, reads, results]
      · simp [locals, reads, results]
  | root =>
    by_cases results : function.returns = []
    · simp [locals, results]
    · simp [locals, results]

/-- The names of a variant are pairwise distinct exactly if its function, whose own names are
pairwise distinct, uses none that the variant adds. -/
theorem introduced_nodup_iff (form : Form) (setting : Setting) {function : Function}
    (distinct : function.ownNames.Nodup) :
    (form.variantOf setting function).introduced.Nodup ↔
      ∀ name ∈ function.ownNames, name ∉ "self" :: locals form function := by
  have added := added_nodup form function
  have sorted : ("self" :: function.ownNames ++ locals form function).Perm
      (function.ownNames ++ "self" :: locals form function) := List.perm_middle.symm
  rw [introduced_variantOf, sorted.nodup_iff, List.nodup_append', and_iff_right distinct,
    and_iff_right added]
  rfl

end CallLibrary.Generator
