import CallLibrary.Proofs.Calls.Inputs
import CallLibrary.Proofs.Solidity.OneLines

/-!
# Variants on lines

The statements of a variant are single lines, whatever names and types the function has, as long as
these hold no line feed.
-/

namespace CallLibrary.Calls

open Interface (Function Parameter)
open Layout (OneLines)
open Text (OneLine oneLine_append oneLine_ofList)

theorem Wrapper.oneLine_name (w : Wrapper) : OneLine w.name := by
  cases w <;> decide

theorem Wrapper.value_onLines (w : Wrapper) : w.value.OnLines := by
  refine ⟨w.oneLine_name, fun name given => ?_⟩
  cases given

theorem Wrapper.receiver_onLines (w : Wrapper) : w.receiver.OnLines := by
  refine ⟨w.oneLine_name, fun name given => ?_⟩
  cases given
  decide

theorem Wrapper.oneLine_construct (w : Wrapper) {systemId sender : String}
    (first : OneLine systemId) (second : OneLine sender) :
    OneLine (w.construct systemId sender) := by
  simp only [Wrapper.construct, oneLine_append, w.oneLine_name, first, second, true_and, and_true]
  decide

theorem oneLine_argumentList {function : Function} (oneLine : function.OnLines) :
    OneLine (argumentList function) := by
  refine Text.oneLine_intercalate (by decide) fun name listed => ?_
  obtain ⟨p, member, given⟩ := List.mem_filterMap.mp listed
  exact (oneLine.parameters p member).2 name given

theorem oneLines_decodedResult {expression : String} {returns : List Parameter}
    (call : OneLine expression) (each : ∀ p ∈ returns, p.OnLines) :
    OneLines (decodedResult expression returns) := by
  have types : OneLine (String.intercalate ", " (returns.map (·.type))) := by
    refine Text.oneLine_intercalate (by decide) fun type listed => ?_
    obtain ⟨p, member, rfl⟩ := List.mem_map.mp listed
    exact (each p member).1
  unfold decodedResult
  split
  · simp only [Layout.oneLines_line, oneLine_append, call, true_and]
    decide
  · rw [Layout.oneLines_cons]
    simp only [Layout.oneLines_line, oneLine_append, call, types, and_true]
    decide

theorem oneLines_guard {guardError : String} (oneLine : OneLine guardError) :
    OneLines (guard guardError) := by
  rw [guard, Layout.oneLines_cons]
  simp only [Layout.oneLines_line, Layout.oneLines_comment, oneLine_append, oneLine, and_true]
  exact ⟨⟨oneLine_ofList (by decide), oneLine_ofList (by decide)⟩, oneLine_ofList (by decide),
    by decide⟩

theorem oneLines_staticDispatch {returns : List Parameter} (each : ∀ p ∈ returns, p.OnLines) :
    OneLines (staticDispatch returns) := by
  have result : OneLine "abi.decode(returnData, (bytes))" := oneLine_ofList (by decide)
  refine Layout.oneLines_append.mpr ⟨?_, oneLines_decodedResult result each⟩
  simp only [@Layout.oneLines_cons _ (_ :: _), Layout.oneLines_indented, Layout.oneLines_line]
  exact ⟨oneLine_ofList (by decide), ⟨oneLine_ofList (by decide), oneLine_ofList (by decide)⟩,
    oneLine_ofList (by decide), oneLine_ofList (by decide)⟩

theorem oneLines_worldDispatch {returns : List Parameter} (each : ∀ p ∈ returns, p.OnLines) :
    OneLines (worldDispatch returns) := by
  refine oneLines_decodedResult ?_ each
  exact oneLine_append.mpr ⟨oneLine_ofList (by decide), oneLine_ofList (by decide)⟩

structure Setting.OnLines (setting : Setting) : Prop where
  handleType : OneLine setting.handleType
  interface : OneLine setting.interface
  guardError : OneLine setting.guardError

theorem oneLines_systemCallLine {interface : String} {function : Function}
    (named : OneLine interface) (oneLine : function.OnLines) :
    OneLines [systemCallLine interface function] := by
  have arguments := oneLine_argumentList oneLine
  have name := oneLine.name
  have call : OneLine (encodedTuple interface function) := by
    unfold encodedTuple
    simp only [oneLine_append, named, name, arguments, and_true]
    decide
  refine Layout.oneLines_line.mpr ?_
  simp only [oneLine_append, call, and_true]
  decide

theorem Form.oneLines_statements (form : Form) {setting : Setting} {function : Function}
    (names : setting.OnLines) (oneLine : function.OnLines) :
    OneLines (form.statements setting function) := by
  have encode := oneLines_systemCallLine names.interface oneLine
  cases form with
  | direct =>
    have arguments := oneLine_argumentList oneLine
    have name := oneLine.name
    have wrapper : OneLine (Wrapper.world.construct "self.toResourceId()" "address(0)") :=
      Wrapper.world.oneLine_construct (oneLine_ofList (by decide)) (by decide)
    have call : OneLine (Wrapper.world.construct "self.toResourceId()" "address(0)" ++ "."
        ++ function.name ++ "(" ++ argumentList function ++ ");") := by
      simp only [oneLine_append, wrapper, name, arguments, true_and, and_true]
      decide
    refine Layout.oneLines_line.mpr ?_
    split
    · exact call
    · exact oneLine_append.mpr ⟨by decide, call⟩
  | forwarded =>
    refine Layout.oneLines_append.mpr ⟨oneLines_guard names.guardError, ?_⟩
    refine Layout.oneLines_cons.mpr ⟨encode, ?_⟩
    split
    · exact oneLines_staticDispatch oneLine.returns
    · exact oneLines_worldDispatch oneLine.returns
  | root =>
    have dispatch : OneLine (rootDispatch function.mutability) := by
      unfold rootDispatch
      split
      · exact oneLine_ofList (by decide)
      · exact oneLine_ofList (by decide)
    exact Layout.oneLines_cons.mpr ⟨encode, oneLines_decodedResult dispatch oneLine.returns⟩

theorem Form.receiver_onLines (form : Form) {setting : Setting} (names : setting.OnLines) :
    (form.receiver setting).OnLines := by
  cases form with
  | direct => exact Parameter.onLines_named.mpr ⟨names.handleType, by decide⟩
  | forwarded => exact Wrapper.world.receiver_onLines
  | root => exact Wrapper.root.receiver_onLines

theorem Form.variantOf_onLines (form : Form) {setting : Setting} {function : Function}
    (names : setting.OnLines) (oneLine : function.OnLines) :
    (form.variantOf setting function).OnLines where
  name := oneLine.name
  parameters := List.forall_mem_cons.mpr ⟨form.receiver_onLines names, oneLine.parameters⟩
  returns := oneLine.returns
  body := form.oneLines_statements names oneLine

end CallLibrary.Calls
