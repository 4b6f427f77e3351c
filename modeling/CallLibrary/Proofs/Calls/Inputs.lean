import CallLibrary.Calls.Form
import CallLibrary.Proofs.FirstAt
import CallLibrary.Proofs.Outcome

/-!
# Named inputs

Variants of a function hand its inputs on by name. With all inputs named every form gives its
variant, and the variant has a closed form; the one thing that can go wrong is an input without a
name, and then the error names the function and the least position of such an input.
-/

namespace CallLibrary.Interface

def Function.InputsNamed (function : Function) : Prop :=
  ∀ parameter ∈ function.parameters, parameter.name ≠ none

instance (function : Function) : Decidable function.InputsNamed :=
  inferInstanceAs (Decidable (∀ parameter ∈ function.parameters, parameter.name ≠ none))

end CallLibrary.Interface

namespace CallLibrary.Calls

open Interface (Function Mutability Parameter)
open Layout (Fragment)
open Outcome

/-- Reading the names gives a list exactly if these are the names of all parameters in order. -/
theorem namesFrom_eq_ok {function : String} {position : Nat} {parameters : List Parameter}
    {names : List String} :
    namesFrom function position parameters = .ok names ↔
      parameters.map (·.name) = names.map some := by
  induction parameters generalizing position names with
  | nil => cases names <;> simp [namesFrom]
  | cons parameter rest ih =>
    unfold namesFrom
    cases given : parameter.name with
    | none => cases names <;> simp [given]
    | some name =>
      simp only [bind_eq_ok, ih, pure_eq_ok, Except.ok.injEq, List.map_cons, given]
      constructor
      · rintro ⟨others, same, rfl⟩
        simp [same]
      · intro same
        cases names with
        | nil => simp at same
        | cons first others =>
          simp only [List.map_cons, List.cons.injEq, Option.some.injEq] at same
          exact ⟨others, same.2, by rw [same.1]⟩

/-- It fails with the first position that has no name. -/
theorem namesFrom_eq_error {function : String} {position : Nat} {parameters : List Parameter}
    {e : GenerationError} :
    namesFrom function position parameters = .error e ↔
      ∃ index parameter,
        FirstAt (fun p : Parameter => p.name = none) parameters index parameter ∧
        e = .unnamedParameter function (position + index) := by
  induction parameters generalizing position with
  | nil => simp [namesFrom, not_firstAt_nil]
  | cons parameter rest ih =>
    unfold namesFrom
    cases given : parameter.name with
    | none =>
      simp only [firstAt_cons_of_pos (p := fun p : Parameter => p.name = none) given,
        Except.error.injEq]
      constructor
      · rintro rfl
        exact ⟨0, parameter, ⟨rfl, rfl⟩, rfl⟩
      · rintro ⟨_, _, ⟨rfl, rfl⟩, rfl⟩
        rfl
    | some name =>
      have not : ¬ parameter.name = none := by simp [given]
      simp only [bind_eq_error, ih, pure_eq_ok, reduceCtorEq, and_false, exists_false, or_false,
        firstAt_cons_of_neg (p := fun p : Parameter => p.name = none) not]
      constructor
      · rintro ⟨index, unnamed, first, rfl⟩
        exact ⟨index + 1, unnamed, ⟨index, rfl, first⟩, by rw [Nat.add_assoc, Nat.add_comm 1]⟩
      · rintro ⟨_, unnamed, ⟨index, rfl, first⟩, rfl⟩
        exact ⟨index, unnamed, first, by rw [Nat.add_assoc, Nat.add_comm 1]⟩

def inputNames (function : Function) : List String :=
  function.parameters.filterMap (·.name)

theorem map_name_of_inputsNamed {function : Function} (named : function.InputsNamed) :
    function.parameters.map (·.name) = (inputNames function).map some := by
  have each : ∀ parameters : List Parameter, (∀ p ∈ parameters, p.name ≠ none) →
      parameters.map (·.name) = (parameters.filterMap (·.name)).map some := by
    intro parameters
    induction parameters with
    | nil => simp
    | cons parameter rest ih =>
      intro all
      obtain ⟨name, given⟩ := Option.ne_none_iff_exists'.mp (all parameter (by simp))
      have others := ih fun p member => all p (List.mem_cons_of_mem _ member)
      simp only [List.map_cons, List.filterMap_cons, given, others]
  exact each function.parameters named

theorem namesFrom_of_inputsNamed {function : Function} (named : function.InputsNamed) :
    namesFrom function.name 0 function.parameters = .ok (inputNames function) :=
  namesFrom_eq_ok.mpr (map_name_of_inputsNamed named)

/-! ## The closed form of a variant -/

/-- The arguments that a variant hands on. -/
def argumentList (function : Function) : String := String.intercalate ", " (inputNames function)

/-- The expression that encodes a call: the function and the tuple of its arguments. -/
def encodedTuple (interface : String) (function : Function) : String :=
  "abi.encodeCall(" ++ interface ++ "." ++ function.name ++ ", (" ++ argumentList function ++ "))"

/-- The statement that encodes the call of a function. -/
def systemCallLine (interface : String) (function : Function) : Fragment :=
  .line ("bytes memory systemCall = " ++ encodedTuple interface function ++ ";")

namespace Form

def applies (form : Form) (setting : Setting) (function : Function) : Bool :=
  match form with
  | .direct => true
  | .forwarded => true
  | .root => hasRootForm setting.isRoot function.mutability

/-- The parameter that a form puts in front. -/
def receiver (form : Form) (setting : Setting) : Parameter :=
  match form with
  | .direct => .named setting.handleType "self"
  | .forwarded => Wrapper.world.receiver
  | .root => Wrapper.root.receiver

/-- The statements of a form for a function with named inputs. -/
def statements (form : Form) (setting : Setting) (function : Function) : List Fragment :=
  match form with
  | .direct =>
    let call := Wrapper.world.construct "self.toResourceId()" "address(0)"
      ++ "." ++ function.name ++ "(" ++ argumentList function ++ ");"
    [.line (if function.returns.isEmpty then call else "return " ++ call)]
  | .forwarded =>
    guard setting.guardError ++ systemCallLine setting.interface function ::
      if function.mutability.isReadOnly then staticDispatch function.returns
      else worldDispatch function.returns
  | .root =>
    systemCallLine setting.interface function ::
      decodedResult (rootDispatch function.mutability) function.returns

def variantOf (form : Form) (setting : Setting) (function : Function) : Solidity.Function :=
  variant function (form.receiver setting) (form.statements setting function)

theorem argumentNames_of_inputsNamed {function : Function} (named : function.InputsNamed) :
    argumentNames function.name function.parameters = .ok (argumentList function) := by
  unfold argumentNames
  rw [namesFrom_of_inputsNamed named]
  rfl

/-- With names for all inputs the call of a system can be encoded. -/
theorem systemCall_of_inputsNamed {function : Function} (named : function.InputsNamed)
    (interface : String) :
    systemCall interface function = .ok (systemCallLine interface function) := by
  unfold systemCall encodedCall
  rw [argumentNames_of_inputsNamed named]
  rfl

/-- With all inputs named a form gives its variant, if it has one. -/
theorem variant?_of_inputsNamed {function : Function} (named : function.InputsNamed) (form : Form)
    (setting : Setting) :
    form.variant? setting function =
      .ok (if form.applies setting function then some (form.variantOf setting function)
        else none) := by
  cases form with
  | direct =>
    simp only [variant?, directBody, argumentNames_of_inputsNamed named]
    rfl
  | forwarded =>
    simp only [variant?, forwardedBody, systemCall_of_inputsNamed named]
    rfl
  | root =>
    by_cases has : hasRootForm setting.isRoot function.mutability = true
    · have here : Form.root.applies setting function = true := has
      simp only [variant?, if_pos has, if_pos here, rootBody, systemCall_of_inputsNamed named]
      rfl
    · have absent : ¬ Form.root.applies setting function = true := has
      simp only [variant?, if_neg has, if_neg absent, pure_eq_ok]

/-- A form fails exactly if it has a variant and reading the names fails, with the same error. -/
theorem variant?_eq_error {form : Form} {setting : Setting} {function : Function}
    {e : GenerationError} :
    form.variant? setting function = .error e ↔
      form.applies setting function = true ∧
        namesFrom function.name 0 function.parameters = .error e := by
  cases form with
  | direct => simp [variant?, directBody, argumentNames, applies, bind_eq_error]
  | forwarded =>
    simp [variant?, forwardedBody, systemCall, encodedCall, argumentNames, applies, bind_eq_error]
  | root =>
    simp only [variant?, rootBody, systemCall, encodedCall, argumentNames, applies]
    split
    next has => simp [has, bind_eq_error]
    next lacks => simp [lacks]

end Form

end CallLibrary.Calls
