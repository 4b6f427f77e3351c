import CallLibrary.Proofs.Generator.Variants

/-!
# Variants agree with each other

The variants of a function are written by different code: the signature in one place, the call that
the direct form makes in another, the encoded call in a third. They fit together because all of them
take the inputs of the function in their declared order. In particular the call that a direct
variant makes resolves to the forwarded variant, which the library always holds as well.
-/

namespace CallLibrary.Generator

open Calls (Form Setting Wrapper)
open Interface (Function Options Parameter)

/-- The statement by which a variant encodes the call of a function with given arguments. -/
def encodeStatement (setting : Setting) (function : Function) (arguments : List String) :
    Layout.Fragment :=
  .line ("bytes memory systemCall = " ++ ("abi.encodeCall(" ++ setting.interface ++ "."
    ++ function.name ++ ", (" ++ String.intercalate ", " arguments ++ "))") ++ ";")

/-- What the variants of a function have in common and how they call each other. The arguments are
the names of the function's inputs. -/
structure Agreement (setting : Setting) (function : Function) (arguments : List String)
    (direct forwarded : Solidity.Function) : Prop where
  arguments_eq : function.parameters.map (·.name) = arguments.map some
  direct_given : Form.direct.variant? setting function = .ok (some direct)
  forwarded_given : Form.forwarded.variant? setting function = .ok (some forwarded)
  root_given : (∃ root, Form.root.variant? setting function = .ok (some root)) ↔
    Calls.hasRootForm setting.isRoot function.mutability = true
  /-- All variants have the name, the keyword and the results of the function, and its inputs after
  one receiver. -/
  signature : ∀ (form : Form) (v : Solidity.Function),
    form.variant? setting function = .ok (some v) →
      v.name = function.name ∧ v.access = Calls.variantAccess function.mutability ∧
      v.returns = function.returns ∧
      ∃ receiver : Parameter, receiver.name = some "self" ∧
        v.parameters = receiver :: function.parameters
  /-- The direct variant is one call of the forwarded one with all arguments. It gives back what the
  forwarded variant gives back. -/
  direct_body : direct.body =
    [.line ((if forwarded.returns.isEmpty then "" else "return ")
      ++ "CallWrapper(self.toResourceId(), address(0))." ++ forwarded.name ++ "("
      ++ String.intercalate ", " arguments ++ ");")]
  forwarded_body : ∃ dispatch, forwarded.body =
    Calls.guard setting.guardError ++ encodeStatement setting function arguments :: dispatch
  root_body : ∀ root, Form.root.variant? setting function = .ok (some root) →
    ∃ dispatch, root.body = encodeStatement setting function arguments :: dispatch
  /-- The forwarded variant takes the wrapper that the direct one makes, and the same inputs. -/
  delegate : forwarded.parameters =
    ⟨"CallWrapper", some .memory, some "self"⟩ :: direct.parameters.tail
  /-- A library with the direct variant has the forwarded one too. -/
  together : ∀ (names : Names) (options : Options) (given : List Solidity.Function),
    function ∈ options.functions → variants setting options.functions Form.all = .ok given →
      [direct.fragment] ∈ (library names options given).members ∧
      [forwarded.fragment] ∈ (library names options given).members

/-- The variant that a form gives is the one written out for named inputs. -/
theorem eq_variantOf {form : Form} {setting : Setting} {function : Function}
    (named : function.InputsNamed) {v : Solidity.Function}
    (given : form.variant? setting function = .ok (some v)) :
    form.applies setting function = true ∧ v = form.variantOf setting function := by
  rw [Form.variant?_of_inputsNamed named] at given
  split at given
  next has =>
    cases given
    exact ⟨has, rfl⟩
  next => cases given

/-- The direct form is a call of the forwarded form on a fresh wrapper. -/
theorem direct_body_eq (setting : Setting) (function : Function) :
    (Form.direct.variantOf setting function).body =
      [.line ((if function.returns.isEmpty then "" else "return ")
        ++ "CallWrapper(self.toResourceId(), address(0))." ++ function.name ++ "("
        ++ Calls.argumentList function ++ ");")] := by
  have wrapper : Wrapper.world.construct "self.toResourceId()" "address(0)" ++ "." =
      "CallWrapper(self.toResourceId(), address(0))." := by decide
  simp only [Form.variantOf, Calls.variant, Form.statements, wrapper]
  split
  · simp only [String.empty_append]
  · simp only [String.append_assoc]

theorem mem_library_members (names : Names) (options : Options) {given : List Solidity.Function}
    {v : Solidity.Function} (member : v ∈ given) :
    [v.fragment] ∈ (library names options given).members := by
  simp only [library, Solidity.Library.addAll, List.mem_append, List.mem_map]
  exact .inl (.inr ⟨v, member, rfl⟩)

/-- A library has a variant of each function in each of the forms that the function has. -/
theorem variantOf_mem {setting : Setting} {functions : List Function}
    {given : List Solidity.Function} (succeeded : variants setting functions Form.all = .ok given)
    {function : Function} (member : function ∈ functions) (form : Form)
    (has : form.applies setting function = true) : form.variantOf setting function ∈ given := by
  rw [(variants_eq_ok.mp succeeded).2, List.mem_flatMap]
  have listed : form ∈ Form.all := by cases form <;> simp [Form.all]
  exact ⟨form, listed, List.mem_map_of_mem (List.mem_filter.mpr ⟨member, has⟩)⟩

/-- With all inputs named the variants of a function agree, whatever the names of the library. -/
theorem variants_agree (setting : Setting) (function : Function)
    (named : function.InputsNamed) :
    ∃ arguments direct forwarded, Agreement setting function arguments direct forwarded := by
  refine ⟨Calls.inputNames function, Form.direct.variantOf setting function,
    Form.forwarded.variantOf setting function, ?_⟩
  constructor
  case arguments_eq => exact Calls.map_name_of_inputsNamed named
  case direct_given => exact Form.variant?_of_inputsNamed named .direct setting
  case forwarded_given => exact Form.variant?_of_inputsNamed named .forwarded setting
  case root_given =>
    constructor
    · rintro ⟨root, given⟩
      exact (eq_variantOf named given).1
    · intro has
      have applies : Form.root.applies setting function = true := has
      refine ⟨Form.root.variantOf setting function, ?_⟩
      rw [Form.variant?_of_inputsNamed named, if_pos applies]
  case signature =>
    intro form v given
    obtain ⟨_, rfl⟩ := eq_variantOf named given
    exact ⟨rfl, rfl, rfl, form.receiver setting, by cases form <;> rfl, rfl⟩
  case direct_body => exact direct_body_eq setting function
  case forwarded_body => exact ⟨_, rfl⟩
  case root_body =>
    intro root given
    obtain ⟨_, rfl⟩ := eq_variantOf named given
    exact ⟨_, rfl⟩
  case delegate => rfl
  case together =>
    intro names options given member succeeded
    have direct := variantOf_mem succeeded member .direct rfl
    have forwarded := variantOf_mem succeeded member .forwarded rfl
    exact ⟨mem_library_members names options direct, mem_library_members names options forwarded⟩

/-- A function with inputs of several kinds of types and with results. -/
def claimShares : Function where
  name := "claimShares"
  parameters := [⟨"uint256[]", some .calldata, some "ids"⟩, .named "address payable" "to"]
  mutability := .payable
  returns := [.ofType "bool", ⟨"string", some .memory, some "note"⟩]

theorem claimShares_variants_agree :
    claimShares.InputsNamed ∧ ∃ arguments direct forwarded,
      Agreement ⟨"VaultType", "Vault", "VaultLib_CallingFromRootSystem", true⟩ claimShares
        arguments direct forwarded :=
  ⟨by decide, variants_agree _ claimShares (by decide)⟩

end CallLibrary.Generator
