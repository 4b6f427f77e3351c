import CallLibrary.Proofs.Generator.Agreement
import CallLibrary.Proofs.Layout.Openings

/-!
# How variants reach a system

A forwarded variant first refuses to run in a root system and then goes through the world, with a
static call if the function only reads; a root variant goes past the world, again in one of two
ways. Both end with the same statements, which decode what came back by the declared types or leave
it alone if there are none. Each body is a front, whose lines begin with known texts, before these
statements, so that what a body does not do can be read off from how its lines begin.
-/

namespace CallLibrary.Generator

open Calls (Form Setting decodedResult systemCallLine)
open Interface (Function Parameter)
open Layout (Clash Fragment Opens OpensWithin)

def ReadsOnly (function : Function) : Prop :=
  function.mutability = .pure ∨ function.mutability = .view

instance (function : Function) : Decidable (ReadsOnly function) :=
  inferInstanceAs (Decidable (function.mutability = .pure ∨ function.mutability = .view))

theorem isReadOnly_iff {function : Function} :
    function.mutability.isReadOnly = true ↔ ReadsOnly function := by
  unfold ReadsOnly
  cases function.mutability <;> decide

/-! ## What statements do -/

/-- The statement that calls the world without changing the state. -/
def staticCall : String :=
  "(bool success, bytes memory returnData) = address(_world()).staticcall(worldCall);"

def raiseFailure : String := "if (!success) revertWithBytes(returnData);"

def staticResult : String := "abi.decode(returnData, (bytes))"

/-- The call of the world, as another account if there is one. -/
def worldCall : String :=
  "self.from == address(0) ? _world().call(self.systemId, systemCall) : "
    ++ "_world().callFrom(self.from, self.systemId, systemCall)"

/-- The call from a root system that does not change the state. -/
def rootStaticCall : String :=
  "SystemCall.staticcallOrRevert(self.from, self.systemId, systemCall)"

/-- The call from a root system with the hooks of the called system. -/
def rootHooksCall : String :=
  "SystemCall.callWithHooksOrRevert(self.from, self.systemId, systemCall, msg.value)"

def guardComment : String :=
  "if the contract calling this function is a root system, it should use `callAsRoot`"

/-- The statement that refuses a call made by a root system. -/
def guardStatement (guardError : String) : String :=
  "if (address(_world()) == address(this)) revert " ++ guardError ++ "();"

/-- No statement is a comment or depends on a condition. -/
def Unguarded (body : List Fragment) : Prop := ¬ Opens body "//" ∧ ¬ Opens body "if "

/-- No statement binds the result or returns anything. -/
def ResultFree (body : List Fragment) : Prop :=
  ¬ Opens body "bytes memory result" ∧ ¬ Opens body "return"

/-- A statement evaluates an expression, for its effect or for its result. -/
def Evaluates (body : List Fragment) (expression : String) : Prop :=
  Opens body expression ∨ Opens body ("bytes memory result = " ++ expression)

/-- The last statements evaluate an expression. If there are types to decode then the value of the
expression is the result, which is decoded by these types in their order. -/
structure Ends (body : List Fragment) (expression : String) (returns : List Parameter) :
    Prop where
  bare : returns = [] →
    ResultFree body ∧ ∃ front, body = front ++ [.line (expression ++ ";")]
  decoded : returns ≠ [] → ∃ front, ResultFree front ∧
    body = front ++ [.line ("bytes memory result = " ++ expression ++ ";"),
      .line ("return abi.decode(result, (" ++ String.intercalate ", " (returns.map (·.type))
        ++ "));")]

structure Forwards (setting : Setting) (function : Function) (body : List Fragment) : Prop where
  guarded : ∃ rest,
    body = .comment guardComment :: .line (guardStatement setting.guardError) :: rest
  static : Opens body staticCall ↔ ReadsOnly function
  /-- A failure is raised again right after the static call, and nothing is decoded before. -/
  raises : ReadsOnly function → ∃ front after,
    body = front ++ [.line staticCall, .line raiseFailure] ++ after ∧
      ResultFree front ∧ ¬ Opens front "abi.decode"
  world : Evaluates body worldCall ↔ ¬ ReadsOnly function
  ends : Ends body (if ReadsOnly function then staticResult else worldCall) function.returns

structure CallsFromRoot (function : Function) (body : List Fragment) : Prop where
  unguarded : Unguarded body
  static : Evaluates body rootStaticCall ↔ ReadsOnly function
  hooks : Evaluates body rootHooksCall ↔ ¬ ReadsOnly function
  ends : Ends body (if ReadsOnly function then rootStaticCall else rootHooksCall) function.returns

/-- What the variants of a function do. The direct variant is there to call the forwarded one. -/
structure Dispatch (setting : Setting) (function : Function)
    (direct forwarded : Solidity.Function) : Prop where
  direct_given : Form.direct.variant? setting function = .ok (some direct)
  direct_unguarded : Unguarded direct.body
  forwarded_given : Form.forwarded.variant? setting function = .ok (some forwarded)
  forwards : Forwards setting function forwarded.body
  root_given : (∃ root, Form.root.variant? setting function = .ok (some root)) ↔
    setting.isRoot = false ∨ function.mutability = .nonpayable
  calls_from_root : ∀ root, Form.root.variant? setting function = .ok (some root) →
    CallsFromRoot function root.body

/-! ## The last statements -/

def resultOpenings (expression : String) : List String :=
  [expression, "bytes memory result = " ++ expression, "return abi.decode(result, ("]

theorem decodedResult_nil (expression : String) :
    decodedResult expression [] = [.line (expression ++ ";")] := rfl

theorem decodedResult_of_ne_nil (expression : String) {returns : List Parameter}
    (results : returns ≠ []) :
    decodedResult expression returns =
      [.line ("bytes memory result = " ++ expression ++ ";"),
        .line ("return abi.decode(result, (" ++ String.intercalate ", " (returns.map (·.type))
          ++ "));")] := by
  have filled : ¬ returns.isEmpty = true := by simpa using results
  rw [decodedResult, if_neg filled]

theorem opensWithin_decodedResult (expression : String) (returns : List Parameter) :
    OpensWithin (decodedResult expression returns) (resultOpenings expression) := by
  by_cases results : returns = []
  · subst results
    rw [decodedResult_nil]
    exact (Layout.opensWithin_line expression ";").mono (by simp [resultOpenings])
  · have bound := Layout.opensWithin_line ("bytes memory result = " ++ expression) ";"
    have decoded := Layout.opensWithin_line "return abi.decode(result, ("
      (String.intercalate ", " (returns.map (·.type)) ++ "));")
    rw [← String.append_assoc] at decoded
    rw [decodedResult_of_ne_nil expression results]
    exact (Layout.opensWithin_append bound decoded).mono (by simp [resultOpenings])

theorem evaluates_decodedResult (expression : String) (returns : List Parameter) :
    Evaluates (decodedResult expression returns) expression := by
  by_cases results : returns = []
  · subst results
    exact .inl (Layout.opens_line expression ";")
  · rw [decodedResult_of_ne_nil expression results]
    exact .inr (Layout.opens_append.mpr (.inl (Layout.opens_line _ ";")))

/-- Behind statements without a result the last statements are the only ones with one. -/
theorem ends_decodedResult {front : List Fragment} (free : ResultFree front) {expression : String}
    (binds : Clash "bytes memory result" expression) (gives : Clash "return" expression)
    (returns : List Parameter) :
    Ends (front ++ decodedResult expression returns) expression returns := by
  constructor
  case bare =>
    rintro rfl
    have within := Layout.opensWithin_line expression ";"
    have last : ResultFree [.line (expression ++ ";")] :=
      ⟨within.not_opens (by simpa using binds), within.not_opens (by simpa using gives)⟩
    refine ⟨⟨?_, ?_⟩, front, rfl⟩
    · exact fun opens => (Layout.opens_append.mp opens).elim free.1 last.1
    · exact fun opens => (Layout.opens_append.mp opens).elim free.2 last.2
  case decoded =>
    intro results
    rw [decodedResult_of_ne_nil expression results]
    exact ⟨front, free, rfl⟩

/-! ## The statements in front of them -/

/-- The guard and the encoded call. -/
def forwardedFront (setting : Setting) (function : Function) : List Fragment :=
  [.comment guardComment, .line (guardStatement setting.guardError),
    systemCallLine setting.interface function]

def frontOpenings : List String :=
  ["// " ++ guardComment, "if (address(_world()) == address(this)) revert ",
    "bytes memory systemCall = "]

def encodedWorldCall : List Fragment :=
  [.line "bytes memory worldCall = self.from == address(0)",
    .indented
      [.line "? abi.encodeCall(IWorldCall.call, (self.systemId, systemCall))",
        .line ": abi.encodeCall(IWorldCall.callFrom, (self.from, self.systemId, systemCall));"]]

theorem opensWithin_systemCallLine (interface : String) (function : Function) :
    OpensWithin [systemCallLine interface function] ["bytes memory systemCall = "] := by
  rw [systemCallLine, String.append_assoc]
  exact Layout.opensWithin_line _ _

theorem opensWithin_forwardedFront (setting : Setting) (function : Function) :
    OpensWithin (forwardedFront setting function) frontOpenings := by
  have comment := Layout.opensWithin_contents [.comment guardComment]
  have condition := Layout.opensWithin_line "if (address(_world()) == address(this)) revert "
    (setting.guardError ++ "();")
  have encode := opensWithin_systemCallLine setting.interface function
  rw [← String.append_assoc] at condition
  exact Layout.opensWithin_append comment (Layout.opensWithin_append condition encode)

theorem guard_append (setting : Setting) (function : Function) (rest : List Fragment) :
    Calls.guard setting.guardError ++ systemCallLine setting.interface function :: rest =
      forwardedFront setting function ++ rest := by
  have wording : "if the contract calling this function is a root system, "
      ++ "it should use `callAsRoot`" = guardComment := by decide
  rw [Calls.guard, wording]
  rfl

/-- For a function that only reads, the call of the world is encoded and made without changing the
state. -/
theorem forwarded_body_of_readsOnly {function : Function} (reads : ReadsOnly function)
    (setting : Setting) :
    (Form.forwarded.variantOf setting function).body =
      forwardedFront setting function ++ encodedWorldCall ++
        ([.line staticCall, .line raiseFailure] ++
          decodedResult staticResult function.returns) := by
  have readOnly : function.mutability.isReadOnly = true := isReadOnly_iff.mpr reads
  simp only [Form.variantOf, Calls.variant, Form.statements, if_pos readOnly, guard_append,
    List.append_assoc]
  rfl

/-- For a function that writes, the world is called behind the guard and the encoded call. -/
theorem forwarded_body_of_writes {function : Function} (writes : ¬ ReadsOnly function)
    (setting : Setting) :
    (Form.forwarded.variantOf setting function).body =
      forwardedFront setting function ++ decodedResult worldCall function.returns := by
  have notReadOnly : ¬ function.mutability.isReadOnly = true :=
    fun readOnly => writes (isReadOnly_iff.mp readOnly)
  simp only [Form.variantOf, Calls.variant, Form.statements, if_neg notReadOnly, guard_append]
  rfl

def rootCall (function : Function) : String :=
  if ReadsOnly function then rootStaticCall else rootHooksCall

theorem root_body_eq (setting : Setting) (function : Function) :
    (Form.root.variantOf setting function).body =
      [systemCallLine setting.interface function] ++
        decodedResult (rootCall function) function.returns := by
  have same : Calls.rootDispatch function.mutability = rootCall function := by
    unfold Calls.rootDispatch rootCall
    simp only [isReadOnly_iff]
    rfl
  simp only [Form.variantOf, Calls.variant, Form.statements, same, List.singleton_append]

/-! ## What the variants do -/

/-- Statements that begin otherwise do not evaluate an expression. -/
theorem not_evaluates {body : List Fragment} {openings : List String}
    (within : OpensWithin body openings) {expression : String}
    (bare : ∀ other ∈ openings, Clash expression other)
    (bound : ∀ other ∈ openings, Clash ("bytes memory result = " ++ expression) other) :
    ¬ Evaluates body expression := by
  rintro (opens | opens)
  · exact within.not_opens bare opens
  · exact within.not_opens bound opens

theorem Evaluates.behind {body : List Fragment} {expression : String}
    (evaluates : Evaluates body expression) (front : List Fragment) :
    Evaluates (front ++ body) expression := by
  rcases evaluates with opens | opens
  · exact .inl (Layout.opens_append.mpr (.inr opens))
  · exact .inr (Layout.opens_append.mpr (.inr opens))

/-- The direct form has no guard. -/
theorem unguarded_direct (setting : Setting) (function : Function) :
    Unguarded (Form.direct.variantOf setting function).body := by
  have within : OpensWithin (Form.direct.variantOf setting function).body
      ["CallWrapper(self.toResourceId(), address(0)).", "return "] := by
    rw [direct_body_eq]
    simp only [String.append_assoc]
    split
    · rw [String.empty_append]
      exact (Layout.opensWithin_line _ _).mono (by simp)
    · exact (Layout.opensWithin_line _ _).mono (by simp)
  exact ⟨within.not_opens (by decide +kernel), within.not_opens (by decide +kernel)⟩

/-- A function that only reads is forwarded as a static call. -/
theorem forwards_of_readsOnly {function : Function} (reads : ReadsOnly function)
    (setting : Setting) :
    Forwards setting function (Form.forwarded.variantOf setting function).body := by
  have front := Layout.opensWithin_append (opensWithin_forwardedFront setting function)
    (Layout.opensWithin_contents encodedWorldCall)
  have dispatch := Layout.opensWithin_contents [.line staticCall, .line raiseFailure]
  have result := opensWithin_decodedResult staticResult function.returns
  have whole := Layout.opensWithin_append front
    (Layout.opensWithin_append dispatch result)
  rw [forwarded_body_of_readsOnly reads]
  constructor
  case guarded => exact ⟨_, rfl⟩
  case static =>
    have here : Opens [.line staticCall, .line raiseFailure] staticCall :=
      ⟨staticCall, List.mem_cons_self, List.prefix_rfl⟩
    exact iff_of_true (Layout.opens_append.mpr (.inr (Layout.opens_append.mpr (.inl here)))) reads
  case raises =>
    intro _
    exact ⟨_, _, (List.append_assoc _ _ _).symm,
      ⟨front.not_opens (by decide +kernel), front.not_opens (by decide +kernel)⟩,
      front.not_opens (by decide +kernel)⟩
  case world =>
    exact iff_of_false (not_evaluates whole (by decide +kernel) (by decide +kernel))
      (not_not_intro reads)
  case ends =>
    rw [if_pos reads, ← List.append_assoc]
    have before := Layout.opensWithin_append front dispatch
    exact ends_decodedResult
      ⟨before.not_opens (by decide +kernel), before.not_opens (by decide +kernel)⟩
      (by decide +kernel) (by decide +kernel) _

/-- A function that writes is forwarded as a call of the world. -/
theorem forwards_of_writes {function : Function} (writes : ¬ ReadsOnly function)
    (setting : Setting) :
    Forwards setting function (Form.forwarded.variantOf setting function).body := by
  have front := opensWithin_forwardedFront setting function
  have result := opensWithin_decodedResult worldCall function.returns
  have whole := Layout.opensWithin_append front result
  rw [forwarded_body_of_writes writes]
  constructor
  case guarded => exact ⟨_, rfl⟩
  case static =>
    exact iff_of_false (whole.not_opens (by decide +kernel)) writes
  case raises => exact fun reads => absurd reads writes
  case world =>
    exact iff_of_true ((evaluates_decodedResult worldCall function.returns).behind _) writes
  case ends =>
    rw [if_neg writes]
    exact ends_decodedResult
      ⟨front.not_opens (by decide +kernel), front.not_opens (by decide +kernel)⟩
      (by decide +kernel) (by decide +kernel) _

/-- A root variant makes one of two calls, and its statements are the same around both. -/
theorem callsFromRoot (setting : Setting) (function : Function) :
    CallsFromRoot function (Form.root.variantOf setting function).body := by
  have member : rootCall function ∈ [rootStaticCall, rootHooksCall] := by
    unfold rootCall
    split <;> simp
  have apart : ∀ call ∈ [rootStaticCall, rootHooksCall],
      (∀ other ∈ ["bytes memory systemCall = "] ++ resultOpenings call,
        Clash "//" other ∧ Clash "if " other) ∧
      Clash "bytes memory result" call ∧ Clash "return" call := by decide +kernel
  obtain ⟨openings, binds, gives⟩ := apart _ member
  have encode := opensWithin_systemCallLine setting.interface function
  have free : ResultFree [systemCallLine setting.interface function] :=
    ⟨encode.not_opens (by decide +kernel), encode.not_opens (by decide +kernel)⟩
  have whole := Layout.opensWithin_append encode
    (opensWithin_decodedResult (rootCall function) function.returns)
  have calls := (evaluates_decodedResult (rootCall function) function.returns).behind
    [systemCallLine setting.interface function]
  rw [root_body_eq]
  constructor
  case unguarded =>
    exact ⟨whole.not_opens fun other listed => (openings other listed).1,
      whole.not_opens fun other listed => (openings other listed).2⟩
  case static =>
    by_cases reads : ReadsOnly function
    · rw [rootCall, if_pos reads] at calls ⊢
      exact iff_of_true calls reads
    · rw [rootCall, if_neg reads] at whole ⊢
      exact iff_of_false (not_evaluates whole (by decide +kernel) (by decide +kernel)) reads
  case hooks =>
    by_cases reads : ReadsOnly function
    · rw [rootCall, if_pos reads] at whole ⊢
      exact iff_of_false (not_evaluates whole (by decide +kernel) (by decide +kernel))
        (not_not_intro reads)
    · rw [rootCall, if_neg reads] at calls ⊢
      exact iff_of_true calls reads
  case ends => exact ends_decodedResult free binds gives function.returns

/-- With all inputs named every variant of a function does what its form and the mutability and the
results of the function ask for. -/
theorem variants_dispatch (setting : Setting) (function : Function)
    (named : function.InputsNamed) :
    ∃ direct forwarded, Dispatch setting function direct forwarded := by
  refine ⟨Form.direct.variantOf setting function, Form.forwarded.variantOf setting function, ?_⟩
  constructor
  case direct_given => exact Form.variant?_of_inputsNamed named .direct setting
  case direct_unguarded => exact unguarded_direct setting function
  case forwarded_given => exact Form.variant?_of_inputsNamed named .forwarded setting
  case forwards =>
    by_cases reads : ReadsOnly function
    · exact forwards_of_readsOnly reads setting
    · exact forwards_of_writes reads setting
  case root_given =>
    have applies : Form.root.applies setting function = true ↔
        setting.isRoot = false ∨ function.mutability = .nonpayable := by
      simp [Form.applies, Calls.hasRootForm]
    rw [Form.variant?_of_inputsNamed named, ← applies]
    by_cases has : Form.root.applies setting function = true
    · simp [has]
    · simp [has]
  case calls_from_root =>
    intro root given
    obtain ⟨_, rfl⟩ := eq_variantOf named given
    exact callsFromRoot setting function

/-- A function that only reads and has results with a place and a name. -/
def shareOf : Function where
  name := "shareOf"
  parameters := [.named "address" "owner", ⟨"bytes", some .calldata, some "proof"⟩]
  mutability := .view
  returns := [.named "uint256" "share", ⟨"string[]", some .memory, some "notes"⟩]

theorem shareOf_variants_dispatch :
    shareOf.InputsNamed ∧ ∃ direct forwarded,
      Dispatch ⟨"VaultType", "Vault", "VaultLib_CallingFromRootSystem", false⟩ shareOf
        direct forwarded :=
  ⟨by decide, variants_dispatch _ shareOf (by decide)⟩

end CallLibrary.Generator
