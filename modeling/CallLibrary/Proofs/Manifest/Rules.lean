import CallLibrary.Proofs.Manifest.FirstBroken
import CallLibrary.Proofs.Solidity.Identifier
import CallLibrary.Proofs.Text.Hex

/-!
# The rules of a manifest

The rules are listed in the order in which they are checked, each with the violation reported where
it is broken and the text shown for that. Validation reports the first broken rule of this list. No
rule is broken exactly in valid manifests, which are described by their parts and without an order.
-/

namespace CallLibrary

open Interface (ErrorSignature Function ImportRequest Parameter)
open Solidity (ContinuesName IsIdentifier StartsName reservedWords)

/-! ## Valid manifests -/

/-- An identifier that the language does not keep for itself. -/
def IsFreeName (name : String) : Prop := IsIdentifier name ∧ name ∉ reservedWords

/-- A digit in base sixteen, in either case. -/
def IsHexDigit (c : Char) : Prop :=
  ('0' ≤ c ∧ c ≤ '9') ∨ ('a' ≤ c ∧ c ≤ 'f') ∨ ('A' ≤ c ∧ c ≤ 'F')

/-- Sixty-four digits in base sixteen behind their mark. -/
def IsResourceId (id : String) : Prop :=
  ∃ digits, id = "0x" ++ String.ofList digits ∧ digits.length = 64 ∧ ∀ d ∈ digits, IsHexDigit d

/-- The name of a parameter, if it has one, is free. -/
def FreelyNamed (parameter : Parameter) : Prop :=
  ∀ name, parameter.name = some name → IsFreeName name

structure Manifest.Valid (m : Manifest) : Prop where
  name : 1 ≤ m.system.name.utf8ByteSize ∧ m.system.name.utf8ByteSize ≤ 16
  namespaceName : m.system.namespaceName.utf8ByteSize ≤ 14
  resourceId : ∀ id, m.system.resourceId? = some id → IsResourceId id
  label : IsFreeName (m.system.label?.getD m.system.name)
  library : IsFreeName (m.system.library?.getD (m.system.label?.getD m.system.name ++ "Lib"))
  imports : ∀ i ∈ m.imports, IsFreeName i.symbol ∧ i.path ≠ ""
  functions : ∀ f ∈ m.functions, IsFreeName f.name ∧
    (∀ p ∈ f.parameters, p.name ≠ none ∧ FreelyNamed p) ∧ ∀ p ∈ f.returns, FreelyNamed p
  errors : ∀ e ∈ m.errors, IsFreeName e.name ∧ ∀ p ∈ e.parameters, FreelyNamed p

/-! ## The rules in order -/

/-- The rules for a name. The context says what it names, and where. -/
def nameRules (context name : String) : List Rule :=
  let wording := "invalid " ++ context ++ " name '" ++ name ++ "'"
  [⟨name ∉ reservedWords, .reservedName name context,
      "'" ++ name ++ "' is a Solidity reserved word"⟩,
    ⟨name ≠ "", .badName name context .empty, wording⟩,
    ⟨∀ c ∈ name.toList.head?, StartsName c, .badName name context .badStart, wording⟩,
    ⟨∀ c ∈ name.toList.tail, ContinuesName c, .badName name context .badCharacter, wording⟩]

def parameterRules (owner : String) (parameter : Parameter) : List Rule :=
  parameter.name.toList.flatMap (nameRules ("parameter in '" ++ owner ++ "'"))

def inputRules (owner : String) (input : Parameter × Nat) : List Rule :=
  ⟨input.1.name ≠ none, .unnamedParameter owner input.2 input.1,
    "parameter " ++ toString input.2 ++ " ('" ++ input.1.declaration ++ "') of '" ++ owner
      ++ "' must be named"⟩ :: parameterRules owner input.1

def SystemIdentity.rules (system : SystemIdentity) : List Rule :=
  [⟨system.name ≠ "", .emptySystemName, "system name cannot be empty"⟩,
    ⟨system.name.utf8ByteSize ≤ 16, .longSystemName system.name,
      "system name '" ++ system.name ++ "' is " ++ toString system.name.utf8ByteSize
        ++ " bytes long, at most 16 are allowed"⟩,
    ⟨system.namespaceName.utf8ByteSize ≤ 14, .longNamespace system.namespaceName,
      "namespace '" ++ system.namespaceName ++ "' is "
        ++ toString system.namespaceName.utf8ByteSize ++ " bytes long, at most 14 are allowed"⟩]
    ++ system.resourceId?.toList.map (fun id =>
      ⟨IsResourceId id, .badResourceId id, "resource id must be '0x' followed by 64 hex digits"⟩)
    ++ nameRules "system label" (system.label?.getD system.name)
    ++ nameRules "library" (system.library?.getD (system.label?.getD system.name ++ "Lib"))

def importRules (request : ImportRequest) : List Rule :=
  nameRules "import" request.symbol ++
    [⟨request.path ≠ "", .emptyImportPath request.symbol,
      "import '" ++ request.symbol ++ "' has an empty path"⟩]

def functionRules (function : Function) : List Rule :=
  nameRules "function" function.name
    ++ function.parameters.zipIdx.flatMap (inputRules function.name)
    ++ function.returns.flatMap (parameterRules function.name)

def errorRules (error : ErrorSignature) : List Rule :=
  nameRules "error" error.name ++ error.parameters.flatMap (parameterRules error.name)

def Manifest.rules (m : Manifest) : List Rule :=
  m.system.rules ++ m.imports.flatMap importRules ++ m.functions.flatMap functionRules
    ++ m.errors.flatMap errorRules

/-! ## Each check reports the first of its broken rules -/

theorem Scope.describe_push (owner kind : String) :
    (Scope.top.push owner).describe kind = kind ++ " in '" ++ owner ++ "'" := by
  simp [Scope.top, Scope.push, Scope.describe, Scope.dotted]

/-- The check of a name as four conditions in sequence. -/
theorem Scope.checkName_eq (scope : Scope) (name kind : String) :
    scope.checkName name kind = (do
      require (!Solidity.isReserved name) (.reservedName name (scope.describe kind))
      require (!name.isEmpty) (.badName name (scope.describe kind) .empty)
      require (name.toList.head?.all Solidity.isNameStart)
        (.badName name (scope.describe kind) .badStart)
      require (name.toList.tail.all Solidity.isNameRest)
        (.badName name (scope.describe kind) .badCharacter)) := by
  unfold Scope.checkName Solidity.nameDefect?
  cases reserved : Solidity.isReserved name with
  | true => rfl
  | false =>
    cases spelled : name.toList with
    | nil =>
      have empty : name = "" := by simpa using spelled
      subst empty
      rfl
    | cons first rest =>
      have nonempty : name.isEmpty = false := by
        rw [String.isEmpty_eq_false_iff]
        rintro rfl
        cases spelled
      cases starts : Solidity.isNameStart first <;>
        cases continues : rest.all Solidity.isNameRest <;>
          simp [Solidity.nameDefectOf?, require, bind, Except.bind, nonempty, starts, continues]

/-- The check of a name reports the first of the rules for names that is broken. -/
theorem reports_checkName (scope : Scope) (name kind : String) :
    Reports (scope.checkName name kind) (nameRules (scope.describe kind) name) := by
  rw [Scope.checkName_eq, nameRules]
  refine .requireThen ?unreserved (.requireThen ?nonempty
    (.requireThen ?starts (.require ?continues)))
  case unreserved => simp [← Solidity.isReserved_iff]
  case nonempty => simp
  case starts => simp [Option.all_eq_true, Solidity.isNameStart_iff]
  case continues => simp [Solidity.isNameRest_iff]

theorem isHexDigit_iff {c : Char} : Text.isHexDigit c = true ↔ IsHexDigit c := by
  unfold Text.isHexDigit Text.hexValue? IsHexDigit
  split
  next decimal => simp [decimal]
  next other =>
    split
    next small => simp [small]
    next =>
      split
      next capital => simp [capital]
      next => simp_all

/-- An id that decodes to thirty-two bytes is one with sixty-four digits. -/
theorem isValid_iff {id : String} : ResourceId.isValid id = true ↔ IsResourceId id := by
  unfold ResourceId.isValid
  split
  next digits spelled =>
    have whole : id = "0x" ++ String.ofList digits := by
      rw [← String.toList_inj, spelled]
      simp
    have decoded : (Text.bytesOfHex? digits).any (·.length == 32) = true ↔
        digits.length = 64 ∧ ∀ d ∈ digits, IsHexDigit d := by
      simp only [Option.any_eq_true, beq_iff_eq, Text.exists_bytesOfHex?_iff digits 32,
        isHexDigit_iff]
    rw [decoded]
    constructor
    · rintro ⟨length, each⟩
      exact ⟨digits, whole, length, each⟩
    · rintro ⟨digits', whole', length, each⟩
      have same : digits = digits' := by
        have spelled' := congrArg String.toList (whole.symm.trans whole')
        simpa using spelled'
      subst same
      exact ⟨length, each⟩
  next other =>
    simp only [Bool.false_eq_true, false_iff]
    rintro ⟨digits, rfl, _⟩
    exact other digits (by simp)

theorem reports_checkResourceId (id? : Option String) :
    Reports (checkResourceId id?) (id?.toList.map fun id =>
      ⟨IsResourceId id, .badResourceId id,
        "resource id must be '0x' followed by 64 hex digits"⟩) := by
  cases id? with
  | none => exact .ok
  | some id => exact .require isValid_iff

theorem reports_systemCheck (system : SystemIdentity) : Reports system.check system.rules := by
  have nonempty : (!system.name.isEmpty) = true ↔ system.name ≠ "" := by simp
  have resourceId := reports_checkResourceId system.resourceId?
  have label := reports_checkName Scope.top system.label "system label"
  have library := reports_checkName Scope.top system.library "library"
  simp only [SystemIdentity.rules, List.append_assoc, List.cons_append, List.nil_append]
  exact .requireThen nonempty (.requireThen decide_eq_true_iff
    (.requireThen decide_eq_true_iff (resourceId.andThen (label.andThen library))))

theorem reports_checkImport (request : ImportRequest) :
    Reports (checkImport request) (importRules request) :=
  (reports_checkName Scope.top request.symbol "import").andThen (.require (by simp))

theorem reports_checkInput (owner : String) (input : Parameter × Nat) :
    Reports (checkParameter owner true input.2 input.1) (inputRules owner input) := by
  obtain ⟨parameter, position⟩ := input
  unfold checkParameter inputRules parameterRules
  cases given : parameter.name with
  | none =>
    intro violation
    rw [firstBroken_cons_of_broken (by simp)]
    simp [require, eq_comm]
  | some name =>
    intro violation
    rw [firstBroken_cons_of_holds (by simp)]
    have reports := reports_checkName (Scope.top.push owner) name "parameter"
    simpa [Scope.describe_push] using reports violation

theorem reports_checkResult (owner : String) (result : Parameter × Nat) :
    Reports (checkParameter owner false result.2 result.1) (parameterRules owner result.1) := by
  obtain ⟨parameter, position⟩ := result
  unfold checkParameter parameterRules
  cases given : parameter.name with
  | none => exact .ok
  | some name =>
    simpa [Scope.describe_push] using reports_checkName (Scope.top.push owner) name "parameter"

/-- The checks of parameters count their positions. -/
theorem reports_checkParameters {owner : String} {areInputs : Bool}
    {rules : Parameter × Nat → List Rule}
    (each : ∀ p : Parameter × Nat, Reports (checkParameter owner areInputs p.2 p.1) (rules p))
    (parameters : List Parameter) (position : Nat) :
    Reports (checkParameters owner areInputs position parameters)
      ((parameters.zipIdx position).flatMap rules) := by
  induction parameters generalizing position with
  | nil => exact .ok
  | cons parameter rest ih => exact (each (parameter, position)).andThen (ih (position + 1))

theorem reports_checkResults (owner : String) (parameters : List Parameter) :
    Reports (checkParameters owner false 0 parameters)
      (parameters.flatMap (parameterRules owner)) := by
  have unnumbered : (parameters.zipIdx 0).flatMap (fun p => parameterRules owner p.1) =
      parameters.flatMap (parameterRules owner) := by
    rw [← List.flatMap_map, List.zipIdx_map_fst]
  rw [← unnumbered]
  exact reports_checkParameters (reports_checkResult owner) parameters 0

theorem reports_checkFunction (function : Function) :
    Reports (checkFunction function) (functionRules function) := by
  have name := reports_checkName Scope.top function.name "function"
  have inputs := reports_checkParameters (reports_checkInput function.name) function.parameters 0
  have results := reports_checkResults function.name function.returns
  have checks := name.andThen (inputs.andThen results)
  rwa [← List.append_assoc] at checks

theorem reports_checkError (error : ErrorSignature) :
    Reports (checkError error) (errorRules error) :=
  (reports_checkName Scope.top error.name "error").andThen
    (reports_checkResults error.name error.parameters)

/-- Validation reports the first broken rule. -/
theorem Manifest.reports_validate (m : Manifest) : Reports m.validate m.rules := by
  have checks := (reports_systemCheck m.system).andThen
    ((Reports.checkAll reports_checkImport m.imports).andThen
      ((Reports.checkAll reports_checkFunction m.functions).andThen
        (Reports.checkAll reports_checkError m.errors)))
  rwa [← List.append_assoc, ← List.append_assoc] at checks

/-! ## No rule is broken in valid manifests -/

/-- A name breaks no rule exactly if it is free. -/
theorem holds_nameRules (context name : String) :
    (∀ rule ∈ nameRules context name, rule.holds) ↔ IsFreeName name := by
  simp only [nameRules, List.forall_mem_cons, List.not_mem_nil, false_imp_iff, forall_true_iff,
    and_true, IsFreeName]
  cases spelled : name.toList with
  | nil =>
    have empty : name = "" := by simpa using spelled
    simp [IsIdentifier, empty]
  | cons first rest =>
    have nonempty : name ≠ "" := by
      rintro rfl
      cases spelled
    simp [Solidity.isIdentifier_iff spelled, nonempty, and_comm]

theorem holds_parameterRules (owner : String) (parameter : Parameter) :
    (∀ rule ∈ parameterRules owner parameter, rule.holds) ↔ FreelyNamed parameter := by
  simp only [parameterRules, List.forall_mem_flatMap, holds_nameRules, FreelyNamed,
    Option.mem_toList]

theorem holds_inputRules (owner : String) (input : Parameter × Nat) :
    (∀ rule ∈ inputRules owner input, rule.holds) ↔
      input.1.name ≠ none ∧ FreelyNamed input.1 := by
  rw [inputRules, List.forall_mem_cons, holds_parameterRules]

theorem holds_systemRules (system : SystemIdentity) :
    (∀ rule ∈ system.rules, rule.holds) ↔
      (1 ≤ system.name.utf8ByteSize ∧ system.name.utf8ByteSize ≤ 16) ∧
        system.namespaceName.utf8ByteSize ≤ 14 ∧
        (∀ id, system.resourceId? = some id → IsResourceId id) ∧
        IsFreeName (system.label?.getD system.name) ∧
        IsFreeName (system.library?.getD (system.label?.getD system.name ++ "Lib")) := by
  have nonempty : system.name ≠ "" ↔ 1 ≤ system.name.utf8ByteSize := by
    rw [Nat.one_le_iff_ne_zero, Ne, Ne, String.utf8ByteSize_eq_zero_iff]
  simp only [SystemIdentity.rules, List.forall_mem_append, List.forall_mem_cons, holds_nameRules,
    List.forall_mem_map, Option.mem_toList, List.not_mem_nil, false_imp_iff, forall_true_iff,
    and_true, and_assoc, nonempty]

theorem holds_importRules (request : ImportRequest) :
    (∀ rule ∈ importRules request, rule.holds) ↔
      IsFreeName request.symbol ∧ request.path ≠ "" := by
  simp only [importRules, List.forall_mem_append, holds_nameRules, List.forall_mem_singleton]

theorem holds_functionRules (function : Function) :
    (∀ rule ∈ functionRules function, rule.holds) ↔
      IsFreeName function.name ∧
        (∀ p ∈ function.parameters, p.name ≠ none ∧ FreelyNamed p) ∧
        ∀ p ∈ function.returns, FreelyNamed p := by
  have inputs : (∀ input ∈ function.parameters.zipIdx,
      input.1.name ≠ none ∧ FreelyNamed input.1) ↔
      ∀ p ∈ function.parameters, p.name ≠ none ∧ FreelyNamed p := by
    rw [← List.forall_mem_map (P := fun p => p.name ≠ none ∧ FreelyNamed p),
      List.zipIdx_map_fst]
  simp only [functionRules, List.forall_mem_append, holds_nameRules, List.forall_mem_flatMap,
    holds_inputRules, holds_parameterRules, inputs, and_assoc]

theorem holds_errorRules (error : ErrorSignature) :
    (∀ rule ∈ errorRules error, rule.holds) ↔
      IsFreeName error.name ∧ ∀ p ∈ error.parameters, FreelyNamed p := by
  simp only [errorRules, List.forall_mem_append, holds_nameRules, List.forall_mem_flatMap,
    holds_parameterRules]

/-- A manifest is valid exactly if it breaks no rule. -/
theorem Manifest.valid_iff {m : Manifest} : m.Valid ↔ ∀ rule ∈ m.rules, rule.holds := by
  simp only [rules, List.forall_mem_append, List.forall_mem_flatMap, holds_systemRules,
    holds_importRules, holds_functionRules, holds_errorRules]
  constructor
  · intro valid
    exact ⟨⟨⟨⟨valid.name, valid.namespaceName, valid.resourceId, valid.label, valid.library⟩,
      valid.imports⟩, valid.functions⟩, valid.errors⟩
  · rintro ⟨⟨⟨⟨name, namespaceName, resourceId, label, library⟩, imports⟩, functions⟩, errors⟩
    exact ⟨name, namespaceName, resourceId, label, library, imports, functions, errors⟩

/-! ## What is reported -/

/-- A rule shows the text of its violation, and a reserved word is never taken for misspelt. -/
structure Rule.Fits (rule : Rule) : Prop where
  text : rule.violation.message = rule.text
  unreserved : ∀ name context defect, rule.violation = .badName name context defect →
    ¬ rule.holds → name ∉ reservedWords

/-- Rules that are about something else than a name. -/
theorem Rule.Fits.of_text {rule : Rule} (text : rule.violation.message = rule.text)
    (other : ∀ name context defect, rule.violation ≠ .badName name context defect) : rule.Fits :=
  ⟨text, fun name context defect same => absurd same (other name context defect)⟩

theorem fits_nameRules (context name : String) : ∀ rule ∈ nameRules context name, rule.Fits := by
  -- A reserved word is an identifier, so it breaks none of the rules behind the first.
  have spelled (reserved : name ∈ reservedWords) : name ≠ "" ∧
      (∀ c ∈ name.toList.head?, StartsName c) ∧ ∀ c ∈ name.toList.tail, ContinuesName c := by
    obtain ⟨first, rest, letters, starts, continues⟩ := Solidity.isIdentifier_of_reserved reserved
    refine ⟨?_, by simpa [letters] using starts, by simpa [letters] using continues⟩
    rintro rfl
    cases letters
  simp only [nameRules, List.forall_mem_cons, List.not_mem_nil, false_imp_iff, forall_true_iff,
    and_true]
  refine ⟨.of_text rfl (by simp), ⟨rfl, ?_⟩, ⟨rfl, ?_⟩, ⟨rfl, ?_⟩⟩
  · rintro _ _ _ ⟨⟩ broken reserved
    exact broken (spelled reserved).1
  · rintro _ _ _ ⟨⟩ broken reserved
    exact broken (spelled reserved).2.1
  · rintro _ _ _ ⟨⟩ broken reserved
    exact broken (spelled reserved).2.2

theorem fits_parameterRules (owner : String) (parameter : Parameter) :
    ∀ rule ∈ parameterRules owner parameter, rule.Fits :=
  List.forall_mem_flatMap.mpr fun name _ => fits_nameRules _ name

theorem fits_inputRules (owner : String) (input : Parameter × Nat) :
    ∀ rule ∈ inputRules owner input, rule.Fits :=
  List.forall_mem_cons.mpr ⟨.of_text rfl nofun, fits_parameterRules owner input.1⟩

theorem Violation.tooLong_eq {what opening ending : String} {limit : Nat}
    (front : what ++ " '" = opening)
    (back : " bytes long, at most " ++ (toString limit ++ " are allowed") = ending)
    (name : String) :
    tooLong what name limit =
      opening ++ name ++ "' is " ++ toString name.utf8ByteSize ++ ending := by
  subst front back
  simp only [tooLong, String.append_assoc]

theorem fits_systemRules (system : SystemIdentity) : ∀ rule ∈ system.rules, rule.Fits := by
  simp only [SystemIdentity.rules, List.forall_mem_append, List.forall_mem_cons,
    List.forall_mem_map, List.not_mem_nil, false_imp_iff, forall_true_iff, and_true]
  refine ⟨⟨⟨⟨.of_text rfl nofun, .of_text ?name nofun, .of_text ?namespaceName nofun⟩,
    fun id _ => .of_text rfl nofun⟩, fits_nameRules _ _⟩, fits_nameRules _ _⟩
  case name => exact Violation.tooLong_eq (by decide) (by decide) system.name
  case namespaceName => exact Violation.tooLong_eq (by decide) (by decide) system.namespaceName

/-- Every rule of a manifest shows the text of its violation. -/
theorem Manifest.fits_rules (m : Manifest) : ∀ rule ∈ m.rules, rule.Fits := by
  simp only [rules, importRules, functionRules, errorRules, List.forall_mem_append,
    List.forall_mem_flatMap, List.forall_mem_singleton]
  refine ⟨⟨⟨fits_systemRules m.system, fun i _ => ⟨fits_nameRules _ _, ?path⟩⟩,
    fun f _ => ⟨⟨fits_nameRules _ _, fun input _ => fits_inputRules _ input⟩,
      fun p _ => fits_parameterRules _ p⟩⟩,
    fun e _ => ⟨fits_nameRules _ _, fun p _ => fits_parameterRules _ p⟩⟩
  case path => exact .of_text rfl nofun

/-- Validation accepts exactly the valid manifests. A manifest that is not valid is refused with the
violation and the text of the first rule that it breaks, and a reserved word is reported as such and
never as misspelt. -/
theorem Manifest.validate_verdict (m : Manifest) :
    (m.validate = .ok () ↔ m.Valid) ∧
    (∀ violation, m.validate = .error violation ↔
      ∃ position rule, FirstAt (fun r : Rule => ¬ r.holds) m.rules position rule ∧
        violation = rule.violation) ∧
    (∀ rule ∈ m.rules, rule.violation.message = rule.text) ∧
    ∀ name context defect, m.validate = .error (.badName name context defect) →
      name ∉ reservedWords := by
  have reports := m.reports_validate
  refine ⟨?accepts, reports, fun rule member => (m.fits_rules rule member).text, ?unreserved⟩
  case accepts => rw [reports.passes, valid_iff]
  case unreserved =>
    intro name context defect failed
    obtain ⟨_, rule, first, same⟩ := (reports _).mp failed
    exact (m.fits_rules rule first.mem).unreserved name context defect same.symm first.2.1

end CallLibrary
