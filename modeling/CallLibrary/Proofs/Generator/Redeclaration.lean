import Mathlib.Data.List.ReduceOption
import CallLibrary.Proofs.Generator.Declarations
import CallLibrary.Proofs.Generator.Verdict
import CallLibrary.Proofs.Solidity.Building

/-!
# Functions with another mutability

The mutability of a function is looked at in several places, and none of them tells `pure` from
`view`. What tells `payable` from `nonpayable` is only whether a function of the root namespace has
a root variant. A file whose functions are declared with the other of two such mutabilities is the
same file, except that in the root namespace it gains the root variants of functions that were
payable, each in its place among the other ones.
-/

namespace CallLibrary.Interface

/-- The function with a new mutability in the place of an old one. -/
def Function.redeclared (old new : Mutability) (f : Function) : Function :=
  if f.mutability = old then { f with mutability := new } else f

namespace Options

/-- The options with a new mutability in the place of an old one for the functions at chosen
places. -/
def redeclared (old new : Mutability) (chosen : Nat → Bool) (options : Options) : Options :=
  { options with
    functions := options.functions.mapIdx fun place f =>
      if chosen place then f.redeclared old new else f }

theorem getElem?_redeclared (old new : Mutability) (chosen : Nat → Bool) (options : Options)
    (place : Nat) :
    (options.redeclared old new chosen).functions[place]? =
      options.functions[place]?.map fun f =>
        if chosen place then f.redeclared old new else f :=
  List.getElem?_mapIdx

section

variable {old : Mutability} {chosen : Nat → Bool} {options : Options} {place : Nat} {f : Function}

theorem getElem?_redeclared_of_old (new : Mutability) (stands : options.functions[place]? = some f)
    (isChosen : chosen place = true) (isOld : f.mutability = old) :
    (options.redeclared old new chosen).functions[place]? = some { f with mutability := new } := by
  rw [getElem?_redeclared, stands, Option.map_some, if_pos isChosen, Function.redeclared,
    if_pos isOld]

theorem getElem?_redeclared_of_not (new : Mutability) (stands : options.functions[place]? = some f)
    (other : ¬ (chosen place = true ∧ f.mutability = old)) :
    (options.redeclared old new chosen).functions[place]? = some f := by
  rw [getElem?_redeclared, stands, Option.map_some, Option.some.injEq]
  split
  next isChosen => exact if_neg fun isOld => other ⟨isChosen, isOld⟩
  next => rfl

end

/-- What is the same for redeclared functions is the same for all functions of the options. -/
theorem map_redeclared {α : Type} {old new : Mutability} {look : Function → α}
    (same : ∀ f : Function, look (f.redeclared old new) = look f) (chosen : Nat → Bool)
    (options : Options) :
    (options.redeclared old new chosen).functions.map look = options.functions.map look := by
  refine List.ext_getElem? fun place => ?_
  rw [List.getElem?_map, List.getElem?_map, getElem?_redeclared, Option.map_map]
  refine congrArg (Option.map · _) (funext fun f => ?_)
  by_cases isChosen : chosen place = true
  · simp [isChosen, same]
  · simp [isChosen]

end Options

end CallLibrary.Interface

namespace CallLibrary.Calls.Form

open Interface (Function Mutability)

/-- A variant shows of a mutability whether it only reads. The root form also asks whether there is
a variant at all. -/
theorem variant?_withMutability {form : Form} {setting : Setting} {f : Function} {m : Mutability}
    (readOnly : m.isReadOnly = f.mutability.isReadOnly)
    (given : form = .root →
      hasRootForm setting.isRoot m = hasRootForm setting.isRoot f.mutability) :
    form.variant? setting { f with mutability := m } = form.variant? setting f := by
  -- The keyword and the root form's call ask the same question as the forwarded form's body.
  have access : variantAccess m = variantAccess f.mutability := by
    rw [variantAccess, variantAccess, readOnly]
  have dispatch : rootDispatch m = rootDispatch f.mutability := by
    rw [rootDispatch, rootDispatch, readOnly]
  cases form with
  | direct => simp only [variant?, directBody, variant, access]
  | forwarded =>
    simp only [variant?, forwardedBody, systemCall, encodedCall, variant, access, readOnly]
  | root =>
    simp only [variant?, rootBody, systemCall, encodedCall, variant, access, dispatch, given rfl]

/-- No form tells `pure` from `view`. -/
theorem variant?_redeclared_view (form : Form) (setting : Setting) (f : Function) :
    form.variant? setting (f.redeclared .pure .view) = form.variant? setting f := by
  unfold Function.redeclared
  split
  next pure =>
    have readOnly : Mutability.isReadOnly .view = f.mutability.isReadOnly := by rw [pure]; rfl
    refine variant?_withMutability readOnly fun _ => ?_
    rw [pure, hasRootForm, hasRootForm]
    rfl
  next => rfl

/-- Only the root form in the root namespace tells `payable` from `nonpayable`. -/
theorem variant?_redeclared_nonpayable {form : Form} {setting : Setting}
    (unasked : form = .root → setting.isRoot = false) (f : Function) :
    form.variant? setting (f.redeclared .payable .nonpayable) = form.variant? setting f := by
  unfold Function.redeclared
  split
  next payable =>
    have writes : Mutability.isReadOnly .nonpayable = f.mutability.isReadOnly := by
      rw [payable]
      rfl
    refine variant?_withMutability writes fun isRootForm => ?_
    rw [unasked isRootForm]
    rfl
  next => rfl

/-- A payable function of the root namespace has no root variant. -/
theorem variant?_root_of_payable {setting : Setting} (isRoot : setting.isRoot = true)
    {f : Function} (payable : f.mutability = .payable) :
    Form.root.variant? setting f = .ok none := by
  have absent : hasRootForm setting.isRoot f.mutability = false := by
    rw [isRoot, payable]
    rfl
  rw [variant?, absent]
  rfl

/-- A nonpayable function has a root variant in every namespace. -/
theorem exists_variant?_root_of_nonpayable {f : Function} (named : f.InputsNamed)
    (nonpayable : f.mutability = .nonpayable) (setting : Setting) :
    ∃ v, Form.root.variant? setting f = .ok (some v) := by
  have has : Form.root.applies setting f = true := by
    simp [applies, hasRootForm, nonpayable]
  exact ⟨_, by rw [variant?_of_inputsNamed named, if_pos has]⟩

end CallLibrary.Calls.Form

namespace CallLibrary.Generator

open Calls (Form GenerationError Setting)
open Interface (Function Options)
open Layout (renderAt)
open Outcome
open Solidity (SourceUnit)

/-! ## Loops over functions -/

variable {s : Setting} {form : Form} {functions others : List Function}

/-- The loop over the functions collects the variants that there are. -/
theorem variantsIn_eq_ok {given : List Solidity.Function} :
    variantsIn s form functions = .ok given ↔
      ∃ found : List (Option Solidity.Function),
        functions.map (form.variant? s) = found.map .ok ∧ given = found.reduceOption := by
  induction functions generalizing given with
  | nil => simp [variantsIn, eq_comm]
  | cons f rest ih =>
    simp only [variantsIn, bind_eq_ok, ih, pure_eq_ok, Except.ok.injEq, List.map_cons]
    constructor
    · rintro ⟨v?, here, _, ⟨found, collected, rfl⟩, rfl⟩
      refine ⟨v? :: found, by rw [List.map_cons, here, collected], ?_⟩
      cases v? <;> rfl
    · rintro ⟨found, collected, rfl⟩
      cases found with
      | nil => cases collected
      | cons v? found =>
        obtain ⟨here, others⟩ := List.cons.inj collected
        refine ⟨v?, here, _, ⟨found, others, rfl⟩, ?_⟩
        cases v? <;> rfl

/-- The loop depends on the functions by their variants only. -/
theorem variantsIn_congr
    (same : functions.map (form.variant? s) = others.map (form.variant? s)) :
    variantsIn s form functions = variantsIn s form others := by
  induction functions generalizing others with
  | nil => rw [List.map_eq_nil_iff.mp same.symm]
  | cons f rest ih =>
    cases others with
    | nil => cases same
    | cons g others =>
      obtain ⟨here, behind⟩ := List.cons.inj same
      rw [variantsIn, variantsIn, here, ih behind]

theorem variants_congr {forms : List Form}
    (same : ∀ form ∈ forms,
      functions.map (form.variant? s) = others.map (form.variant? s)) :
    variants s functions forms = variants s others forms := by
  induction forms with
  | nil => rfl
  | cons form rest ih =>
    obtain ⟨first, behind⟩ := List.forall_mem_cons.mp same
    rw [variants, variants, variantsIn_congr first, ih behind]

theorem variants_all_eq_ok {given : List Solidity.Function} :
    variants s functions Form.all = .ok given ↔
      ∃ direct forwarded root, variantsIn s .direct functions = .ok direct ∧
        variantsIn s .forwarded functions = .ok forwarded ∧
        variantsIn s .root functions = .ok root ∧ given = direct ++ forwarded ++ root := by
  simp only [Form.all, variants, bind_eq_ok, pure_eq_ok, Except.ok.injEq]
  constructor
  · rintro ⟨direct, isDirect, _, ⟨forwarded, isForwarded, _, ⟨root, isRoot, _, rfl, rfl⟩, rfl⟩, rfl⟩
    exact ⟨direct, forwarded, root, isDirect, isForwarded, isRoot, by simp⟩
  · rintro ⟨direct, forwarded, root, isDirect, isForwarded, isRoot, rfl⟩
    exact ⟨direct, isDirect, _, ⟨forwarded, isForwarded, _, ⟨root, isRoot, _, rfl, rfl⟩, rfl⟩,
      by simp⟩

/-! ## The text around the variants -/

/-- What a file shows of a variant: an empty line and the function, one level deep. -/
def memberText (v : Solidity.Function) : String := "\n" ++ renderAt 1 [v.fragment]

/-- The members of a library one after the other: the errors, the variants and the utilities. -/
theorem intercalate_members (names : Names) (options : Options)
    (given : List Solidity.Function) :
    "\n".intercalate ((library names options given).members.map (renderAt 1)) =
      renderAt 1 (Solidity.errorLines (allErrors names options)) ++
        String.join (given.map memberText) ++
        String.join ((utilities names.handleType).map memberText) := by
  rw [members_library, List.map_cons, Layout.intercalate_cons_eq_join, List.map_map, List.map_map,
    List.map_append, String.join_append, ← String.append_assoc]
  rfl

/-- The variants of a library stand between the same texts, whatever variants these are. -/
theorem exists_around_variants (names : Names) (options : Options)
    (imports : List Solidity.Import) :
    ∃ opening closing : String, ∀ given,
      (sourceUnit names options imports (library names options given)).render =
        opening ++ String.join (given.map memberText) ++ closing := by
  let front := "\n".intercalate ((frontSections names options imports).map (renderAt 0))
  let comment := Solidity.Library.commentText (library names options []).documentation
  let header := "library " ++ names.library ++ " \x7b\n"
  let errors := renderAt 1 (Solidity.errorLines (allErrors names options))
  let others := String.join ((utilities names.handleType).map memberText)
  refine ⟨front ++ "\n" ++ (comment ++ header ++ errors),
    others ++ "\x7d\n" ++ "\n" ++ renderAt 0 (bindings names), fun given => ?_⟩
  have some : (frontSections names options imports).map (renderAt 0) ≠ [] := by
    simp [frontSections]
  have inside : renderAt 0 (library names options given).fragments =
      comment ++ header ++ (errors ++ String.join (given.map memberText) ++ others) ++
        "\x7d\n" := by
    rw [Solidity.Library.renderAt_fragments, intercalate_members]
    rfl
  rw [SourceUnit.render_eq_intercalate, sections_sourceUnit, List.map_append,
    String.intercalate_append_of_ne_nil some (by simp), List.map_cons, List.map_singleton,
    String.intercalate_cons_cons, String.intercalate_singleton, inside]
  simp only [front, String.append_assoc]

/-! ## Two files -/

/-- A file depends on the functions of its options by their variants only. -/
theorem render_congr {options : Options} {functions : List Function}
    (same : ∀ form : Form,
      functions.map (form.variant? (setting (Names.ofOptions options) options)) =
        options.functions.map (form.variant? (setting (Names.ofOptions options) options))) :
    render { options with functions } = render options := by
  have sameVariants :
      variants (setting (Names.ofOptions options) options) functions Form.all =
        variants (setting (Names.ofOptions options) options) options.functions Form.all :=
    variants_congr fun form _ => same form
  change (do
    let imports ← Calls.resolveImports (allImports options) (Names.ofOptions options).defined
    let given ← variants (setting (Names.ofOptions options) options) functions Form.all
    return (sourceUnit (Names.ofOptions options) options imports
      (library (Names.ofOptions options) options given)).render) = render options
  rw [sameVariants]
  rfl

/-- The root variants of functions, each in the place of its function. -/
def RootVariants (s : Setting) (functions : List Function)
    (found : List (Option Solidity.Function)) : Prop :=
  functions.map (Form.root.variant? s) = found.map .ok

namespace RootVariants

theorem getElem? {found : List (Option Solidity.Function)}
    (given : RootVariants s functions found) {place : Nat} {f : Function}
    (stands : functions[place]? = some f) :
    ∃ v?, found[place]? = some v? ∧ Form.root.variant? s f = .ok v? := by
  have here := congrArg (·[place]?) given
  simp only [List.getElem?_map, stands, Option.map_some] at here
  exact Option.map_eq_some_iff.mp here.symm |>.imp fun _ => And.imp_right Eq.symm

variable {options : Options} {chosen : Nat → Bool} {roots more : List (Option Solidity.Function)}

/-- In the root namespace a function that is no longer payable gains its root variant. -/
theorem gained (given : RootVariants s options.functions roots)
    (given' : RootVariants s (options.redeclared .payable .nonpayable chosen).functions more)
    (isRoot : s.isRoot = true)
    (named : ∀ f ∈ (options.redeclared .payable .nonpayable chosen).functions, f.InputsNamed)
    {place : Nat} {f : Function} (stands : options.functions[place]? = some f)
    (isChosen : chosen place = true) (payable : f.mutability = .payable) :
    roots[place]? = some none ∧ ∃ v, more[place]? = some (some v) := by
  have stands' := Options.getElem?_redeclared_of_old .nonpayable stands isChosen payable
  obtain ⟨none?, found, here⟩ := given.getElem? stands
  obtain ⟨some?, found', here'⟩ := given'.getElem? stands'
  obtain ⟨v, has⟩ :=
    Form.exists_variant?_root_of_nonpayable (named _ (List.mem_of_getElem? stands')) rfl s
  rw [Form.variant?_root_of_payable isRoot payable, Except.ok.injEq] at here
  rw [has, Except.ok.injEq] at here'
  exact ⟨here ▸ found, v, here' ▸ found'⟩

/-- A function that is not redeclared keeps its root variant, or keeps having none. -/
theorem kept (given : RootVariants s options.functions roots)
    (given' : RootVariants s (options.redeclared .payable .nonpayable chosen).functions more)
    {place : Nat} {f : Function} (stands : options.functions[place]? = some f)
    (other : ¬ (chosen place = true ∧ f.mutability = .payable)) : more[place]? = roots[place]? := by
  obtain ⟨v?, found, here⟩ := given.getElem? stands
  obtain ⟨v?', found', here'⟩ :=
    given'.getElem? (Options.getElem?_redeclared_of_not .nonpayable stands other)
  rw [found, found', Except.ok.inj (here.symm.trans here')]

end RootVariants

/-- What a file has besides its root variants. -/
structure Frame where
  opening : String
  direct : List Solidity.Function
  forwarded : List Solidity.Function
  closing : String

def Frame.text (frame : Frame) (roots : List Solidity.Function) : String :=
  frame.opening ++ String.join ((frame.direct ++ frame.forwarded ++ roots).map memberText) ++
    frame.closing

/-- A file with its root variants, and the file in which functions at chosen places are nonpayable
where they were payable. -/
structure GainsRootVariants (options : Options) (chosen : Nat → Bool) (frame : Frame)
    (roots more : List (Option Solidity.Function)) : Prop where
  direct_given : variantsIn (setting (Names.ofOptions options) options) .direct options.functions =
    .ok frame.direct
  forwarded_given :
    variantsIn (setting (Names.ofOptions options) options) .forwarded options.functions =
      .ok frame.forwarded
  given : RootVariants (setting (Names.ofOptions options) options) options.functions roots
  given_redeclared : RootVariants (setting (Names.ofOptions options) options)
    (options.redeclared .payable .nonpayable chosen).functions more
  /-- Both files are the same around their root variants. -/
  rendered : render options = .ok (frame.text roots.reduceOption)
  rendered_redeclared : render (options.redeclared .payable .nonpayable chosen) =
    .ok (frame.text more.reduceOption)
  /-- A function that was payable had no root variant and has one now. -/
  gained : ∀ place f, options.functions[place]? = some f → chosen place = true →
    f.mutability = .payable → roots[place]? = some none ∧ ∃ v, more[place]? = some (some v)
  kept : ∀ place f, options.functions[place]? = some f →
    ¬ (chosen place = true ∧ f.mutability = .payable) → more[place]? = roots[place]?

/-- The other forms do not tell `payable` from `nonpayable` in any namespace. -/
theorem variantsIn_redeclared (form : Form) (notRoot : form ≠ .root) (s : Setting)
    (chosen : Nat → Bool) (options : Options) :
    variantsIn s form (options.redeclared .payable .nonpayable chosen).functions =
      variantsIn s form options.functions :=
  variantsIn_congr (options.map_redeclared
    (Form.variant?_redeclared_nonpayable fun isRootForm => absurd isRootForm notRoot) chosen)

/-- In the root namespace a redeclaration makes the difference between no root variant and one. -/
theorem gainsRootVariants_of_render {options : Options} (isRoot : options.isRoot = true)
    (chosen : Nat → Bool) {text : String} (rendered : render options = .ok text) :
    ∃ frame roots more, GainsRootVariants options chosen frame roots more := by
  obtain ⟨imports, given, made⟩ := render_eq_ok.mp rendered
  let names := Names.ofOptions options
  let s := setting names options
  let other := options.redeclared .payable .nonpayable chosen
  obtain ⟨direct, forwarded, _, isDirect, isForwarded, isRootLast, rfl⟩ :=
    variants_all_eq_ok.mp made.variants_given
  obtain ⟨roots, (collected : RootVariants s options.functions roots), rfl⟩ :=
    variantsIn_eq_ok.mp isRootLast
  have isDirect' := (variantsIn_redeclared .direct nofun s chosen options).trans isDirect
  have isForwarded' := (variantsIn_redeclared .forwarded nofun s chosen options).trans isForwarded
  -- The direct form has gone through all of them, so the inputs of redeclared functions have names.
  have named := inputsNamed_of_variantsIn isDirect'
  obtain ⟨more, (collected' : RootVariants s other.functions more), moreIn⟩ :=
    variantsIn_eq_ok.mp (variantsIn_of_inputsNamed named s .root)
  have isRootLast' : variantsIn s .root other.functions = .ok more.reduceOption := by
    rw [variantsIn_of_inputsNamed named, moreIn]
  obtain ⟨opening, closing, around⟩ := exists_around_variants names options imports
  refine ⟨⟨opening, direct, forwarded, closing⟩, roots, more, ?_⟩
  constructor
  case direct_given => exact isDirect
  case forwarded_given => exact isForwarded
  case given => exact collected
  case given_redeclared => exact collected'
  case rendered => rw [rendered, made.text_eq, around, Frame.text]
  case rendered_redeclared =>
    rw [Frame.text, ← around]
    exact render_eq_ok.mpr ⟨imports, _, made.resolved,
      variants_all_eq_ok.mpr ⟨_, _, _, isDirect', isForwarded', isRootLast', rfl⟩, rfl⟩
  case gained => exact fun _ _ => collected.gained collected' isRoot named
  case kept => exact fun _ _ => collected.kept collected'

/-- An error is the same whether functions are payable or not: the direct form decides on it. -/
theorem render_redeclared_eq_error {options : Options} (chosen : Nat → Bool)
    {e : GenerationError} :
    render (options.redeclared .payable .nonpayable chosen) = .error e ↔
      render options = .error e := by
  have decides (functions : List Function) :
      variantsIn (setting (Names.ofOptions options) options) .direct functions = .error e ↔
        FirstUnnamed functions e := variantsIn_direct_eq_error
  have sameUnnamed :
      FirstUnnamed (options.redeclared .payable .nonpayable chosen).functions e ↔
        FirstUnnamed options.functions e := by
    rw [← decides, ← decides, variantsIn_redeclared .direct nofun]
  rw [render_eq_error, render_eq_error, Refused, Refused, sameUnnamed]
  rfl

/-- Declaring functions `view` that were `pure` leaves the outcome as it is, and so does declaring
functions `nonpayable` that were `payable` outside the root namespace. In the root namespace this
leaves an error as it is, and a file gains the root variants of these functions and nothing else. -/
theorem render_redeclared (options : Options) (chosen : Nat → Bool) :
    render (options.redeclared .pure .view chosen) = render options ∧
    (options.namespaceName ≠ "" →
      render (options.redeclared .payable .nonpayable chosen) = render options) ∧
    (options.namespaceName = "" →
      (∃ e, render options = .error e ∧
        render (options.redeclared .payable .nonpayable chosen) = .error e) ∨
      ∃ frame roots more, GainsRootVariants options chosen frame roots more) := by
  refine ⟨?view, fun inNamespace => ?nonpayable, fun inRoot => ?gains⟩
  case view =>
    exact render_congr fun form =>
      options.map_redeclared (Form.variant?_redeclared_view form _) chosen
  case nonpayable =>
    have notRoot : options.isRoot = false := by simpa [Options.isRoot] using inNamespace
    exact render_congr fun form =>
      options.map_redeclared (Form.variant?_redeclared_nonpayable fun _ => notRoot) chosen
  case gains =>
    have isRoot : options.isRoot = true := by simpa [Options.isRoot] using inRoot
    cases rendered : render options with
    | error e => exact .inl ⟨e, rfl, (render_redeclared_eq_error chosen).mpr rendered⟩
    | ok text => exact .inr (gainsRootVariants_of_render isRoot chosen rendered)

/-- A system with functions of all mutabilities in a namespace. -/
def treasuryOptions (namespaceName : String) : Options where
  libraryName := "TreasuryLib"
  systemLabel := "Treasury"
  systemName := "Treasury"
  namespaceName
  resourceId := "0x7379000000000000000000000000000054726561737572790000000000000000"
  functions := [⟨"deposit", [.named "uint256" "amount"], .payable, []⟩,
    ⟨"close", [], .nonpayable, []⟩,
    ⟨"refund", [.named "address" "account"], .payable, [.ofType "bool"]⟩,
    ⟨"balance", [], .view, [.ofType "uint256"]⟩, ⟨"fee", [], .pure, [.ofType "uint256"]⟩]
  errors := []
  imports := []
  worldPath := "@latticexyz/world/src"
  storePath := "@latticexyz/store/src"

theorem treasury_render_redeclared :
    (treasuryOptions "bank").namespaceName ≠ "" ∧
      render ((treasuryOptions "bank").redeclared .payable .nonpayable (· != 0)) =
        render (treasuryOptions "bank") ∧
      (treasuryOptions "").namespaceName = "" ∧
      ∃ frame roots more,
        GainsRootVariants (treasuryOptions "") (· != 0) frame roots more := by
  have inNamespace : (treasuryOptions "bank").namespaceName ≠ "" := by decide
  have succeeds : (render (treasuryOptions "")).toBool = true := by decide +kernel
  refine ⟨inNamespace, (render_redeclared (treasuryOptions "bank") _).2.1 inNamespace, rfl, ?_⟩
  rcases (render_redeclared (treasuryOptions "") (· != 0)).2.2 rfl with ⟨e, refused, _⟩ | gains
  · rw [refused] at succeeds
    cases succeeds
  · exact gains

end CallLibrary.Generator
