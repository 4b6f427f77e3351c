import CallLibrary.Proofs.Layout.Openings
import CallLibrary.Solidity.Function
import CallLibrary.Solidity.Identifier
import CallLibrary.Text.Split

/-!
# Names in the scope of a function

The inputs, the named results and the variables of a function share one scope. Variables are read
off from the statements of the body: a declaration, or a tuple of declarations in parentheses,
stands at the front of a statement, and an equals sign and the value follow. What a statement
declares is therefore known from its front, whatever the value is.
-/

namespace CallLibrary.Solidity

open Interface (Parameter)
open Layout (Fragment contents)

/-- Whether a character may stand in a declaration: in its words or between them. -/
def isDeclarationChar (c : Char) : Bool :=
  isNameRest c || c == '.' || c == '[' || c == ']' || c == ' '

/-- The name that a declaration gives, `none` if it gives none or is no declaration. -/
def declaredName? (declaration : List Char) : Option String :=
  match Parameter.parse (String.ofList declaration) with
  | .ok parameter => parameter.name
  | .error _ => none

def declaredNamesOf : List Char → List String
  | '(' :: rest =>
    if [')', ' ', '=', ' '].isPrefixOf (rest.dropWhile (· != ')')) then
      (Text.pieces (· == ',') (rest.takeWhile (· != ')'))).filterMap declaredName?
    else []
  | text =>
    if ['=', ' '].isPrefixOf (text.dropWhile isDeclarationChar) then
      (declaredName? (text.takeWhile isDeclarationChar)).toList
    else []

/-- The names of the variables that a statement declares, with their values. -/
def declaredNames (statement : String) : List String := declaredNamesOf statement.toList

/-- The names of the variables that statements declare, in order. -/
def declaredBy (body : List Fragment) : List String := (contents body).flatMap declaredNames

/-- The names that a function introduces in its scope. -/
def Function.introduced (f : Function) : List String :=
  f.parameters.filterMap (·.name) ++ f.returns.filterMap (·.name) ++ declaredBy f.body

theorem declaredBy_append (body more : List Fragment) :
    declaredBy (body ++ more) = declaredBy body ++ declaredBy more := by
  simp only [declaredBy, Layout.contents_append, List.flatMap_append]

theorem declaredBy_cons_cons (first second : Fragment) (rest : List Fragment) :
    declaredBy (first :: second :: rest) = declaredBy [first] ++ declaredBy (second :: rest) :=
  declaredBy_append [first] (second :: rest)

theorem declaredBy_line (text : String) : declaredBy [.line text] = declaredNames text :=
  List.append_nil _

/-- A front of a statement tells that the statement declares these names: no tuple begins there, and
it shows what follows the declaration, if there is one. -/
def Tells (front : String) (names : List String) : Prop :=
  front.toList.head? ≠ some '(' ∧ 2 ≤ (front.toList.dropWhile isDeclarationChar).length ∧
    declaredNames front = names

instance (front : String) (names : List String) : Decidable (Tells front names) :=
  inferInstanceAs (Decidable (_ ∧ _ ∧ _))

theorem declaredNamesOf_of_no_tuple {text : List Char} (noTuple : text.head? ≠ some '(') :
    declaredNamesOf text =
      if ['=', ' '].isPrefixOf (text.dropWhile isDeclarationChar) then
        (declaredName? (text.takeWhile isDeclarationChar)).toList
      else [] := by
  unfold declaredNamesOf
  split
  next => exact absurd rfl noTuple
  next => rfl

/-- A mark at the front of a text is seen in every front that is as long as the mark. -/
theorem isPrefixOf_append (mark : List Char) {text : List Char} (long : mark.length ≤ text.length)
    (rest : List Char) : mark.isPrefixOf (text ++ rest) = mark.isPrefixOf text := by
  rw [Bool.eq_iff_iff, List.isPrefixOf_iff_prefix, List.isPrefixOf_iff_prefix]
  constructor
  · intro begins
    exact List.prefix_of_prefix_length_le begins (List.prefix_append _ _) long
  · intro begins
    exact begins.trans (List.prefix_append _ _)

/-- A statement declares what its front tells. -/
theorem Tells.declaredNames_append {front : String} {names : List String}
    (tells : Tells front names) (rest : String) : declaredNames (front ++ rest) = names := by
  obtain ⟨noTuple, long, declared⟩ := tells
  have parts := congrArg List.length
    (List.takeWhile_append_dropWhile (p := isDeclarationChar) (l := front.toList))
  rw [List.length_append] at parts
  -- The declaration ends within the front, so that no character of the rest can belong to it.
  have stops : ¬ (front.toList.dropWhile isDeclarationChar).isEmpty = true := by
    rw [List.isEmpty_iff_length_eq_zero]
    omega
  have shorter : ¬ (front.toList.takeWhile isDeclarationChar).length = front.toList.length := by
    omega
  have noTupleWhole : (front.toList ++ rest.toList).head? ≠ some '(' := by
    cases letters : front.toList with
    | nil =>
      rw [letters] at long
      exact absurd long (by decide)
    | cons c others => rwa [letters] at noTuple
  have equals := isPrefixOf_append ['=', ' '] long rest.toList
  rw [← declared, declaredNames, declaredNames, String.toList_append,
    declaredNamesOf_of_no_tuple noTupleWhole, declaredNamesOf_of_no_tuple noTuple,
    List.dropWhile_append, if_neg stops, List.takeWhile_append, if_neg shorter, equals]

example : declaredNames "address payable to = payable(owner);" = ["to"] := by decide +kernel

/-- A statement declares the names that its front tells, however it goes on. -/
theorem Tells.declaredBy_line {front : String} {names : List String} (tells : Tells front names)
    (rest : String) : declaredBy [.line (front ++ rest)] = names := by
  rw [Solidity.declaredBy_line, tells.declaredNames_append]

/-- A comment declares nothing. -/
theorem declaredBy_comment (text : String) : declaredBy [.comment text] = [] := by
  have tells : Tells "// " [] := by decide +kernel
  exact tells.declaredBy_line text

end CallLibrary.Solidity
