import CallLibrary.Interface.Parameter
import CallLibrary.Proofs.Text.Words

/-!
# Declarations of parameters

A parameter that was read from a declaration is written as the words of that declaration with single
spaces between them, and reading them again gives the parameter again.
-/

namespace CallLibrary.Interface

open Text (words IsWord)

theorem DataLocation.keyword_of_ofKeyword? {word : String} {location : DataLocation}
    (named : ofKeyword? word = some location) : location.keyword = word := by
  unfold ofKeyword? at named
  split at named
  next memory => cases named; exact memory.symm
  split at named
  next calldata => cases named; exact calldata.symm
  split at named
  next storage => cases named; exact storage.symm
  cases named

namespace Parameter

/-- Reading the declaration of a parameter gives the parameter. -/
def Declared (p : Parameter) : Prop := parse p.declaration = .ok p

theorem declaration_of_afterLocation {type : String} {location : Option DataLocation}
    {rest : List String} {p : Parameter} (read : afterLocation type location rest = .ok p) :
    p.declaration =
      " ".intercalate (type :: ((location.map DataLocation.keyword).toList ++ rest)) := by
  match rest, read with
  | [], rfl =>
    cases location <;> simp [declaration, String.intercalate_cons_cons, String.append_assoc]
  | [name], rfl =>
    cases location <;> simp [declaration, String.intercalate_cons_cons, String.append_assoc]

theorem declaration_of_afterType {type : String} {rest : List String} {p : Parameter}
    (read : afterType type rest = .ok p) : p.declaration = " ".intercalate (type :: rest) := by
  unfold afterType at read
  cases rest with
  | nil =>
    cases read
    simp [declaration, ofType]
  | cons word rest =>
    simp only at read
    cases named : DataLocation.ofKeyword? word with
    | none =>
      rw [named] at read
      exact declaration_of_afterLocation read
    | some location =>
      rw [named] at read
      rw [declaration_of_afterLocation read, ← DataLocation.keyword_of_ofKeyword? named]
      rfl

/-- A declaration is written as its words. -/
theorem declaration_of_ofWords {list : List String} {p : Parameter}
    (read : ofWords list = .ok p) : p.declaration = " ".intercalate list := by
  unfold ofWords at read
  cases list with
  | nil => cases read
  | cons type rest =>
    simp only at read
    split at read
    · cases read
    split at read
    next payable =>
      obtain ⟨rfl, first⟩ := payable
      obtain ⟨tail, rfl⟩ := List.head?_eq_some_iff.mp first
      have twoWords : "address payable" = "address" ++ " " ++ "payable" := by decide
      rw [declaration_of_afterType read, twoWords, String.intercalate_cons_append,
        String.intercalate_cons_cons]
      rfl
    next => exact declaration_of_afterType read

/-- A parameter that was read can be read from its own declaration. -/
theorem declared_of_parse {text : String} {p : Parameter} (read : parse text = .ok p) :
    p.Declared := by
  unfold Declared parse at *
  cases spelt : ofWords (words text) with
  | error defect => simp [spelt] at read
  | ok p' =>
    simp only [spelt, Except.ok.injEq] at read
    subst read
    rw [declaration_of_ofWords spelt, Text.words_intercalate fun _ => Text.isWord_of_mem_words,
      spelt]

end Parameter

end CallLibrary.Interface
