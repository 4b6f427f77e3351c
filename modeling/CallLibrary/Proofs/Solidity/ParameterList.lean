import CallLibrary.Proofs.Interface.WellFormed
import CallLibrary.Solidity.Function

/-!
# Taking parameter lists apart

A list of parameters is written as their declarations with commas between them, and types are
written as they are, commas included. A comma therefore tells nothing, and a list is taken apart by
its words. A declaration with a name has as many words as its first ones say: one or two for the
type, perhaps one for the location, and the name. A comma at the end of a name changes nothing about
that, so that the declarations in a list are a code in which none begins another.
-/

namespace CallLibrary.Interface.Parameter

open Text (IsWord isBlank)

/-! ## The words of one declaration -/

def wordsOfType (p : Parameter) : List String :=
  if p.type = "address payable" then ["address", "payable"] else [p.type]

/-- The words of a parameter's declaration. -/
def spelling (p : Parameter) : List String := p.wordsOfType ++ p.wordsBehindType

theorem spelling_ne_nil (p : Parameter) : p.spelling ≠ [] := by
  unfold spelling wordsOfType
  split <;> simp

/-- A declaration is written as its words. -/
theorem intercalate_spelling (p : Parameter) : " ".intercalate p.spelling = p.declaration := by
  have twoWords : "address" ++ " " ++ "payable" = "address payable" := by decide
  have behindType (type : String) : " ".intercalate (type :: p.wordsBehindType) =
      ({ p with type } : Parameter).declaration := by
    obtain ⟨_, location, name⟩ := p
    cases location <;> cases name <;>
      simp [wordsBehindType, declaration, String.intercalate_cons_cons, String.append_assoc]
  unfold spelling wordsOfType
  split
  next isPayable =>
    rw [List.cons_append, List.singleton_append, String.intercalate_cons_cons,
      ← String.intercalate_cons_append, twoWords, behindType, ← isPayable]
  next => exact behindType p.type

/-- A parameter whose declaration tells where it ends: it has a name, and this can be taken neither
for a location nor for the second word of a type. -/
structure TellsItsEnd (p : Parameter) : Prop where
  type : p.type = "address payable" ∨ IsWord p.type
  name : ∃ name, p.name = some name ∧ IsWord name ∧ name ∉ "payable" :: locationKeywords

/-- A parameter that can be read from a declaration tells its end by a name of this kind. -/
theorem WellFormed.tellsItsEnd {p : Parameter} (wellFormed : p.WellFormed) {name : String}
    (named : p.name = some name) (free : name ∉ "payable" :: locationKeywords) :
    p.TellsItsEnd where
  type := wellFormed.type.imp_right And.left
  name := ⟨name, named, wellFormed.name name named, free⟩

namespace TellsItsEnd

variable {p q : Parameter}

theorem isWord_of_mem_spelling (tells : p.TellsItsEnd) : ∀ word ∈ p.spelling, IsWord word := by
  obtain ⟨type, name, named, isWord, _⟩ := tells
  refine List.forall_mem_append.mpr ⟨?ofType, ?behind⟩
  case ofType =>
    unfold wordsOfType
    split
    next => decide
    next other => exact List.forall_mem_singleton.mpr (type.resolve_left other)
  case behind =>
    rw [wordsBehindType, named, List.forall_mem_append]
    refine ⟨fun word inLocation => ?_, List.forall_mem_singleton.mpr isWord⟩
    obtain ⟨location, _, rfl⟩ := Option.map_eq_some_iff.mp (Option.mem_toList.mp inLocation)
    exact isWord_keyword location

/-- The word right behind a type is a location or a name, and never belongs to the type. -/
theorem wordsBehindType_append_ne (tells : p.TellsItsEnd) (rest others : List String) :
    p.wordsBehindType ++ rest ≠ "payable" :: others := by
  obtain ⟨_, name, named, _, free⟩ := tells
  intro same
  cases located : p.location with
  | none =>
    simp only [wordsBehindType, located, named, Option.map_none, Option.toList_none,
      Option.toList_some, List.nil_append, List.singleton_append, List.cons.injEq] at same
    exact free (same.1 ▸ List.mem_cons_self)
  | some location =>
    simp only [wordsBehindType, located, Option.map_some, Option.toList_some, List.cons_append,
      List.nil_append, List.cons.injEq] at same
    have notLocation : "payable" ∉ locationKeywords := by decide
    exact notLocation (DataLocation.mem_locationKeywords.mpr ⟨location, same.1⟩)

/-- The location and the name behind a type can be taken off the front of a list of words. -/
theorem wordsBehindType_append_inj (tells : p.TellsItsEnd) (tells' : q.TellsItsEnd)
    {rest others : List String} (same : p.wordsBehindType ++ rest = q.wordsBehindType ++ others) :
    p.location = q.location ∧ p.name = q.name ∧ rest = others := by
  obtain ⟨_, name, named, _, free⟩ := tells
  obtain ⟨_, name', named', _, free'⟩ := tells'
  have isKeyword (location : DataLocation) : location.keyword ∈ "payable" :: locationKeywords :=
    List.mem_cons_of_mem _ (DataLocation.mem_locationKeywords.mpr ⟨location, rfl⟩)
  rw [wordsBehindType, wordsBehindType, named, named'] at same
  rw [named, named']
  cases located : p.location with
  | none =>
    cases located' : q.location with
    | none =>
      rw [located, located'] at same
      obtain ⟨sameName, sameRest⟩ := List.cons.inj same
      exact ⟨rfl, congrArg some sameName, sameRest⟩
    | some location =>
      rw [located, located'] at same
      exact absurd ((List.cons.inj same).1 ▸ isKeyword location) free
  | some location =>
    cases located' : q.location with
    | none =>
      rw [located, located'] at same
      exact absurd ((List.cons.inj same).1 ▸ isKeyword location) free'
    | some other =>
      rw [located, located'] at same
      obtain ⟨sameKeyword, behind⟩ := List.cons.inj same
      obtain ⟨sameName, sameRest⟩ := List.cons.inj behind
      exact ⟨congrArg some (DataLocation.keyword_inj.mp sameKeyword), congrArg some sameName,
        sameRest⟩

/-- A declaration can be taken off the front of a list of words in one way only. -/
theorem spelling_append_inj (tells : p.TellsItsEnd) (tells' : q.TellsItsEnd)
    {rest others : List String} (same : p.spelling ++ rest = q.spelling ++ others) :
    p = q ∧ rest = others := by
  -- Only `address payable` could be taken for a shorter type, and its rest begins with `payable`.
  have sameType : p.type = q.type ∧ p.wordsBehindType ++ rest = q.wordsBehindType ++ others := by
    unfold spelling wordsOfType at same
    by_cases payable : p.type = "address payable" <;> by_cases payable' : q.type = "address payable"
    · rw [if_pos payable, if_pos payable'] at same
      exact ⟨payable.trans payable'.symm, (List.cons.inj (List.cons.inj same).2).2⟩
    · rw [if_pos payable, if_neg payable'] at same
      exact absurd (List.cons.inj same).2.symm (tells'.wordsBehindType_append_ne _ _)
    · rw [if_neg payable, if_pos payable'] at same
      exact absurd (List.cons.inj same).2 (tells.wordsBehindType_append_ne _ _)
    · rw [if_neg payable, if_neg payable'] at same
      exact List.cons.inj same
  obtain ⟨type, behind⟩ := sameType
  obtain ⟨location, name, sameRest⟩ := wordsBehindType_append_inj tells tells' behind
  exact ⟨by cases p; cases q; simp_all, sameRest⟩

end TellsItsEnd

/-! ## The words of a list -/

/-- The parameter that the words in front of other parameters spell: a comma is taken for the end of
its name. -/
def before (p : Parameter) (rest : List Parameter) : Parameter :=
  if rest = [] then p else { p with name := p.name.map (· ++ ",") }

theorem isWord_append_comma {word : String} (isWord : IsWord word) : IsWord (word ++ ",") := by
  have comma : isBlank ',' = false := by decide
  constructor
  · simp
  · simp only [String.toList_append, List.forall_mem_append]
    exact ⟨isWord.unbroken, List.forall_mem_singleton.mpr comma⟩

theorem append_comma_not_mem (word : String) : word ++ "," ∉ "payable" :: locationKeywords := by
  have ends : ∀ other ∈ "payable" :: locationKeywords, other.toList.getLast? ≠ some ',' := by
    decide
  intro member
  exact ends _ member (by simp)

theorem TellsItsEnd.before {p : Parameter} (tells : p.TellsItsEnd) (rest : List Parameter) :
    (p.before rest).TellsItsEnd := by
  unfold Parameter.before
  split
  next => exact tells
  next =>
    obtain ⟨type, name, named, isWord, _⟩ := tells
    exact ⟨type, name ++ ",", by simp [named], isWord_append_comma isWord,
      append_comma_not_mem name⟩

theorem before_inj {p q : Parameter} {rest : List Parameter} :
    p.before rest = q.before rest ↔ p = q := by
  refine ⟨fun same => ?_, congrArg (before · rest)⟩
  unfold before at same
  split at same
  next => exact same
  next =>
    obtain ⟨type, location, name⟩ := p
    obtain ⟨type', location', name'⟩ := q
    simp only [mk.injEq] at same ⊢
    have commas : Function.Injective fun name : String => name ++ "," :=
      fun _ _ => (String.append_left_inj ",").mp
    exact ⟨same.1, same.2.1, Option.map_injective commas same.2.2⟩

def spellingAll : List Parameter → List String
  | [] => []
  | p :: rest => (p.before rest).spelling ++ spellingAll rest

theorem isWord_of_mem_spellingAll {ps : List Parameter} (tell : ∀ p ∈ ps, p.TellsItsEnd) :
    ∀ word ∈ spellingAll ps, IsWord word := by
  induction ps with
  | nil => simp [spellingAll]
  | cons p rest ih =>
    obtain ⟨tells, others⟩ := List.forall_mem_cons.mp tell
    exact List.forall_mem_append.mpr
      ⟨(tells.before rest).isWord_of_mem_spelling, ih others⟩

/-- The words of a list tell its parameters, if each of these tells where it ends. -/
theorem spellingAll_inj {ps qs : List Parameter} (tell : ∀ p ∈ ps, p.TellsItsEnd)
    (tell' : ∀ q ∈ qs, q.TellsItsEnd) (same : spellingAll ps = spellingAll qs) : ps = qs := by
  have nonempty (p : Parameter) (rest : List String) : p.spelling ++ rest ≠ [] := by
    simp [spelling_ne_nil]
  induction ps generalizing qs with
  | nil =>
    cases qs with
    | nil => rfl
    | cons q qs => exact absurd same.symm (nonempty _ _)
  | cons p ps ih =>
    cases qs with
    | nil => exact absurd same (nonempty _ _)
    | cons q qs =>
      obtain ⟨tells, others⟩ := List.forall_mem_cons.mp tell
      obtain ⟨tells', others'⟩ := List.forall_mem_cons.mp tell'
      obtain ⟨first, rest⟩ :=
        (tells.before ps).spelling_append_inj (tells'.before qs) same
      -- The tails are equal first, and with them whether a comma stands behind the name.
      obtain rfl := ih others others' rest
      rw [before_inj.mp first]

end CallLibrary.Interface.Parameter

namespace CallLibrary.Solidity

open Interface (Parameter)
open Interface.Parameter (TellsItsEnd spellingAll)

/-- A parameter list is its words with single spaces between them. -/
theorem parameterList_eq_intercalate {ps : List Parameter} (tell : ∀ p ∈ ps, p.TellsItsEnd) :
    parameterList ps = " ".intercalate (spellingAll ps) := by
  induction ps with
  | nil => rfl
  | cons p rest ih =>
    obtain ⟨⟨_, name, named, _, _⟩, others⟩ := List.forall_mem_cons.mp tell
    cases rest with
    | nil =>
      rw [parameterList, List.map_singleton, String.intercalate_singleton, spellingAll, spellingAll,
        List.append_nil, Parameter.intercalate_spelling]
      rfl
    | cons q rest =>
      have comma : (p.before (q :: rest)).declaration = p.declaration ++ "," := by
        simp [Parameter.before, Parameter.declaration, named, String.append_assoc]
      have separator : ", " = "," ++ " " := by decide
      have more : spellingAll (q :: rest) ≠ [] := by simp [spellingAll, Parameter.spelling_ne_nil]
      have listed : parameterList (p :: q :: rest) =
          p.declaration ++ ", " ++ parameterList (q :: rest) := by
        simp only [parameterList, List.map_cons, String.intercalate_cons_cons]
      calc
        parameterList (p :: q :: rest)
          = p.declaration ++ ", " ++ parameterList (q :: rest) := listed
        _ = (p.before (q :: rest)).declaration ++ " " ++ parameterList (q :: rest) := by
          rw [comma, separator, ← String.append_assoc]
        _ = " ".intercalate ((p.before (q :: rest)).spelling ++ spellingAll (q :: rest)) := by
          rw [String.intercalate_append_of_ne_nil (Parameter.spelling_ne_nil _) more,
            Parameter.intercalate_spelling, ih others]

/-- Lists of parameters that tell their ends are written differently unless they are equal. -/
theorem parameterList_inj {ps qs : List Parameter} (tell : ∀ p ∈ ps, p.TellsItsEnd)
    (tell' : ∀ q ∈ qs, q.TellsItsEnd) : parameterList ps = parameterList qs ↔ ps = qs := by
  refine ⟨fun same => ?_, congrArg parameterList⟩
  have sameWords := congrArg Text.words same
  rw [parameterList_eq_intercalate tell, parameterList_eq_intercalate tell',
    Text.words_intercalate (Parameter.isWord_of_mem_spellingAll tell),
    Text.words_intercalate (Parameter.isWord_of_mem_spellingAll tell')] at sameWords
  exact Parameter.spellingAll_inj tell tell' sameWords

-- Without names a comma may stand between two declarations or at the end of a type.
example : parameterList [.ofType "a", .ofType "b"] = parameterList [.named "a," "b"] := by decide

end CallLibrary.Solidity
