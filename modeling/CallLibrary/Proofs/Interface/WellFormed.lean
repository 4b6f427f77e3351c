import CallLibrary.Proofs.Interface.Grammar

/-!
# Parameters that their declarations spell

A parameter may have any texts as its type and its name, but only some parameters can be read from a
declaration. These are the ones whose own declaration is read as the parameter again; for all others
the words of the declaration spell something else or nothing.
-/

namespace CallLibrary.Interface.Parameter

open Text (words IsWord)

/-- A parameter whose parts can be told apart in its declaration. -/
structure WellFormed (p : Parameter) : Prop where
  type : p.type = "address payable" ∨ (IsWord p.type ∧ p.type ∉ locationKeywords)
  name : ∀ name ∈ p.name, IsWord name
  location : p.location = none → ∀ name ∈ p.name, name ∉ locationKeywords
  payable : ¬ (p.type = "address" ∧ p.location = none ∧ p.name = some "payable")

theorem isWord_keyword (location : DataLocation) : IsWord location.keyword := by
  cases location <;> decide

/-- What is derived greedily from words is well formed. -/
theorem DerivesGreedily.wellFormed {list : List String} {p : Parameter}
    (greedy : DerivesGreedily list p) (areWords : ∀ word ∈ list, IsWord word) : p.WellFormed := by
  obtain ⟨⟨typeWords, spells, rfl⟩, payable, takes⟩ := greedy
  obtain ⟨inType, behind⟩ := List.forall_mem_append.mp areWords
  have name : ∀ name ∈ p.name, IsWord name := fun name member =>
    behind name (List.mem_append_right _ (Option.mem_toList.mpr member))
  refine ⟨?type, name, takes, ?payable⟩
  case type =>
    rcases spells with ⟨rfl, plain⟩ | ⟨rfl, isPayable⟩
    · exact .inr ⟨inType _ (List.mem_singleton_self _), plain⟩
    · exact .inl isPayable
  case payable =>
    rintro ⟨isAddress, noLocation, named⟩
    rcases spells with ⟨rfl, plain⟩ | ⟨rfl, isPayable⟩
    · have front : ["address", "payable"] <+: [p.type] ++ p.wordsBehindType := by
        simp [wordsBehindType, isAddress, noLocation, named]
      have isPayable := payable front
      rw [isAddress] at isPayable
      exact absurd isPayable (by decide)
    · rw [isAddress] at isPayable
      exact absurd isPayable (by decide)

/-- A well-formed parameter is derived greedily from words. -/
theorem WellFormed.exists_words {p : Parameter} (wellFormed : p.WellFormed) :
    ∃ list, (∀ word ∈ list, IsWord word) ∧ DerivesGreedily list p := by
  obtain ⟨type, name, location, notPayable⟩ := wellFormed
  have behind : ∀ word ∈ p.wordsBehindType, IsWord word := by
    intro word member
    rcases List.mem_append.mp member with inLocation | inName
    · obtain ⟨place, _, rfl⟩ := Option.map_eq_some_iff.mp (Option.mem_toList.mp inLocation)
      exact isWord_keyword place
    · exact name word (Option.mem_toList.mp inName)
  rcases type with isPayable | ⟨isWord, plain⟩
  · have inType : ∀ word ∈ ["address", "payable"], IsWord word := by decide
    exact ⟨_, List.forall_mem_append.mpr ⟨inType, behind⟩, ⟨_, .inr ⟨rfl, isPayable⟩, rfl⟩,
      fun _ => isPayable, location⟩
  · have inType : ∀ word ∈ [p.type], IsWord word := by simpa using isWord
    refine ⟨_, List.forall_mem_append.mpr ⟨inType, behind⟩, ⟨_, .inl ⟨rfl, plain⟩, rfl⟩, ?_,
      location⟩
    rintro ⟨rest, whole⟩
    obtain ⟨isAddress, next⟩ : "address" = p.type ∧ "payable" :: rest = p.wordsBehindType := by
      simpa using whole
    obtain ⟨unlocated, named⟩ := unlocated_of_wordsBehindType (by decide) next.symm
    obtain ⟨isName, _⟩ := eq_some_of_toList_eq_cons named
    exact absurd ⟨isAddress.symm, unlocated, isName⟩ notPayable

/-- Reading a declaration of a parameter gives the parameter if and only if it is well formed. All
that is read is well formed, and its declaration is the words of the text that was read. -/
theorem declaration_read_back (p : Parameter) :
    (parse p.declaration = .ok p ↔ p.WellFormed) ∧
    ∀ text, parse text = .ok p → p.WellFormed ∧ p.declaration = " ".intercalate (words text) := by
  have fromText (text : String) (read : parse text = .ok p) :
      p.WellFormed ∧ p.declaration = " ".intercalate (words text) := by
    have greedy := parse_eq_ok.mp read
    exact ⟨greedy.wellFormed fun _ => Text.isWord_of_mem_words,
      declaration_of_ofWords (ofWords_eq_ok.mpr greedy)⟩
  refine ⟨⟨fun read => (fromText _ read).1, fun wellFormed => ?_⟩, fromText⟩
  obtain ⟨list, areWords, greedy⟩ := wellFormed.exists_words
  rw [parse_eq_ok, declaration_of_ofWords (ofWords_eq_ok.mpr greedy),
    Text.words_intercalate areWords]
  exact greedy

theorem payable_declaration_read_back :
    parse "address \t payable  to" = .ok ⟨"address payable", none, some "to"⟩ ∧
      WellFormed ⟨"address payable", none, some "to"⟩ ∧
      declaration ⟨"address payable", none, some "to"⟩ =
        " ".intercalate (words "address \t payable  to") := by
  have read : parse "address \t payable  to" = .ok ⟨"address payable", none, some "to"⟩ := rfl
  exact ⟨read, (declaration_read_back _).2 _ read⟩

end CallLibrary.Interface.Parameter
