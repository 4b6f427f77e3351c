import CallLibrary.Proofs.Interface.Declaration

/-!
# The grammar of declarations

Words are a declaration if they are those of a type, of a location or nothing, and of a name or
nothing. The grammar is ambiguous, because `payable` and the words for locations may be names as
well. Reading is greedy: a word belongs to the type or is the location wherever it can. It is shown
that greed refuses no words that have a derivation, that reading finds the greedy derivation, and
which defect is reported for words without one.
-/

namespace CallLibrary.Interface

open Text (words IsWord Runs)

def locationKeywords : List String := ["memory", "calldata", "storage"]

namespace DataLocation

theorem keyword_inj {location other : DataLocation} :
    location.keyword = other.keyword ↔ location = other := by
  cases location <;> cases other <;> decide

theorem ofKeyword?_keyword (location : DataLocation) :
    ofKeyword? location.keyword = some location := by
  cases location <;> rfl

theorem mem_locationKeywords {word : String} :
    word ∈ locationKeywords ↔ ∃ location : DataLocation, location.keyword = word := by
  constructor
  · intro member
    simp only [locationKeywords, List.mem_cons, List.not_mem_nil, or_false] at member
    rcases member with rfl | rfl | rfl
    · exact ⟨.memory, rfl⟩
    · exact ⟨.calldata, rfl⟩
    · exact ⟨.storage, rfl⟩
  · rintro ⟨location, rfl⟩
    cases location <;> decide

theorem ofKeyword?_eq_none {word : String} : ofKeyword? word = none ↔ word ∉ locationKeywords := by
  rw [mem_locationKeywords]
  cases named : ofKeyword? word with
  | none =>
    simp only [true_iff]
    rintro ⟨location, rfl⟩
    rw [ofKeyword?_keyword] at named
    cases named
  | some location =>
    simp only [reduceCtorEq, false_iff]
    exact not_not_intro ⟨location, keyword_of_ofKeyword? named⟩

end DataLocation

theorem DeclarationDefect.reason_inj {defect other : DeclarationDefect} :
    defect.reason = other.reason ↔ defect = other := by
  cases defect <;> cases other <;> decide

namespace Parameter

/-! ## Derivations -/

/-- Words that spell a type: one word that names no location, or `address payable`. -/
def SpellsType (list : List String) (type : String) : Prop :=
  (list = [type] ∧ type ∉ locationKeywords) ∨
    (list = ["address", "payable"] ∧ type = "address payable")

def wordsBehindType (p : Parameter) : List String :=
  (p.location.map DataLocation.keyword).toList ++ p.name.toList

/-- Words are those of a parameter's type, of its location if it has one and of its name if it has
one. -/
def Derives (list : List String) (p : Parameter) : Prop :=
  ∃ typeWords, SpellsType typeWords p.type ∧ list = typeWords ++ p.wordsBehindType

/-- A word that can be the location is not the name. -/
def TakesLocation (p : Parameter) : Prop :=
  p.location = none → ∀ name ∈ p.name, name ∉ locationKeywords

/-- A derivation in which `payable` right behind `address` belongs to the type, and a word for a
location right behind the type is the location. -/
structure DerivesGreedily (list : List String) (p : Parameter) : Prop where
  derives : Derives list p
  payable : ["address", "payable"] <+: list → p.type = "address payable"
  location : p.TakesLocation

/-- The words behind a type can be divided so that a word for a location is the location. -/
theorem exists_takesLocation (p : Parameter) :
    ∃ q : Parameter, q.type = p.type ∧ q.wordsBehindType = p.wordsBehindType ∧ q.TakesLocation := by
  by_cases takes : p.TakesLocation
  · exact ⟨p, rfl, rfl, takes⟩
  · obtain ⟨type, location, name⟩ := p
    simp only [TakesLocation, Classical.not_imp, Classical.not_forall, Classical.not_not] at takes
    obtain ⟨rfl, word, rfl, keyword⟩ := takes
    obtain ⟨location, rfl⟩ := DataLocation.mem_locationKeywords.mp keyword
    exact ⟨⟨type, some location, none⟩, rfl, rfl, nofun⟩

/-- A word for a location right behind the type is the location. -/
theorem located_of_wordsBehindType {p : Parameter} {location : DataLocation} {rest : List String}
    (takes : p.TakesLocation) (behind : p.wordsBehindType = location.keyword :: rest) :
    p.location = some location ∧ p.name.toList = rest := by
  obtain ⟨type, place, name⟩ := p
  cases place with
  | none =>
    have named : name = some location.keyword := by cases name <;> simp_all [wordsBehindType]
    exact absurd (DataLocation.mem_locationKeywords.mpr ⟨location, rfl⟩) (takes rfl _ named)
  | some place =>
    obtain ⟨same, named⟩ := List.cons.inj behind
    exact ⟨congrArg some (DataLocation.keyword_inj.mp same), named⟩

/-- Any other word right behind the type is the name. -/
theorem unlocated_of_wordsBehindType {p : Parameter} {word : String} {rest : List String}
    (plain : word ∉ locationKeywords) (behind : p.wordsBehindType = word :: rest) :
    p.location = none ∧ p.name.toList = word :: rest := by
  cases located : p.location with
  | none => exact ⟨rfl, by simpa [wordsBehindType, located] using behind⟩
  | some location =>
    rw [wordsBehindType, located] at behind
    obtain ⟨same, _⟩ := List.cons.inj behind
    exact absurd (DataLocation.mem_locationKeywords.mpr ⟨location, same⟩) plain

theorem eq_some_of_toList_eq_cons {name : Option String} {word : String} {rest : List String}
    (named : name.toList = word :: rest) : name = some word ∧ rest = [] := by
  cases name with
  | none => cases named
  | some other =>
    obtain ⟨same, nothing⟩ := List.cons.inj named
    exact ⟨congrArg some same, nothing.symm⟩

/-- Words that have a derivation have a greedy one. -/
theorem exists_derivesGreedily {list : List String} {p : Parameter} (derives : Derives list p) :
    ∃ q, DerivesGreedily list q := by
  obtain ⟨typeWords, ⟨rfl, plain⟩ | ⟨rfl, isPayable⟩, rfl⟩ := derives
  · by_cases front : ["address", "payable"] <+: [p.type] ++ p.wordsBehindType
    · obtain ⟨rest, whole⟩ := front
      obtain ⟨sameType, behind⟩ : "address" = p.type ∧ "payable" :: rest = p.wordsBehindType := by
        simpa using whole
      obtain ⟨_, named⟩ := unlocated_of_wordsBehindType (by decide) behind.symm
      obtain ⟨_, nothing⟩ := eq_some_of_toList_eq_cons named
      rw [← sameType, ← behind, nothing]
      exact ⟨ofType "address payable", ⟨_, .inr ⟨rfl, rfl⟩, rfl⟩, fun _ => rfl, fun _ => nofun⟩
    · obtain ⟨q, sameType, sameWords, takes⟩ := exists_takesLocation p
      rw [← sameType, ← sameWords] at front ⊢
      exact ⟨q, ⟨_, .inl ⟨rfl, sameType ▸ plain⟩, rfl⟩, fun opens => absurd opens front, takes⟩
  · obtain ⟨q, sameType, sameWords, takes⟩ := exists_takesLocation p
    rw [← sameWords]
    have isPayable' := sameType.trans isPayable
    exact ⟨q, ⟨_, .inr ⟨rfl, isPayable'⟩, rfl⟩, fun _ => isPayable', takes⟩

/-! ## Reading -/

theorem afterLocation_eq_ok {type : String} {location : Option DataLocation} {list : List String}
    {p : Parameter} :
    afterLocation type location list = .ok p ↔
      p.type = type ∧ p.location = location ∧ p.name.toList = list := by
  obtain ⟨type', location', name'⟩ := p
  match list with
  | [] => cases name' <;> simp [afterLocation, eq_comm]
  | [name] => cases name' <;> simp [afterLocation, eq_comm]
  | _ :: _ :: _ => cases name' <;> simp [afterLocation]

/-- Behind a type, the location is read wherever there is one. -/
theorem afterType_eq_ok {type : String} {list : List String} {p : Parameter} :
    afterType type list = .ok p ↔
      p.type = type ∧ p.wordsBehindType = list ∧ p.TakesLocation := by
  cases list with
  | nil =>
    obtain ⟨type', location, name⟩ := p
    cases location <;> cases name <;>
      simp [afterType, ofType, wordsBehindType, TakesLocation, eq_comm (a := type)]
  | cons word rest =>
    by_cases keyword : word ∈ locationKeywords
    · obtain ⟨found, rfl⟩ := DataLocation.mem_locationKeywords.mp keyword
      simp only [afterType, DataLocation.ofKeyword?_keyword, afterLocation_eq_ok]
      constructor
      · rintro ⟨sameType, located, named⟩
        exact ⟨sameType, by simp [wordsBehindType, located, named],
          by simp [TakesLocation, located]⟩
      · rintro ⟨sameType, behind, takes⟩
        exact ⟨sameType, located_of_wordsBehindType takes behind⟩
    · have notFound := DataLocation.ofKeyword?_eq_none.mpr keyword
      simp only [afterType, notFound, afterLocation_eq_ok]
      constructor
      · rintro ⟨sameType, unlocated, named⟩
        have isWord := (eq_some_of_toList_eq_cons named).1
        exact ⟨sameType, by simp [wordsBehindType, unlocated, named],
          by simpa [TakesLocation, isWord] using fun _ => keyword⟩
      · rintro ⟨sameType, behind, _⟩
        exact ⟨sameType, unlocated_of_wordsBehindType keyword behind⟩

theorem ofWords_of_keyword {word : String} (keyword : word ∈ locationKeywords)
    (rest : List String) : ofWords (word :: rest) = .error .noType := by
  obtain ⟨location, rfl⟩ := DataLocation.mem_locationKeywords.mp keyword
  simp [ofWords, DataLocation.ofKeyword?_keyword]

theorem ofWords_of_payable (rest : List String) :
    ofWords ("address" :: "payable" :: rest) = afterType "address payable" rest := rfl

theorem ofWords_of_plain {word : String} {rest : List String} (plain : word ∉ locationKeywords)
    (other : ¬ ["address", "payable"] <+: word :: rest) :
    ofWords (word :: rest) = afterType word rest := by
  have notPayable : ¬ (word = "address" ∧ rest.head? = some "payable") := by
    rintro ⟨rfl, first⟩
    obtain ⟨later, rfl⟩ := List.head?_eq_some_iff.mp first
    exact other (List.prefix_append _ later)
  simp [ofWords, DataLocation.ofKeyword?_eq_none.mpr plain, notPayable]

/-- Reading finds the greedy derivation. -/
theorem ofWords_eq_ok {list : List String} {p : Parameter} :
    ofWords list = .ok p ↔ DerivesGreedily list p := by
  constructor
  · intro read
    cases list with
    | nil => cases read
    | cons word rest =>
      by_cases keyword : word ∈ locationKeywords
      · rw [ofWords_of_keyword keyword] at read
        cases read
      · by_cases front : ["address", "payable"] <+: word :: rest
        · obtain ⟨behind, whole⟩ := front
          rw [← whole, List.cons_append, List.cons_append, List.nil_append, ofWords_of_payable,
            afterType_eq_ok] at read
          obtain ⟨isPayable, rfl, takes⟩ := read
          exact ⟨⟨_, .inr ⟨rfl, isPayable⟩, whole.symm⟩, fun _ => isPayable, takes⟩
        · rw [ofWords_of_plain keyword front, afterType_eq_ok] at read
          obtain ⟨rfl, rfl, takes⟩ := read
          exact ⟨⟨_, .inl ⟨rfl, keyword⟩, rfl⟩, fun opens => absurd opens front, takes⟩
  · rintro ⟨⟨typeWords, ⟨rfl, plain⟩ | ⟨rfl, isPayable⟩, rfl⟩, payable, takes⟩
    · have other : ¬ ["address", "payable"] <+: [p.type] ++ p.wordsBehindType := by
        intro front
        obtain ⟨behind, whole⟩ := front
        have isAddress : "address" = p.type := (List.cons.inj whole).1
        have isPayable := payable ⟨behind, whole⟩
        rw [← isAddress] at isPayable
        exact absurd isPayable (by decide)
      rw [List.singleton_append] at other ⊢
      rw [ofWords_of_plain plain other]
      exact afterType_eq_ok.mpr ⟨rfl, rfl, takes⟩
    · exact afterType_eq_ok.mpr ⟨isPayable, rfl, takes⟩

/-! ## Defects -/

/-- The wording for words that are no declaration. -/
inductive Refused : List String → String → Prop
  | empty : Refused [] "declaration is empty"
  | noType {word : String} {rest : List String} : word ∈ locationKeywords →
    Refused (word :: rest) "declaration must start with a type"
  | underivable {word : String} {rest : List String} : word ∉ locationKeywords →
    (∀ p, ¬ Derives (word :: rest) p) →
    Refused (word :: rest) "expected '<type> [location] [name]'"

theorem eq_extraWord_of_afterType {type : String} {list : List String} {defect : DeclarationDefect}
    (failed : afterType type list = .error defect) : defect = .extraWord := by
  have fromRest {location : Option DataLocation} {rest : List String}
      (failed : afterLocation type location rest = .error defect) : defect = .extraWord := by
    match rest, failed with
    | _ :: _ :: _, rfl => rfl
  unfold afterType at failed
  cases list with
  | nil => cases failed
  | cons word rest =>
    simp only at failed
    split at failed
    · exact fromRest failed
    · exact fromRest failed

/-- Behind a type that can be read, only a word too many can be wrong. -/
theorem eq_extraWord_of_ofWords {word : String} {rest : List String} {defect : DeclarationDefect}
    (plain : word ∉ locationKeywords) (failed : ofWords (word :: rest) = .error defect) :
    defect = .extraWord := by
  by_cases front : ["address", "payable"] <+: word :: rest
  · obtain ⟨behind, whole⟩ := front
    rw [← whole] at failed
    exact eq_extraWord_of_afterType failed
  · rw [ofWords_of_plain plain front] at failed
    exact eq_extraWord_of_afterType failed

/-- The defect that is reported depends on the words only. -/
theorem ofWords_eq_error {list : List String} {defect : DeclarationDefect} :
    ofWords list = .error defect ↔ Refused list defect.reason := by
  constructor
  · intro failed
    cases list with
    | nil =>
      cases failed
      exact .empty
    | cons word rest =>
      by_cases keyword : word ∈ locationKeywords
      · rw [ofWords_of_keyword keyword] at failed
        cases failed
        exact .noType keyword
      · cases eq_extraWord_of_ofWords keyword failed
        refine .underivable keyword fun p derives => ?_
        obtain ⟨q, greedy⟩ := exists_derivesGreedily derives
        rw [ofWords_eq_ok.mpr greedy] at failed
        cases failed
  · intro refused
    generalize wording : defect.reason = reason at refused
    cases refused with
    | empty =>
      have isEmpty : defect = .empty := DeclarationDefect.reason_inj.mp wording
      rw [isEmpty]
      rfl
    | noType keyword =>
      have isNoType : defect = .noType := DeclarationDefect.reason_inj.mp wording
      rw [isNoType]
      exact ofWords_of_keyword keyword _
    | @underivable word rest plain underivable =>
      have isExtraWord : defect = .extraWord := DeclarationDefect.reason_inj.mp wording
      cases read : ofWords (word :: rest) with
      | ok p => exact absurd (ofWords_eq_ok.mp read).derives (underivable p)
      | error other => rw [isExtraWord, eq_extraWord_of_ofWords plain read]

/-! ## Texts -/

/-- Reading a declaration gives its greedy derivation. -/
theorem parse_eq_ok {text : String} {p : Parameter} :
    parse text = .ok p ↔ DerivesGreedily (words text) p := by
  rw [← ofWords_eq_ok, parse]
  cases ofWords (words text) <;> simp

/-- Reading a declaration fails exactly for the reason why its words are refused. -/
theorem parse_eq_error {text : String} {e : DeclarationError} :
    parse text = .error e ↔ e.declaration = text ∧ Refused (words text) e.defect.reason := by
  rw [← ofWords_eq_error, parse]
  obtain ⟨declaration, defect⟩ := e
  cases ofWords (words text) <;> simp [eq_comm]

/-- A declaration can be read exactly if its words have a derivation. -/
theorem exists_parse_iff {text : String} :
    (∃ p, parse text = .ok p) ↔ ∃ p, Derives (words text) p := by
  simp only [parse_eq_ok]
  constructor
  · rintro ⟨p, greedy⟩
    exact ⟨p, greedy.derives⟩
  · rintro ⟨p, derives⟩
    exact exists_derivesGreedily derives

/-- A declaration is read from the words of its text alone. It can be read if and only if these
words have a derivation, and what is read is their greedy derivation. -/
theorem parse_by_grammar (text : String) :
    (∀ list, Runs text.toList list ↔ words text = list) ∧
    (∀ p, parse text = .ok p ↔ DerivesGreedily (words text) p) ∧
    ((∃ p, parse text = .ok p) ↔ ∃ p, Derives (words text) p) ∧
    (∀ e, parse text = .error e ↔
      e.declaration = text ∧ Refused (words text) e.defect.reason) ∧
    ∀ other, words other = words text →
      (parse other).mapError (·.defect) = (parse text).mapError (·.defect) := by
  refine ⟨fun _ => Text.runs_iff, fun _ => parse_eq_ok, exists_parse_iff, fun _ => parse_eq_error,
    fun other same => ?_⟩
  rw [parse, parse, same]
  cases ofWords (words text) with
  | ok p => rfl
  | error defect => rfl

theorem tabs_parse_by_grammar :
    words "uint256\ta\tb" = words "uint256 a b" ∧
      (parse "uint256\ta\tb").mapError (·.defect) =
        (parse "uint256 a b").mapError (·.defect) := by
  have same : words "uint256\ta\tb" = words "uint256 a b" := by decide
  exact ⟨same, (parse_by_grammar "uint256 a b").2.2.2.2 _ same⟩

-- `payable` is a name behind any other type, and so is a word for a location behind another one.
example : ofWords ["uint256", "payable"] = .ok ⟨"uint256", none, some "payable"⟩ ∧
    ofWords ["bytes", "memory", "memory"] = .ok ⟨"bytes", some .memory, some "memory"⟩ :=
  ⟨rfl, rfl⟩

end Parameter

end CallLibrary.Interface
