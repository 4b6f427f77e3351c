import Mathlib.Data.List.Nodup
import Mathlib.Data.List.Pairwise
import CallLibrary.Document.Shape
import CallLibrary.Proofs.Outcome

/-!
# Spellings of a structure

A structure is read entry by entry into a draft. If every field has names of its own and a place of
its own in the draft, two entries may change places, so that only the entries count and not their
order. From this follows what else does not matter: an entry that is no field of an open structure,
and whether all fields are given by name or as an array.
-/

namespace CallLibrary.Document

open Outcome

variable {P σ α : Type}

/-! ## Fields in a draft -/

def Field.names (field : Field P σ) : List String := field.name :: field.aliases

/-- What a field makes of a draft, if it accepts the value. -/
def Field.fill (field : Field P σ) (value : Node P) (draft : σ) : Option σ :=
  (field.read value draft).toOption

/-- What a field that may be given once makes of a draft. -/
def Field.offer (field : Field P σ) (value : Node P) (draft : σ) : Option σ :=
  if field.isGiven draft then none else field.fill value draft

/-- A field is given once it has been filled. -/
def Field.Marks (field : Field P σ) : Prop :=
  ∀ value draft filled, field.fill value draft = some filled → field.isGiven filled = true

/-- Two fields whose values are kept in different places of a draft. -/
structure Field.Apart (field other : Field P σ) : Prop where
  commute : ∀ value value' draft,
    (field.fill value draft).bind (other.fill value') =
      (other.fill value' draft).bind (field.fill value)
  keeps : ∀ value draft filled, field.fill value draft = some filled →
    other.isGiven filled = other.isGiven draft
  kept : ∀ value draft filled, other.fill value draft = some filled →
    field.isGiven filled = field.isGiven draft

/-- The fields of a shape are told apart by their names and kept apart in its drafts. -/
structure Shape.Orderly (shape : Shape P σ α) : Prop where
  distinct : (shape.fields.flatMap (·.names)).Nodup
  fresh : ∀ field ∈ shape.fields, field.isGiven shape.start = false
  marks : ∀ field ∈ shape.fields, field.Marks
  apart : shape.fields.Pairwise Field.Apart

theorem Field.Apart.symm {field other : Field P σ} (apart : field.Apart other) :
    other.Apart field :=
  ⟨fun value value' draft => (apart.commute value' value draft).symm, apart.kept, apart.keeps⟩

instance : Std.Symm (Field.Apart (P := P) (σ := σ)) := ⟨fun _ _ apart => apart.symm⟩

/-- No field is given twice. -/
theorem Field.Marks.offer_twice {field : Field P σ} (marks : field.Marks) (value value' : Node P)
    (draft : σ) : (field.offer value draft).bind (field.offer value') = none := by
  unfold offer
  split
  · rfl
  · cases filled : field.fill value draft with
    | none => rfl
    | some next => simp [marks value draft next filled]

theorem Field.Apart.offer_bind {field other : Field P σ} (apart : field.Apart other)
    (value value' : Node P) (draft : σ) :
    (field.offer value draft).bind (other.offer value') =
      if field.isGiven draft || other.isGiven draft then none
      else (field.fill value draft).bind (other.fill value') := by
  unfold offer
  cases field.isGiven draft with
  | true => rfl
  | false =>
    cases filled : field.fill value draft with
    | none => simp
    | some next => simp [apart.keeps value draft next filled]

/-- Fields that are kept apart may be given in either order. -/
theorem Field.Apart.offer_commute {field other : Field P σ} (apart : field.Apart other)
    (value value' : Node P) (draft : σ) :
    (field.offer value draft).bind (other.offer value') =
      (other.offer value' draft).bind (field.offer value) := by
  rw [apart.offer_bind, apart.symm.offer_bind, Bool.or_comm, apart.commute]

/-! ## Fields that put what they read into a place of their own -/

section Put

variable {β γ : Type} {name name' : String} {aliases aliases' : List String}
  {presence presence' : Presence} {isGiven isGiven' : σ → Bool}
  {parse : Node P → Except (Error P) β} {parse' : Node P → Except (Error P) γ}
  {put : β → σ → σ} {put' : γ → σ → σ}

theorem Field.fill_put (value : Node P) :
    (Field.mk name aliases presence isGiven
      fun node draft => return put (← parse node) draft).fill value =
      fun draft => (parse value).toOption.map (put · draft) := by
  funext draft
  simp only [fill]
  cases parse value <;> rfl

theorem Field.Marks.of_put (given : ∀ b draft, isGiven (put b draft) = true) :
    (Field.mk name aliases presence isGiven
      fun node draft => return put (← parse node) draft).Marks := by
  intro value draft filled accepted
  simp only [fill_put, Option.map_eq_some_iff] at accepted
  obtain ⟨b, _, rfl⟩ := accepted
  exact given b draft

theorem Field.Apart.of_put
    (commute : ∀ b c draft, put' c (put b draft) = put b (put' c draft))
    (keeps : ∀ b draft, isGiven' (put b draft) = isGiven' draft)
    (kept : ∀ c draft, isGiven (put' c draft) = isGiven draft) :
    (Field.mk name aliases presence isGiven
      fun node draft => return put (← parse node) draft).Apart
      (Field.mk name' aliases' presence' isGiven'
        fun node draft => return put' (← parse' node) draft) where
  commute value value' draft := by
    simp only [fill_put]
    cases parse value <;> cases parse' value' <;> simp [commute]
  keeps value draft filled accepted := by
    simp only [fill_put, Option.map_eq_some_iff] at accepted
    obtain ⟨b, _, rfl⟩ := accepted
    exact keeps b draft
  kept value draft filled accepted := by
    simp only [fill_put, Option.map_eq_some_iff] at accepted
    obtain ⟨c, _, rfl⟩ := accepted
    exact kept c draft

end Put

/-! ## Reading with errors forgotten -/

/-- A run of steps does not depend on their order if no two of them do. -/
theorem foldlM_eq_of_perm {β : Type} {step : σ → β → Option σ}
    (commute : ∀ s b c, (step s b).bind (step · c) = (step s c).bind (step · b))
    {l others : List β} (same : l.Perm others) (start : σ) :
    l.foldlM step start = others.foldlM step start := by
  induction same generalizing start with
  | nil => rfl
  | cons b _ ih => simp only [List.foldlM_cons, ih]
  | swap b c rest =>
    have exchanged := congrArg (·.bind fun s => rest.foldlM step s) (commute start c b)
    simp only [Option.bind_assoc] at exchanged
    exact exchanged
  | trans _ _ first second => exact (first start).trans (second start)

namespace Shape

def fieldNamed? (shape : Shape P σ α) (name : String) : Option (Field P σ) :=
  shape.fields.find? fun field => name ∈ field.names

/-- What an entry of a table makes of a draft, if it is accepted. -/
def take (format : Format P) (shape : Shape P σ α) (draft : σ) (entry : Key P × Node P) :
    Option σ :=
  entry.1.text.bind fun name =>
    match shape.fieldNamed? name with
    | some field => field.offer entry.2 draft
    | none => if !shape.isClosed && format.allowsAside entry.2 then some draft else none

variable {format : Format P} {shape : Shape P σ α} {mark : P}

theorem toOption_readEntry (draft : σ) (entry : Key P × Node P) :
    (shape.readEntry format mark draft entry).toOption = shape.take format draft entry := by
  unfold readEntry take fieldNamed?
  cases entry.1.text with
  | none => rfl
  | some name =>
    have same : (fun field : Field P σ => field.name == name || field.aliases.contains name) =
        fun field => decide (name ∈ field.names) := by
      funext field
      simp [Field.names, eq_comm, Bool.beq_eq_decide_eq]
    simp only [same, Option.bind_some]
    cases shape.fields.find? fun field => decide (name ∈ field.names) with
    | none => cases shape.isClosed <;> cases format.allowsAside entry.2 <;> rfl
    | some field =>
      simp only [Field.offer]
      cases field.isGiven draft <;> rfl

theorem toOption_complete (draft : σ) :
    (shape.complete mark draft).toOption = (shape.finish draft).toOption := by
  unfold complete
  cases shape.finish draft <;> rfl

theorem toOption_read_table (entries : List (Key P × Node P)) :
    (shape.read format (.table mark entries)).toOption =
      (entries.foldlM (shape.take format) shape.start).bind fun draft =>
        (shape.finish draft).toOption := by
  simp only [read, readTable, toOption_bind, toOption_foldlM, toOption_readEntry,
    toOption_complete]

/-! ## Entries in any order -/

namespace Orderly

theorem eq_of_named (orderly : shape.Orderly) {field other : Field P σ} {name : String}
    (member : field ∈ shape.fields) (otherMember : other ∈ shape.fields)
    (named : name ∈ field.names) (otherNamed : name ∈ other.names) : field = other := by
  have disjoint := (List.nodup_flatMap.mp orderly.distinct).2
  have symmetric : Std.Symm (Function.onFun List.Disjoint (Field.names (P := P) (σ := σ))) :=
    ⟨fun _ _ apart => List.disjoint_symm apart⟩
  by_contra different
  exact disjoint.forall member otherMember different named otherNamed

theorem fieldNamed?_eq_some (orderly : shape.Orderly) {name : String} {field : Field P σ}
    (member : field ∈ shape.fields) (named : name ∈ field.names) :
    shape.fieldNamed? name = some field := by
  cases found : shape.fieldNamed? name with
  | none =>
    have unnamed := List.find?_eq_none.mp found field member
    simp [named] at unnamed
  | some other =>
    have otherNamed : name ∈ other.names := by simpa using List.find?_some found
    have otherMember := List.mem_of_find?_eq_some found
    rw [orderly.eq_of_named otherMember member otherNamed named]

theorem take_named (orderly : shape.Orderly) {field : Field P σ} {name : String}
    (member : field ∈ shape.fields) (named : name ∈ field.names) (draft : σ) (value : Node P) :
    shape.take format draft (⟨mark, some name⟩, value) = field.offer value draft := by
  simp only [take, Option.bind_some, orderly.fieldNamed?_eq_some member named]

/-- Two entries of a table may change places. -/
theorem take_commute (orderly : shape.Orderly) (draft : σ) (entry other : Key P × Node P) :
    (shape.take format draft entry).bind (shape.take format · other) =
      (shape.take format draft other).bind (shape.take format · entry) := by
  obtain ⟨⟨mark, text⟩, value⟩ := entry
  obtain ⟨⟨mark', text'⟩, value'⟩ := other
  cases text with
  | none => simp [take]
  | some name =>
    cases text' with
    | none => simp [take]
    | some name' =>
      simp only [take, Option.bind_some]
      cases found : shape.fieldNamed? name with
      | none =>
        by_cases aside : (!shape.isClosed && format.allowsAside value) = true <;> simp [aside]
      | some field =>
        cases found' : shape.fieldNamed? name' with
        | none =>
          by_cases aside : (!shape.isClosed && format.allowsAside value') = true <;> simp [aside]
        | some other =>
          have member := List.mem_of_find?_eq_some found
          have member' := List.mem_of_find?_eq_some found'
          by_cases same : field = other
          · subst same
            have marks := orderly.marks field member
            simp only [marks.offer_twice]
          · have apart := orderly.apart.forall member member' same
            exact apart.offer_commute value value' draft

/-- The order of the entries does not matter. -/
theorem read_perm (orderly : shape.Orderly) {entries others : List (Key P × Node P)}
    (same : entries.Perm others) :
    (shape.read format (.table mark entries)).toOption =
      (shape.read format (.table mark others)).toOption := by
  rw [toOption_read_table, toOption_read_table,
    foldlM_eq_of_perm orderly.take_commute same shape.start]

/-- No table gives a field under two of its names. -/
theorem read_twice (orderly : shape.Orderly) {field : Field P σ} (member : field ∈ shape.fields)
    {name name' : String} (named : name ∈ field.names) (named' : name' ∈ field.names)
    (different : name' ≠ name) {mark₁ mark₂ : P} {value value' : Node P}
    {entries : List (Key P × Node P)} (inside : (⟨mark₁, some name⟩, value) ∈ entries)
    (inside' : (⟨mark₂, some name'⟩, value') ∈ entries) :
    (shape.read format (.table mark entries)).toOption = none := by
  obtain ⟨front, back, rfl⟩ := List.append_of_mem inside
  have other : (⟨mark₂, some name'⟩, value') ∈ front ++ back := by
    simpa [different] using inside'
  obtain ⟨front', back', parts⟩ := List.append_of_mem other
  have both : (front ++ (⟨mark₁, some name⟩, value) :: back).Perm
      ((⟨mark₁, some name⟩, value) :: (⟨mark₂, some name'⟩, value') :: (front' ++ back')) :=
    List.perm_middle.trans (.cons _ (parts ▸ List.perm_middle))
  have refused := (orderly.marks field member).offer_twice value value' shape.start
  rw [orderly.read_perm both, toOption_read_table, List.foldlM_cons,
    orderly.take_named member named]
  simp only [List.foldlM_cons, orderly.take_named member named', Option.bind_eq_bind]
  rw [← Option.bind_assoc, refused]
  rfl

end Orderly

/-! ## Entries that are no fields -/

theorem fieldNamed?_eq_none {name : String} :
    shape.fieldNamed? name = none ↔ ∀ field ∈ shape.fields, name ∉ field.names := by
  simp [fieldNamed?]

theorem toOption_read_around (front back : List (Key P × Node P)) (entry : Key P × Node P) :
    (shape.read format (.table mark (front ++ entry :: back))).toOption =
      (front.foldlM (shape.take format) shape.start).bind fun draft =>
        (shape.take format draft entry).bind fun next =>
          (back.foldlM (shape.take format) next).bind fun last =>
            (shape.finish last).toOption := by
  rw [toOption_read_table, List.foldlM_append]
  simp [Option.bind_assoc]

/-- An open structure does not mind an entry that is no field. -/
theorem read_aside (isOpen : shape.isClosed = false) {name : String}
    (unknown : ∀ field ∈ shape.fields, name ∉ field.names) {value : Node P}
    (aside : format.allowsAside value = true) (front back : List (Key P × Node P)) (mark' : P) :
    (shape.read format (.table mark (front ++ (⟨mark', some name⟩, value) :: back))).toOption =
      (shape.read format (.table mark (front ++ back))).toOption := by
  have skipped (draft : σ) :
      shape.take format draft (⟨mark', some name⟩, value) = some draft := by
    simp [take, fieldNamed?_eq_none.mpr unknown, isOpen, aside]
  rw [toOption_read_around, toOption_read_table, List.foldlM_append]
  simp [skipped, Option.bind_assoc]

/-- A closed structure has no entry that is no field. -/
theorem read_unknown (isClosed : shape.isClosed = true) {name : String}
    (unknown : ∀ field ∈ shape.fields, name ∉ field.names) (value : Node P)
    (front back : List (Key P × Node P)) (mark' : P) :
    (shape.read format (.table mark (front ++ (⟨mark', some name⟩, value) :: back))).toOption =
      none := by
  have refused (draft : σ) : shape.take format draft (⟨mark', some name⟩, value) = none := by
    simp [take, fieldNamed?_eq_none.mpr unknown, isClosed]
  simp [toOption_read_around, refused]

/-! ## Arrays in place of tables -/

end Shape

/-- Entries give a field a value, under one of its names. -/
def Field.StandsIn (entries : List (Key P × Node P)) (field : Field P σ) (value : Node P) : Prop :=
  ∃ mark name, name ∈ field.names ∧ (⟨mark, some name⟩, value) ∈ entries

/-- An entry under another name may be taken away. -/
theorem Field.StandsIn.of_middle {front back : List (Key P × Node P)} {mark : P} {name : String}
    {value value' : Node P} {field : Field P σ} (unnamed : name ∉ field.names)
    (stands : field.StandsIn (front ++ (⟨mark, some name⟩, value') :: back) value) :
    field.StandsIn (front ++ back) value := by
  obtain ⟨mark', name', named, inside⟩ := stands
  refine ⟨mark', name', named, ?_⟩
  rw [List.mem_append, List.mem_cons] at inside
  rw [List.mem_append]
  rcases inside with before | same | after
  · exact .inl before
  · obtain rfl : name' = name := by simpa using congrArg (·.1.text) same
    exact absurd named unnamed
  · exact .inr after

namespace Shape

/-- A table gives every field, and an array gives the same values in the order of the fields. -/
def Listed (shape : Shape P σ α) (entries : List (Key P × Node P)) (items : List (Node P)) :
    Prop :=
  List.Forall₂ (Field.StandsIn entries) shape.fields items

variable {format : Format P} {shape : Shape P σ α} {mark : P}

/-- When all fields are given, further entries change nothing. -/
theorem take_full {draft next : σ} {entry : Key P × Node P}
    (full : ∀ field ∈ shape.fields, field.isGiven draft = true)
    (taken : shape.take format draft entry = some next) : next = draft := by
  obtain ⟨name, _, taken⟩ := Option.bind_eq_some_iff.mp taken
  cases found : shape.fieldNamed? name with
  | none =>
    simp only [found, Option.ite_none_right_eq_some, Option.some.injEq] at taken
    exact taken.2.symm
  | some field =>
    have given := full field (List.mem_of_find?_eq_some found)
    simp [found, Field.offer, given] at taken

/-- Entries that are accepted once all fields are given change nothing. -/
theorem take_all_full {draft last : σ} {entries : List (Key P × Node P)}
    (full : ∀ field ∈ shape.fields, field.isGiven draft = true)
    (taken : entries.foldlM (shape.take format) draft = some last) : last = draft := by
  induction entries with
  | nil => exact (Option.some.inj taken).symm
  | cons entry rest ih =>
    rw [List.foldlM_cons] at taken
    obtain ⟨next, here, others⟩ := Option.bind_eq_some_iff.mp taken
    obtain rfl := take_full full here
    exact ih others

namespace Orderly

/-- The items of an array, read from some field on, make the draft that the entries for these fields
make, wherever these stand among other entries. -/
theorem readItems_eq_ok (orderly : shape.Orderly) {done fields : List (Field P σ)}
    {items : List (Node P)} {entries : List (Key P × Node P)} {draft last : σ} {index : Nat}
    (parts : shape.fields = done ++ fields) (given : ∀ field ∈ done, field.isGiven draft = true)
    (listed : List.Forall₂ (Field.StandsIn entries) fields items)
    (taken : entries.foldlM (shape.take format) draft = some last) :
    readItems format shape mark index draft fields items = .ok last := by
  induction fields generalizing done items entries draft index with
  | nil =>
    cases listed
    obtain rfl : done = shape.fields := by simp [parts]
    rw [take_all_full given taken]
    simp [readItems]
  | cons field fields ih =>
    cases listed with
    | @cons _ item _ items here others =>
      obtain ⟨mark', name, named, inside⟩ := here
      obtain ⟨front, back, rfl⟩ := List.append_of_mem inside
      have member : field ∈ shape.fields := by simp [parts]
      have apart := orderly.apart
      have disjoint := (List.nodup_flatMap.mp orderly.distinct).2
      rw [parts, List.pairwise_append, List.pairwise_cons] at apart disjoint
      -- The entry for the field is brought to the front and taken first.
      rw [foldlM_eq_of_perm orderly.take_commute List.perm_middle, List.foldlM_cons,
        orderly.take_named member named] at taken
      obtain ⟨next, offered, rest⟩ := Option.bind_eq_some_iff.mp taken
      have filled : field.fill item draft = some next := by
        simp only [Field.offer] at offered
        split at offered
        · cases offered
        · exact offered
      have given' : ∀ other ∈ done ++ [field], other.isGiven next = true := by
        intro other position
        rcases List.mem_append.mp position with before | here
        · rw [(apart.2.2 other before field List.mem_cons_self).kept item draft next filled]
          exact given other before
        · obtain rfl := List.mem_singleton.mp here
          exact orderly.marks other member item draft next filled
      -- The entries for the other fields are still there, since they have other names.
      have others' : List.Forall₂ (Field.StandsIn (front ++ back)) fields items :=
        List.Forall₂.imp (fun _ _ ⟨unlike, stands⟩ => stands.of_middle (unlike named))
          ((List.forall₂_and_left _ _).mpr ⟨disjoint.2.1.1, others⟩)
      have read := toOption_eq_some.mp filled
      simp only [readItems, read]
      exact ih (by simp [parts]) given' others' rest

/-- The array of the values that a table gives to all fields stands for the same value. -/
theorem read_listed (orderly : shape.Orderly) {entries : List (Key P × Node P)}
    {items : List (Node P)} {value : α} (listed : shape.Listed entries items) {mark' : P}
    (read : shape.read format (.table mark entries) = .ok value) :
    shape.read format (.array mark' items) = .ok value := by
  have taken := toOption_eq_some.mpr read
  rw [toOption_read_table] at taken
  obtain ⟨last, taken, finished⟩ := Option.bind_eq_some_iff.mp taken
  have same : readItems format shape mark' 0 shape.start shape.fields items = .ok last :=
    orderly.readItems_eq_ok (List.nil_append _).symm (by simp) listed taken
  simp [Shape.read, same, complete, toOption_eq_some.mp finished, bind, Except.bind]

end Orderly

/-! ## What does not matter -/

/-- A structure may be written as a table in any order, or as an array. -/
structure Spellings (format : Format P) (shape : Shape P σ α) : Prop where
  /-- Entries in another order are accepted alike and make the same value. -/
  order : ∀ (mark : P) (entries others : List (Key P × Node P)), entries.Perm others →
    (shape.read format (.table mark entries)).toOption =
      (shape.read format (.table mark others)).toOption
  /-- The values of all fields, in the order of the fields, stand for what the table stands for. -/
  listing : ∀ (mark mark' : P) (entries : List (Key P × Node P)) (items : List (Node P))
    (value : α), shape.Listed entries items → shape.read format (.table mark entries) = .ok value →
      shape.read format (.array mark' items) = .ok value

structure OpenSpellings (format : Format P) (shape : Shape P σ α) : Prop
    extends shape.Spellings format where
  /-- An entry that is no field changes nothing. -/
  aside : ∀ (mark mark' : P) (name : String) (value : Node P)
    (front back : List (Key P × Node P)), (∀ field ∈ shape.fields, name ∉ field.names) →
      (shape.read format (.table mark (front ++ (⟨mark', some name⟩, value) :: back))).toOption =
        (shape.read format (.table mark (front ++ back))).toOption

structure ClosedSpellings (format : Format P) (shape : Shape P σ α) : Prop
    extends shape.Spellings format where
  /-- A table with an entry that is no field is refused. -/
  unknown : ∀ (mark mark' : P) (name : String) (value : Node P)
    (front back : List (Key P × Node P)), (∀ field ∈ shape.fields, name ∉ field.names) → ∀ read : α,
      shape.read format (.table mark (front ++ (⟨mark', some name⟩, value) :: back)) ≠ .ok read

namespace Orderly

/-- A structure with an orderly shape has these spellings, however it is read. -/
theorem spellings (orderly : shape.Orderly) : shape.Spellings format where
  order _ _ _ same := orderly.read_perm same
  listing _ _ _ _ _ listed read := orderly.read_listed listed read

theorem openSpellings (orderly : shape.Orderly) (isOpen : shape.isClosed = false)
    (aside : ∀ value, format.allowsAside value = true) : shape.OpenSpellings format where
  toSpellings := orderly.spellings
  aside _ mark' _ value front back unknown :=
    read_aside isOpen unknown (aside value) front back mark'

theorem closedSpellings (orderly : shape.Orderly) (isClosed : shape.isClosed = true) :
    shape.ClosedSpellings format where
  toSpellings := orderly.spellings
  unknown _ mark' _ value front back unknown :=
    toOption_eq_none.mp (read_unknown isClosed unknown value front back mark')

end Orderly

end Shape

end CallLibrary.Document
