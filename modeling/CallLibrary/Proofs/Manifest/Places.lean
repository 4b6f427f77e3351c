import CallLibrary.Proofs.Manifest.CommentLines
import CallLibrary.Proofs.Text.Places

/-!
# The place of a name in a source

A name is shown where it first stands between double quotes, or else where it first stands at all.
Either way the place holds the bytes of the name and nothing else, and it begins and ends between
characters. No place is shown for the empty name and for names that do not occur.
-/

namespace CallLibrary

open Text (Span StandsAt StandsFirstAt)

def betweenQuotes (name : String) : String := "\"" ++ name ++ "\""

/-- The place of a name in a text. -/
inductive PlaceOf (name text : String) : Span → Prop
  /-- The name stands between quotes, and is shown without them. -/
  | quoted {offset : Nat} : StandsFirstAt (betweenQuotes name) text offset →
    PlaceOf name text ⟨offset + 1, name.utf8ByteSize⟩
  | bare {offset : Nat} : (∀ k, ¬ StandsAt (betweenQuotes name) text k) →
    StandsFirstAt name text offset → PlaceOf name text ⟨offset, name.utf8ByteSize⟩

/-- A stretch of a text that is a name, cut out between characters. -/
structure Text.Span.Shows (span : Span) (name text : String) : Prop where
  length : span.length = name.utf8ByteSize
  inside : span.offset + span.length ≤ text.utf8ByteSize
  begins : String.Pos.Raw.IsValid text ⟨span.offset⟩
  ends : String.Pos.Raw.IsValid text ⟨span.offset + span.length⟩
  bytes : text.toByteArray.extract span.offset (span.offset + span.length) = name.toByteArray

variable {name text : String} {span : Span}

theorem betweenQuotes_ne_empty (name : String) : betweenQuotes name ≠ "" := by
  simp [betweenQuotes]

theorem toList_betweenQuotes (name : String) : (betweenQuotes name).toList = quoted name := by
  simp [betweenQuotes, quoted]

/-- A name stands behind the quote in front of it. -/
theorem standsAt_of_betweenQuotes {offset : Nat} (given : name ≠ "")
    (stands : StandsAt (betweenQuotes name) text offset) : StandsAt name text (offset + 1) := by
  obtain ⟨before, after, rfl, rfl⟩ :=
    (Text.standsAt_iff (betweenQuotes_ne_empty name)).mp stands
  refine (Text.standsAt_iff given).mpr ⟨before ++ "\"", "\"" ++ after, ?_, ?_⟩
  · simp only [betweenQuotes, String.append_assoc]
  · rw [String.utf8ByteSize_append]
    rfl

theorem Text.StandsAt.shows {offset : Nat} (given : name ≠ "")
    (stands : StandsAt name text offset) : Span.Shows ⟨offset, name.utf8ByteSize⟩ name text where
  length := rfl
  inside := stands.offset_add_le given
  begins := (stands.isValid given).1
  ends := (stands.isValid given).2
  bytes := stands

/-- The place of a name shows this name. -/
theorem PlaceOf.shows (given : name ≠ "") (place : PlaceOf name text span) :
    span.Shows name text := by
  cases place with
  | quoted first => exact (standsAt_of_betweenQuotes given first.1).shows given
  | bare _ first => exact first.1.shows given

namespace Source

/-- The search of a source finds the place of a name. -/
theorem find?_eq_some_iff (given : name ≠ "") (source : Source) :
    source.find? name = some span ↔ PlaceOf name source.text span := by
  have size : Text.byteLength name.toList = name.utf8ByteSize := Text.byteLength_toList name
  rw [find?_eq given, ← toList_betweenQuotes, size]
  constructor
  · intro found
    split at found
    next offset between =>
      cases found
      exact .quoted ((Text.find?_eq_some_iff (betweenQuotes_ne_empty name)).mp between)
    next nothing =>
      obtain ⟨offset, bare, rfl⟩ := Option.map_eq_some_iff.mp found
      exact .bare
        ((Text.find?_eq_none_iff_not_standsAt (betweenQuotes_ne_empty name)).mp nothing)
        ((Text.find?_eq_some_iff given).mp bare)
  · intro place
    cases place with
    | quoted first =>
      rw [(Text.find?_eq_some_iff (betweenQuotes_ne_empty name)).mpr first]
    | bare nowhere first =>
      rw [(Text.find?_eq_none_iff_not_standsAt (betweenQuotes_ne_empty name)).mpr nowhere,
        (Text.find?_eq_some_iff given).mpr first]
      rfl

/-- No place is found exactly if the name stands nowhere. -/
theorem find?_eq_none_iff (given : name ≠ "") (source : Source) :
    source.find? name = none ↔ ∀ offset, ¬ StandsAt name source.text offset := by
  constructor
  · intro nothing
    rw [find?_eq given] at nothing
    split at nothing
    next => cases nothing
    next => exact (Text.find?_eq_none_iff_not_standsAt given).mp (Option.map_eq_none_iff.mp nothing)
  · intro nowhere
    cases found : source.find? name with
    | none => rfl
    | some span =>
      have shows := ((find?_eq_some_iff given source).mp found).shows given
      have stands := shows.bytes
      rw [shows.length] at stands
      exact absurd stands (nowhere span.offset)

/-- The place shown for a name. The empty name and a name that does not occur have none. Every other
name has the place of its first occurrence between quotes, or of its first occurrence if it is never
between quotes, and what stands there is the name. -/
theorem name_place_exact (source : Source) (name : String) :
    (source.find? name = none ↔ name = "" ∨ ∀ offset, ¬ StandsAt name source.text offset) ∧
    ∀ span, (source.find? name = some span ↔ name ≠ "" ∧ PlaceOf name source.text span) ∧
      (source.find? name = some span → span.Shows name source.text) := by
  by_cases given : name = ""
  · subst given
    have nothing : source.find? "" = none := rfl
    simp [nothing]
  · refine ⟨?_, fun span => ?_⟩
    · simpa [given] using find?_eq_none_iff given source
    · have place : source.find? name = some span ↔ PlaceOf name source.text span :=
        find?_eq_some_iff given source
      refine ⟨by simpa [given] using place, fun found => ?_⟩
      exact (place.mp found).shows given

-- A place between quotes goes before an earlier one without them.
example : (Source.mk "é = \"é\"" "text.toml").find? "é" = some ⟨6, 2⟩ := by decide

end Source

end CallLibrary
