import CallLibrary.Manifest.Load
import CallLibrary.Proofs.Outcome

/-!
# Documents and the values read from them

Whether a text gives a value, and which, only depends on the document tree that the text spells.
What a strict reading refuses only makes a difference to the error.
-/

namespace CallLibrary

open Outcome

namespace Document

variable {α : Type}

theorem Json.toOption_decode (read : Node Unit → Except (Error Unit) α) (text : String) :
    (decode read text).toOption = (read? text).bind fun node => (read node).toOption := by
  unfold decode
  cases read? text with
  | none => rfl
  | some node =>
    simp only [Option.bind_some]
    cases read node with
    | ok value => rfl
    | error e => cases isStrict depthLimit node <;> rfl

theorem Toml.toOption_decode (read : Node Extent → Except (Error Extent) α) (text : String) :
    (decode read text).toOption =
      (read? text.toList).bind fun node => (read node).toOption := by
  simp only [decode]
  cases read? text.toList with
  | none => rfl
  | some node =>
    simp only [Option.bind_some]
    cases read node with
    | ok value => rfl
    | error e => cases node.all isStrict <;> rfl

end Document

open Document

namespace Manifest

theorem toOption_decode_json (source : Source) :
    (decode .json source).toOption =
      (Json.read? source.text).bind fun node =>
        ((shape Json.format).read Json.format node).toOption := by
  simp only [decode, toOption_mapError, Json.toOption_decode]

theorem toOption_decode_toml (source : Source) :
    (decode .toml source).toOption =
      (Toml.read? source.text.toList).bind fun node =>
        ((shape Toml.format).read Toml.format node).toOption := by
  simp only [decode, toOption_mapError, Toml.toOption_decode]

end Manifest

end CallLibrary
