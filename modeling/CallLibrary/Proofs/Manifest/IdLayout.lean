import CallLibrary.Proofs.Manifest.Rules
import CallLibrary.Proofs.ResourceId

/-!
# Layout of a resource id

An id made of a namespace and a name spells thirty-two bytes, and each of them has its place: two
for the kind of resource, fourteen for the namespace and sixteen for the name. A place behind the
last byte of a text holds a zero, and bytes that have no place are left out. An id that is given is
accepted exactly if its digits spell thirty-two bytes.
-/

namespace CallLibrary.ResourceId

/-- The byte at a position of a text in UTF-8, and zero behind its end. -/
def byteAt (s : String) (position : Nat) : UInt8 := (utf8 s)[position]?.getD 0

/-- Bytes with a namespace and a name at their places. -/
structure LaidOut (namespaceName name : String) (bytes : List UInt8) : Prop where
  length : bytes.length = 32
  kind : bytes.take 2 = utf8 "sy"
  namespaceName : ∀ k < 14, bytes[2 + k]? = some (byteAt namespaceName k)
  name : ∀ k < 16, bytes[16 + k]? = some (byteAt name k)

/-- A slot shows the bytes that are given, and zeros where there are none. -/
theorem getElem?_slot {size k : Nat} (inside : k < size) (bytes : List UInt8) :
    (slot size bytes)[k]? = some (bytes[k]?.getD 0) := by
  unfold slot
  by_cases given : k < bytes.length
  · have taken : k < (bytes.take size).length := by
      rw [List.length_take]
      omega
    rw [List.getElem?_append_left taken, List.getElem?_take_of_lt inside,
      List.getElem?_eq_getElem given, Option.getD_some]
  · have behind : (bytes.take size).length ≤ k := by
      rw [List.length_take]
      omega
    rw [List.getElem?_append_right behind, List.length_take, List.getElem?_replicate,
      if_pos (by omega), List.getElem?_eq_none (by omega), Option.getD_none]

/-- The bytes of an id lie at their places. -/
theorem laidOut_systemBytes (namespaceName name : String) :
    LaidOut namespaceName name (systemBytes namespaceName name) where
  length := length_systemBytes namespaceName name
  kind := by
    have spelled : systemKind = utf8 "sy" := by decide
    have whole : 2 = systemKind.length := rfl
    rw [systemBytes, List.append_assoc, whole, List.take_left, spelled]
  namespaceName := by
    intro k inside
    have inside : k < namespaceBytes := inside
    have inSlot : k < (slot namespaceBytes (utf8 namespaceName)).length := by rwa [length_slot]
    have behindKind : systemKind.length ≤ 2 + k := by
      change 2 ≤ 2 + k
      omega
    have position : 2 + k - systemKind.length = k := by
      change 2 + k - 2 = k
      omega
    rw [systemBytes, List.append_assoc, List.getElem?_append_right behindKind, position,
      List.getElem?_append_left inSlot, getElem?_slot inside, byteAt]
  name := by
    intro k inside
    have inside : k < nameBytes := inside
    have front : (systemKind ++ slot namespaceBytes (utf8 namespaceName)).length = 16 := by
      rw [List.length_append, length_slot]
      rfl
    rw [systemBytes, List.getElem?_append_right (by omega), front, Nat.add_sub_cancel_left,
      getElem?_slot inside, byteAt]

/-- Given ids are accepted if their digits spell thirty-two bytes, and only then. -/
theorem isResourceId_iff_spells {id : String} :
    IsResourceId id ↔ ∃ digits bytes, id = "0x" ++ String.ofList digits ∧
      Text.bytesOfHex? digits = some bytes ∧ bytes.length = 32 := by
  constructor
  · rintro ⟨digits, whole, length, each⟩
    have digitsOnly : ∀ d ∈ digits, Text.isHexDigit d = true :=
      fun d member => isHexDigit_iff.mpr (each d member)
    obtain ⟨bytes, read, size⟩ :=
      (Text.exists_bytesOfHex?_iff digits 32).mpr ⟨length, digitsOnly⟩
    exact ⟨digits, bytes, whole, read, size⟩
  · rintro ⟨digits, bytes, whole, read, size⟩
    obtain ⟨length, digitsOnly⟩ := (Text.exists_bytesOfHex?_iff digits 32).mp ⟨bytes, read, size⟩
    exact ⟨digits, whole, length, fun d member => isHexDigit_iff.mp (digitsOnly d member)⟩

/-- The id of a system has its sixty-four digits in lower case and spells a namespace and a name at
their places. An id is accepted exactly if it has sixty-four digits of either case; these spell
thirty-two bytes, and the id of these bytes is the accepted one in lower case. -/
theorem encode_laidOut_and_isValid_iff :
    (∀ namespaceName name, ∃ digits bytes,
      encode namespaceName name = "0x" ++ String.ofList digits ∧ digits.length = 64 ∧
        (∀ d ∈ digits, Text.IsLowerHexDigit d) ∧ Text.bytesOfHex? digits = some bytes ∧
        LaidOut namespaceName name bytes) ∧
    ∀ id, (isValid id = true ↔ IsResourceId id) ∧
      (isValid id = true ↔ ∃ digits bytes, id = "0x" ++ String.ofList digits ∧
        Text.bytesOfHex? digits = some bytes ∧ bytes.length = 32 ∧
        Text.hexBytes bytes = digits.map Char.toLower) := by
  refine ⟨fun namespaceName name => ?_, fun id => ⟨isValid_iff, ?_⟩⟩
  · have whole : encode namespaceName name =
        "0x" ++ String.ofList (Text.hexBytes (systemBytes namespaceName name)) := by
      rw [← String.toList_inj]
      simp [encode]
    refine ⟨Text.hexBytes (systemBytes namespaceName name), systemBytes namespaceName name, whole,
      ?_, Text.isLowerHexDigit_of_mem_hexBytes, Text.bytesOfHex?_hexBytes _,
      laidOut_systemBytes namespaceName name⟩
    rw [Text.length_hexBytes, length_systemBytes]
  · rw [isValid_iff, isResourceId_iff_spells]
    constructor
    · rintro ⟨digits, bytes, whole, read, size⟩
      exact ⟨digits, bytes, whole, read, size, Text.hexBytes_of_bytesOfHex? read⟩
    · rintro ⟨digits, bytes, whole, read, size, _⟩
      exact ⟨digits, bytes, whole, read, size⟩

-- A name is cut between the bytes of a character as well.
example : utf8 "123456789012345é" = utf8 "123456789012345" ++ [0xC3, 0xA9] ∧
    slot nameBytes (utf8 "123456789012345é") = utf8 "123456789012345" ++ [0xC3] := by
  decide

end CallLibrary.ResourceId
