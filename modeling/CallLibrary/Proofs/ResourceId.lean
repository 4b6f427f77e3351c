import Mathlib.Data.List.DropRight
import CallLibrary.Proofs.Text.Hex
import CallLibrary.ResourceId

/-!
# What a resource id tells

An id gives the bytes of a namespace and of a name back, but not how many zero bytes stood at their
end, since these are also what short names are filled up with. The one character with a zero byte in
UTF-8 is the null character. Whatever an id is made of, it has the form that is asked of given ids.
-/

namespace CallLibrary.ResourceId

/-! ## Bytes of a text -/

theorem utf8_eq_flatMap (s : String) : utf8 s = s.toList.flatMap String.utf8EncodeChar := by
  rw [utf8, String.toUTF8_eq_toByteArray, ← String.utf8Encode_toList, List.utf8Encode,
    List.data_toByteArray]

theorem length_utf8 (s : String) : (utf8 s).length = s.utf8ByteSize := by
  rw [utf8, Array.length_toList, ByteArray.size_data, String.toUTF8_eq_toByteArray,
    String.size_toByteArray]

theorem utf8_injective : Function.Injective utf8 := by
  intro s t same
  have bytes : s.toByteArray = t.toByteArray := by
    ext1
    simpa [utf8] using same
  exact String.toByteArray_inj.mp bytes

/-- Only the encoding of the null character ends in a zero byte. -/
theorem utf8EncodeChar_eq_concat {c : Char} (notNull : c ≠ '\x00') :
    ∃ front last, String.utf8EncodeChar c = front ++ [last] ∧ last ≠ 0 := by
  have nonzero : c.val.toNat ≠ 0 := by
    intro zero
    exact notNull (Char.ext (UInt32.toNat_inj.mp zero))
  -- Every byte behind the first one is at least 128.
  have later : UInt8.ofNat (c.val.toNat % 0x40 + 0x80) ≠ 0 := by
    rw [Ne, ← UInt8.toNat_inj]
    simp
    omega
  fun_cases String.utf8EncodeChar c
  · refine ⟨[], _, rfl, ?_⟩
    rw [Ne, ← UInt8.toNat_inj]
    simp
    omega
  · exact ⟨[_], _, rfl, later⟩
  · exact ⟨[_, _], _, rfl, later⟩
  · exact ⟨[_, _, _], _, rfl, later⟩

def withoutNulls (s : String) : String := String.ofList (s.toList.rdropWhile (· == '\x00'))

/-- The bytes without the zeros at their end spell the text without the null characters at its
end. -/
theorem utf8_withoutNulls (s : String) :
    utf8 (withoutNulls s) = (utf8 s).rdropWhile (· == 0) := by
  rw [utf8_eq_flatMap, utf8_eq_flatMap, withoutNulls, String.toList_ofList]
  induction s.toList using List.reverseRecOn with
  | nil => simp
  | append_singleton front c ih =>
    rw [List.flatMap_append, List.flatMap_singleton]
    by_cases null : c = '\x00'
    · subst null
      have zero : String.utf8EncodeChar '\x00' = [0] := by decide
      rw [List.rdropWhile_concat_pos _ _ _ (by simp), zero,
        List.rdropWhile_concat_pos _ _ _ (by simp), ih]
    · obtain ⟨bytes, last, encoded, nonzero⟩ := utf8EncodeChar_eq_concat null
      rw [List.rdropWhile_concat_neg _ _ _ (by simpa using null), encoded, ← List.append_assoc,
        List.rdropWhile_concat_neg _ _ _ (by simpa using nonzero), List.flatMap_append,
        List.flatMap_singleton, encoded, List.append_assoc]

/-- A text that ends in another character keeps all of its characters. -/
theorem withoutNulls_eq_self {s : String} (ends : s.toList.getLast? ≠ some '\x00') :
    withoutNulls s = s := by
  have whole : s.toList.rdropWhile (· == '\x00') = s.toList := by
    rw [List.rdropWhile_eq_self_iff]
    intro nonempty null
    have last := List.getLast?_eq_some_getLast nonempty
    rw [last] at ends
    exact ends (congrArg some (by simpa using null))
  rw [withoutNulls, whole, String.ofList_toList]

/-! ## Slots -/

theorem length_slot (size : Nat) (bytes : List UInt8) : (slot size bytes).length = size := by
  simp [slot]
  omega

/-- A slot adds nothing but zeros at the end. -/
theorem rdropWhile_slot {size : Nat} {bytes : List UInt8} (fits : bytes.length ≤ size) :
    (slot size bytes).rdropWhile (· == 0) = bytes.rdropWhile (· == 0) := by
  rw [slot, List.take_of_length_le fits]
  induction size - bytes.length with
  | zero => simp
  | succ n ih =>
    rw [List.replicate_succ', ← List.append_assoc, List.rdropWhile_concat_pos _ _ _ (by simp), ih]

/-- Bytes are what is left without the zeros at their end, and these zeros. -/
theorem exists_zeros (bytes : List UInt8) :
    ∃ count, bytes = bytes.rdropWhile (· == 0) ++ List.replicate count 0 := by
  have zeros : bytes.rtakeWhile (· == 0) =
      List.replicate (bytes.rtakeWhile (· == 0)).length 0 := by
    refine List.eq_replicate_iff.mpr ⟨rfl, fun byte inside => ?_⟩
    simpa using List.mem_rtakeWhile_imp inside
  refine ⟨(bytes.rtakeWhile (· == 0)).length, ?_⟩
  rw [← zeros, List.rdropWhile_append_rtakeWhile]

/-- A slot is what is left of the bytes without zeros at their end, filled up again. -/
theorem slot_eq_of_rdropWhile {size : Nat} {bytes : List UInt8} (fits : bytes.length ≤ size) :
    slot size bytes = bytes.rdropWhile (· == 0) ++
      List.replicate (size - (bytes.rdropWhile (· == 0)).length) 0 := by
  obtain ⟨count, parts⟩ := exists_zeros bytes
  generalize bytes.rdropWhile (· == 0) = left at parts ⊢
  subst parts
  rw [List.length_append, List.length_replicate] at fits
  rw [slot, List.take_of_length_le (by simpa using fits), List.append_assoc,
    List.replicate_append_replicate, List.length_append, List.length_replicate]
  congr 2
  omega

theorem slot_eq_slot_iff {size : Nat} {bytes others : List UInt8} (fits : bytes.length ≤ size)
    (fits' : others.length ≤ size) :
    slot size bytes = slot size others ↔
      bytes.rdropWhile (· == 0) = others.rdropWhile (· == 0) := by
  constructor
  · intro same
    rw [← rdropWhile_slot fits, ← rdropWhile_slot fits', same]
  · intro same
    rw [slot_eq_of_rdropWhile fits, slot_eq_of_rdropWhile fits', same]

/-- Slots tell texts apart up to the null characters at their end. -/
theorem slot_utf8_eq_iff {size : Nat} {s t : String} (fits : s.utf8ByteSize ≤ size)
    (fits' : t.utf8ByteSize ≤ size) :
    slot size (utf8 s) = slot size (utf8 t) ↔ withoutNulls s = withoutNulls t := by
  rw [slot_eq_slot_iff (by rwa [length_utf8]) (by rwa [length_utf8]), ← utf8_withoutNulls,
    ← utf8_withoutNulls, utf8_injective.eq_iff]

/-! ## Ids -/

theorem length_systemBytes (namespaceName name : String) :
    (systemBytes namespaceName name).length = 32 := by
  simp only [systemBytes, List.length_append, length_slot]
  rfl

/-- Every id that is made of a namespace and a name has the form of an id, whatever their lengths.
-/
theorem isValid_encode (namespaceName name : String) :
    isValid (encode namespaceName name) = true := by
  have spelled : (encode namespaceName name).toList =
      '0' :: 'x' :: Text.hexBytes (systemBytes namespaceName name) := String.toList_ofList
  simp only [isValid, spelled, Text.bytesOfHex?_hexBytes, Option.any_some, length_systemBytes]
  rfl

/-- Ids are equal exactly if the namespaces and the names are, without regard to null characters at
their end. -/
theorem encode_eq_encode_iff {namespaceName namespaceName' name name' : String}
    (fits : namespaceName.utf8ByteSize ≤ namespaceBytes)
    (fits' : namespaceName'.utf8ByteSize ≤ namespaceBytes)
    (nameFits : name.utf8ByteSize ≤ nameBytes) (nameFits' : name'.utf8ByteSize ≤ nameBytes) :
    encode namespaceName name = encode namespaceName' name' ↔
      withoutNulls namespaceName = withoutNulls namespaceName' ∧
        withoutNulls name = withoutNulls name' := by
  rw [← slot_utf8_eq_iff fits fits', ← slot_utf8_eq_iff nameFits nameFits']
  simp only [encode, String.ofList_inj, List.cons.injEq, true_and, Text.hexBytes_injective.eq_iff,
    systemBytes, List.append_assoc, List.append_cancel_left_eq]
  constructor
  · intro same
    exact List.append_inj same (by rw [length_slot, length_slot])
  · rintro ⟨first, second⟩
    rw [first, second]

end CallLibrary.ResourceId
