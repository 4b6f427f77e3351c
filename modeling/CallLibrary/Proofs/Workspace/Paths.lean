import CallLibrary.Proofs.Text.Words
import CallLibrary.Workspace.Path

/-!
# The parts of a joined path

A file in a directory is reached through the parts of the directory's path and one more part, its
own name. A slash at the end of the directory's path stands for an empty part, which makes way for
the name.
-/

namespace CallLibrary.Workspace.Path

/-- A text that is the name of an entry: it stays one part, and it leads to something below. -/
structure IsName (name : String) : Prop where
  whole : '/' ∉ name.toList
  leads : isIdle name = false
  below : name ≠ ".."

/-- A slash stands between two parts and belongs to none. -/
theorem parts_of_slash {path : String} {front back : List Char}
    (spelled : path.toList = front ++ '/' :: back) :
    parts path = parts (String.ofList front) ++ parts (String.ofList back) := by
  simp only [parts, spelled, String.toList_ofList, Text.pieces_eq_splitOnP]
  rw [List.splitOnP_append_cons _ _ (by decide), List.map_append]

theorem parts_of_whole {name : String} (whole : '/' ∉ name.toList) : parts name = [name] := by
  have unbroken : ∀ c ∈ name.toList, (c == '/') = false := by
    intro c member
    rw [beq_eq_false_iff_ne]
    intro slash
    exact whole (slash ▸ member)
  rw [parts, Text.pieces_eq_splitOnP, List.splitOnP_eq_singleton unbroken]
  simp

/-- The parts of a joined path are those of the directory's path, less an empty one at the end, and
the name of the file. -/
theorem exists_parts_join {directory file : String} (given : directory ≠ "")
    (whole : '/' ∉ file.toList) :
    ∃ above, parts (join directory file) = above ++ [file] ∧
      (parts directory = above ∨ parts directory = above ++ [""]) := by
  have nonempty : directory.isEmpty = false := by simpa using given
  by_cases slash : directory.toList.getLast? = some '/'
  · obtain ⟨front, spelled⟩ := List.getLast?_eq_some_iff.mp slash
    have joined : (join directory file).toList = front ++ '/' :: file.toList := by
      simp [join, nonempty, spelled]
    refine ⟨parts (String.ofList front), ?_, .inr ?_⟩
    · rw [parts_of_slash joined, String.ofList_toList, parts_of_whole whole]
    · rw [parts_of_slash spelled]
      rfl
  · have joined : (join directory file).toList = directory.toList ++ '/' :: file.toList := by
      simp [join, nonempty, slash]
    refine ⟨parts directory, ?_, .inl rfl⟩
    rw [parts_of_slash joined, String.ofList_toList, String.ofList_toList, parts_of_whole whole]

/-- The path of a file starts where the path of its directory starts. -/
theorem isAbsolute_join {directory : String} (given : directory ≠ "") (file : String) :
    isAbsolute (join directory file) = isAbsolute directory := by
  have nonempty : directory.toList ≠ [] := by simpa using given
  obtain ⟨first, rest, spelled⟩ := List.exists_cons_of_ne_nil nonempty
  unfold isAbsolute join
  split
  · simp [spelled]
  · simp [spelled]

end CallLibrary.Workspace.Path
