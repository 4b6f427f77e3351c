import CallLibrary.Proofs.Solidity.ImportTable

/-!
# What an import table remembers of its history

A table is changed by edits, which add a symbol to a path or erase a symbol from all paths. What an
edited table holds is read off the list of edits: which symbols stand under which path, and in which
order the paths stand. A path that loses its last symbol is forgotten together with its place, so a
path stands where it came in for the last time.
-/

namespace CallLibrary.Solidity

inductive ImportEdit
  | add (path symbol : String)
  | erase (symbol : String)
  deriving DecidableEq, Repr

namespace ImportTable

def edit (table : ImportTable) : ImportEdit → ImportTable
  | .add path symbol => table.add path symbol
  | .erase symbol => table.erase symbol

def ofEdits (edits : List ImportEdit) : ImportTable := edits.foldl edit empty

theorem ofEdits_concat (edits : List ImportEdit) (change : ImportEdit) :
    ofEdits (edits ++ [change]) = (ofEdits edits).edit change := by
  simp [ofEdits]

/-! ## What is listed -/

/-- A symbol was added to a path and has not been erased since. -/
def AddedSince (edits : List ImportEdit) (path symbol : String) : Prop :=
  ∃ before after, edits = before ++ .add path symbol :: after ∧ .erase symbol ∉ after

theorem addedSince_concat {edits : List ImportEdit} {change : ImportEdit} {path symbol : String} :
    AddedSince (edits ++ [change]) path symbol ↔
      change = .add path symbol ∨ (AddedSince edits path symbol ∧ change ≠ .erase symbol) := by
  constructor
  · rintro ⟨before, after, history, kept⟩
    -- The addition is the new edit, or the new edit comes behind it.
    rcases List.eq_nil_or_concat' after with rfl | ⟨front, last, rfl⟩
    · obtain ⟨_, sameLast⟩ := List.append_inj' history rfl
      cases sameLast
      exact .inl rfl
    · rw [← List.cons_append, ← List.append_assoc] at history
      obtain ⟨sameEdits, sameLast⟩ := List.append_inj' history rfl
      cases sameLast
      simp only [List.mem_append, List.mem_singleton, not_or] at kept
      exact .inr ⟨⟨before, front, sameEdits, kept.1⟩, fun erased => kept.2 erased.symm⟩
  · rintro (rfl | ⟨⟨before, after, rfl, kept⟩, other⟩)
    · exact ⟨edits, [], rfl, List.not_mem_nil⟩
    · refine ⟨before, after ++ [change], by simp, ?_⟩
      simp only [List.mem_append, List.mem_singleton, not_or]
      exact ⟨kept, fun erased => other erased.symm⟩

theorem lists_edit {table : ImportTable} {change : ImportEdit} {path symbol : String} :
    (table.edit change).Lists path symbol ↔
      change = .add path symbol ∨ (table.Lists path symbol ∧ change ≠ .erase symbol) := by
  cases change with
  | add path' symbol' => simp [edit, lists_add, eq_comm]
  | erase erased => simp [edit, lists_erase, eq_comm]

/-- A table lists the symbols that were added and have not been erased since. -/
theorem lists_ofEdits (edits : List ImportEdit) (path symbol : String) :
    (ofEdits edits).Lists path symbol ↔ AddedSince edits path symbol := by
  induction edits using List.reverseRecOn with
  | nil => simp [ofEdits, empty, Lists, AddedSince]
  | append_singleton edits change ih => rw [ofEdits_concat, lists_edit, addedSince_concat, ih]

instance (table : ImportTable) (path symbol : String) : Decidable (table.Lists path symbol) :=
  inferInstanceAs (Decidable (∃ entry ∈ table.entries, entry.path = path ∧ symbol ∈ entry.symbols))

/-! ## Entries -/

theorem paths_nodup_edit {table : ImportTable} (distinct : table.paths.Nodup)
    (change : ImportEdit) : (table.edit change).paths.Nodup := by
  cases change with
  | add path symbol => exact paths_nodup_add distinct path symbol
  | erase symbol => exact distinct.sublist (sublist_paths_erase table symbol)

theorem full_edit {table : ImportTable} (full : table.Full) (change : ImportEdit) :
    (table.edit change).Full := by
  cases change with
  | add path symbol => exact full_add full path symbol
  | erase symbol => exact full_erase table symbol

theorem sorted_edit {table : ImportTable} (sorted : table.Sorted) (change : ImportEdit) :
    (table.edit change).Sorted := by
  cases change with
  | add path symbol => exact sorted_add sorted path symbol
  | erase symbol => exact sorted_erase sorted symbol

/-- What every change keeps holds of the table of every history. -/
theorem ofEdits_keeps (holds : ImportTable → Prop) (start : holds empty)
    (keeps : ∀ table, holds table → ∀ change, holds (table.edit change))
    (edits : List ImportEdit) : holds (ofEdits edits) :=
  List.foldlRecOn edits _ start fun table kept change _ => keeps table kept change

theorem paths_nodup_ofEdits (edits : List ImportEdit) : (ofEdits edits).paths.Nodup :=
  ofEdits_keeps (·.paths.Nodup) List.nodup_nil (fun _ => paths_nodup_edit) edits

theorem full_ofEdits (edits : List ImportEdit) : (ofEdits edits).Full :=
  ofEdits_keeps Full (List.forall_mem_nil _) (fun _ => full_edit) edits

theorem sorted_ofEdits (edits : List ImportEdit) : (ofEdits edits).Sorted :=
  ofEdits_keeps Sorted (List.forall_mem_nil _) (fun _ => sorted_edit) edits

/-! ## The order of paths -/

/-- A step of a history, counted from zero, lets a path in: it was absent before and is present
after. -/
def EntersAt (edits : List ImportEdit) (path : String) (step : Nat) : Prop :=
  path ∉ (ofEdits (edits.take step)).paths ∧ path ∈ (ofEdits (edits.take (step + 1))).paths

/-- The last step of a history that lets a path in. -/
structure EntersLastAt (edits : List ImportEdit) (path : String) (step : Nat) : Prop where
  enters : EntersAt edits path step
  last : ∀ other, EntersAt edits path other → other ≤ step

theorem EntersAt.lt_length {edits : List ImportEdit} {path : String} {step : Nat}
    (enters : EntersAt edits path step) : step < edits.length := by
  by_contra beyond
  have all : edits.take step = edits := List.take_of_length_le (by omega)
  have still : edits.take (step + 1) = edits := List.take_of_length_le (by omega)
  obtain ⟨absent, present⟩ := enters
  rw [all] at absent
  rw [still] at present
  exact absent present

theorem EntersAt.le_length {edits : List ImportEdit} {change : ImportEdit} {path : String}
    {step : Nat} (enters : EntersAt (edits ++ [change]) path step) : step ≤ edits.length := by
  have bound := enters.lt_length
  rw [List.length_append, List.length_singleton] at bound
  omega

/-- The last step lets in the paths that it adds. -/
theorem entersAt_concat {edits : List ImportEdit} {change : ImportEdit} {path : String}
    {step : Nat} :
    EntersAt (edits ++ [change]) path step ↔
      EntersAt edits path step ∨
        (step = edits.length ∧ path ∉ (ofEdits edits).paths ∧
          path ∈ (ofEdits (edits ++ [change])).paths) := by
  rcases Nat.lt_trichotomy step edits.length with before | rfl | behind
  · have now : (edits ++ [change]).take step = edits.take step :=
      List.take_append_of_le_length (by omega)
    have next : (edits ++ [change]).take (step + 1) = edits.take (step + 1) :=
      List.take_append_of_le_length (by omega)
    have notLast : step ≠ edits.length := by omega
    simp [EntersAt, now, next, notLast]
  · have old : ¬ EntersAt edits path edits.length := fun enters =>
      Nat.lt_irrefl _ enters.lt_length
    have next : (edits ++ [change]).take (edits.length + 1) = edits ++ [change] :=
      List.take_of_length_le (by simp)
    have now : (edits ++ [change]).take edits.length = edits := List.take_left
    simp only [old, false_or, true_and]
    rw [EntersAt, now, next]
  · have old : ¬ EntersAt edits path step := fun enters =>
      Nat.lt_asymm behind enters.lt_length
    have new : ¬ EntersAt (edits ++ [change]) path step := fun enters =>
      Nat.not_le_of_lt behind enters.le_length
    have notLast : step ≠ edits.length := by omega
    simp [old, new, notLast]

/-- A path that is there does not come in again. -/
theorem entersLastAt_concat_of_present {edits : List ImportEdit} {path : String}
    (present : path ∈ (ofEdits edits).paths) (change : ImportEdit) (step : Nat) :
    EntersLastAt (edits ++ [change]) path step ↔ EntersLastAt edits path step := by
  have same (other : Nat) :
      EntersAt (edits ++ [change]) path other ↔ EntersAt edits path other := by
    simp [entersAt_concat, present]
  constructor
  · rintro ⟨enters, last⟩
    exact ⟨(same step).mp enters, fun other earlier => last other ((same other).mpr earlier)⟩
  · rintro ⟨enters, last⟩
    exact ⟨(same step).mpr enters, fun other earlier => last other ((same other).mp earlier)⟩

/-- A new path comes in at the last step. -/
theorem entersLastAt_concat_of_absent {edits : List ImportEdit} {path : String}
    {change : ImportEdit} (absent : path ∉ (ofEdits edits).paths)
    (present : path ∈ (ofEdits (edits ++ [change])).paths) (step : Nat) :
    EntersLastAt (edits ++ [change]) path step ↔ step = edits.length := by
  have entersLast : EntersAt (edits ++ [change]) path edits.length :=
    entersAt_concat.mpr (.inr ⟨rfl, absent, present⟩)
  constructor
  · rintro ⟨enters, last⟩
    exact Nat.le_antisymm enters.le_length (last _ entersLast)
  · rintro rfl
    exact ⟨entersLast, fun _ enters => enters.le_length⟩

/-- Paths stand in the order of the steps that let them in for the last time. -/
structure InOrderOfEntry (edits : List ImportEdit) (paths : List String) : Prop where
  entered : ∀ path ∈ paths, ∃ step, EntersLastAt edits path step
  ordered : paths.Pairwise fun path next => ∀ step step',
    EntersLastAt edits path step → EntersLastAt edits next step' → step < step'

/-- A change takes paths away and leaves the others in order, or puts one new path at the end. -/
theorem paths_edit (table : ImportTable) (change : ImportEdit) :
    (table.edit change).paths.Sublist table.paths ∨
      ∃ path, path ∉ table.paths ∧ (table.edit change).paths = table.paths ++ [path] := by
  cases change with
  | erase symbol => exact .inl (sublist_paths_erase table symbol)
  | add path symbol =>
    by_cases known : path ∈ table.paths
    · left
      simp [edit, paths_add, known]
    · right
      exact ⟨path, known, by simp [edit, paths_add, known]⟩

/-- Paths that were there keep their order over a change. -/
theorem InOrderOfEntry.concat {edits : List ImportEdit} {paths : List String}
    (inOrder : InOrderOfEntry edits paths) (present : ∀ path ∈ paths, path ∈ (ofEdits edits).paths)
    (change : ImportEdit) : InOrderOfEntry (edits ++ [change]) paths where
  entered path member := by
    obtain ⟨step, last⟩ := inOrder.entered path member
    exact ⟨step, (entersLastAt_concat_of_present (present path member) change step).mpr last⟩
  ordered := inOrder.ordered.imp_of_mem fun {path next} member member' before step step' => by
    rw [entersLastAt_concat_of_present (present path member),
      entersLastAt_concat_of_present (present next member')]
    exact before step step'

/-- The paths of a table stand in the order in which they last came in. -/
theorem inOrderOfEntry_ofEdits (edits : List ImportEdit) :
    InOrderOfEntry edits (ofEdits edits).paths := by
  induction edits using List.reverseRecOn with
  | nil => exact ⟨List.forall_mem_nil _, List.Pairwise.nil⟩
  | append_singleton edits change ih =>
    rcases paths_edit (ofEdits edits) change with fewer | ⟨path, absent, grown⟩
    · rw [ofEdits_concat]
      have kept : InOrderOfEntry edits ((ofEdits edits).edit change).paths :=
        ⟨fun path member => ih.entered path (fewer.subset member), ih.ordered.sublist fewer⟩
      exact kept.concat (fun path member => fewer.subset member) change
    · rw [← ofEdits_concat] at grown
      have old := ih.concat (fun _ member => member) change
      have present : path ∈ (ofEdits (edits ++ [change])).paths := by simp [grown]
      have new := entersLastAt_concat_of_absent absent present
      rw [grown]
      refine ⟨List.forall_mem_append.mpr ⟨old.entered, by simp [new]⟩,
        List.pairwise_append.mpr ⟨old.ordered, List.pairwise_singleton _ _, ?_⟩⟩
      intro earlier member next isPath step step' last last'
      cases List.mem_singleton.mp isPath
      rw [(new step').mp last']
      rw [entersLastAt_concat_of_present member] at last
      exact last.enters.lt_length

/-! ## The table of a history -/

/-- What a history says about a table. -/
structure Recounts (edits : List ImportEdit) (table : ImportTable) : Prop where
  lists : ∀ path symbol, table.Lists path symbol ↔ AddedSince edits path symbol
  nonempty : ∀ entry ∈ table.entries, entry.symbols ≠ []
  distinct : table.paths.Nodup
  increasing : ∀ entry ∈ table.entries, entry.symbols.Pairwise (· < ·)
  inOrder : InOrderOfEntry edits table.paths
  pathsOf : ∀ symbol, table.pathsOf symbol = table.paths.filter (table.Lists · symbol)

/-- A table made by any history of changes is as the history says. -/
theorem recounts_ofEdits (edits : List ImportEdit) : Recounts edits (ofEdits edits) where
  lists := lists_ofEdits edits
  nonempty := full_ofEdits edits
  distinct := paths_nodup_ofEdits edits
  increasing := sorted_ofEdits edits
  inOrder := inOrderOfEntry_ofEdits edits
  pathsOf _ := pathsOf_eq_filter (paths_nodup_ofEdits edits) fun _ => decide_eq_true_iff

-- `a.sol` loses its only symbol and comes in again behind `b.sol`, which keeps one.
example : ofEdits [.add "a.sol" "X", .add "b.sol" "X", .add "b.sol" "Y", .erase "X",
    .add "a.sol" "Z"] = ⟨[⟨"b.sol", ["Y"]⟩, ⟨"a.sol", ["Z"]⟩]⟩ := by
  decide

end ImportTable

end CallLibrary.Solidity
