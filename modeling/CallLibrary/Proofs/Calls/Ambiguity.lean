import CallLibrary.Calls.Argument
import CallLibrary.Proofs.FirstAt
import CallLibrary.Proofs.Outcome
import CallLibrary.Proofs.Solidity.ImportTable

/-!
# Ambiguous imports

A symbol is ambiguous if the file does not define it itself and requests name two paths for it. The
resolution of imports works on a table from which the defined symbols have been erased; here its
verdict is traced back to the requests: it fails exactly if some symbol is ambiguous, and the error
names the earliest request of such a symbol and the first two of its paths, in the order in which
the requests first name the paths for any symbol.
-/

namespace CallLibrary.Calls

open Interface (ImportRequest)
open Solidity (ImportTable)

/-- The paths that requests name for a symbol, in the order in which they first name the paths for
any symbol. -/
def claimants (requests : List ImportRequest) (symbol : String) : List String :=
  (requests.map (·.path)).eraseDups.filter fun path => decide (⟨symbol, path⟩ ∈ requests)

/-- A symbol that a file does not define is requested from two paths. -/
def Ambiguous (requests : List ImportRequest) (defined : List String) (symbol : String) : Prop :=
  symbol ∉ defined ∧
    ∃ first second, first ≠ second ∧ ⟨symbol, first⟩ ∈ requests ∧ ⟨symbol, second⟩ ∈ requests

/-- The error of an ambiguous symbol: the symbol of the earliest request that is ambiguous, and the
first two of its paths. -/
def FirstAmbiguity (requests : List ImportRequest) (defined : List String)
    (e : GenerationError) : Prop :=
  ∃ index request first second others,
    FirstAt (fun r => Ambiguous requests defined r.symbol) requests index request ∧
    claimants requests request.symbol = first :: second :: others ∧
    e = .ambiguousImport request.symbol first second

theorem mem_claimants {requests : List ImportRequest} {symbol path : String} :
    path ∈ claimants requests symbol ↔ ⟨symbol, path⟩ ∈ requests := by
  simp only [claimants, List.mem_filter, List.mem_eraseDups, List.mem_map, decide_eq_true_eq,
    and_iff_right_iff_imp]
  intro requested
  exact ⟨⟨symbol, path⟩, requested, rfl⟩

theorem claimants_nodup (requests : List ImportRequest) (symbol : String) :
    (claimants requests symbol).Nodup := by
  have distinct := ImportTable.paths_nodup_ofRequests requests
  rw [ImportTable.paths_ofRequests] at distinct
  exact distinct.filter _

/-- A list without repetitions has two elements exactly if it has two different ones. -/
theorem exists_cons_cons_iff {α : Type} {l : List α} (distinct : l.Nodup) :
    (∃ first second others, l = first :: second :: others) ↔
      ∃ a b, a ≠ b ∧ a ∈ l ∧ b ∈ l := by
  constructor
  · rintro ⟨first, second, others, rfl⟩
    have different : first ≠ second := by
      intro same
      simp [same] at distinct
    exact ⟨first, second, different, by simp, by simp⟩
  · rintro ⟨a, b, different, hasA, hasB⟩
    match l with
    | [] => simp at hasA
    | [only] =>
      simp only [List.mem_singleton] at hasA hasB
      exact absurd (hasA.trans hasB.symm) different
    | first :: second :: others => exact ⟨first, second, others, rfl⟩

/-- A symbol is ambiguous exactly if the path that claims it first is followed by another one. -/
theorem ambiguous_iff_claimants {requests : List ImportRequest} {defined : List String}
    {symbol : String} :
    Ambiguous requests defined symbol ↔
      symbol ∉ defined ∧
        ∃ first second others, claimants requests symbol = first :: second :: others := by
  rw [exists_cons_cons_iff (claimants_nodup requests symbol)]
  simp only [Ambiguous, mem_claimants]

/-- The table that imports are resolved with: the requests without the defined symbols. -/
def resolvedTable (requests : List ImportRequest) (defined : List String) : ImportTable :=
  defined.foldl (·.erase ·) (ImportTable.ofRequests requests)

theorem pathsOf_eraseAll (defined : List String) (table : ImportTable) (symbol : String) :
    (defined.foldl (·.erase ·) table).pathsOf symbol =
      if symbol ∈ defined then [] else table.pathsOf symbol := by
  induction defined generalizing table with
  | nil => simp
  | cons erased rest ih =>
    rw [List.foldl_cons, ih, ImportTable.pathsOf_erase]
    by_cases later : symbol ∈ rest
    · simp [later]
    · by_cases now : symbol = erased
      · simp [now]
      · simp [later, now]

theorem lists_eraseAll (defined : List String) (table : ImportTable) (path symbol : String) :
    (defined.foldl (·.erase ·) table).Lists path symbol ↔
      table.Lists path symbol ∧ symbol ∉ defined := by
  induction defined generalizing table with
  | nil => simp
  | cons erased rest ih =>
    rw [List.foldl_cons, ih, ImportTable.lists_erase, List.mem_cons, not_or, and_assoc]

/-- What holds of the requests' table and is kept by erasing holds of the resolved table. -/
theorem resolvedTable_keeps {P : ImportTable → Prop} {requests : List ImportRequest}
    (start : P (ImportTable.ofRequests requests))
    (step : ∀ table erased, P table → P (table.erase erased)) (defined : List String) :
    P (resolvedTable requests defined) :=
  List.foldlRecOn defined _ start fun table kept erased _ => step table erased kept

theorem sublist_paths_resolvedTable (requests : List ImportRequest) (defined : List String) :
    (resolvedTable requests defined).paths.Sublist (ImportTable.ofRequests requests).paths :=
  resolvedTable_keeps
    (P := fun table => table.paths.Sublist (ImportTable.ofRequests requests).paths)
    (List.Sublist.refl _)
    (fun table erased kept => (table.sublist_paths_erase erased).trans kept) defined

/-- The paths of a symbol in the table are those that the requests name for it. -/
theorem pathsOf_resolvedTable (requests : List ImportRequest) (defined : List String)
    (symbol : String) :
    (resolvedTable requests defined).pathsOf symbol =
      if symbol ∈ defined then [] else claimants requests symbol := by
  rw [resolvedTable, pathsOf_eraseAll]
  have asked : ∀ path, decide (ImportRequest.mk symbol path ∈ requests) = true ↔
      (ImportTable.ofRequests requests).Lists path symbol := by
    intro path
    rw [decide_eq_true_eq, ImportTable.lists_ofRequests]
  rw [ImportTable.pathsOf_eq_filter (ImportTable.paths_nodup_ofRequests requests) asked,
    ImportTable.paths_ofRequests]
  rfl

def HasTwoPaths (table : ImportTable) (request : ImportRequest) : Prop :=
  ∃ first second others, table.pathsOf request.symbol = first :: second :: others

/-- The scan stops at the first request whose symbol has two paths in the table. -/
theorem ambiguity?_eq_some {table : ImportTable} {requests : List ImportRequest}
    {e : GenerationError} :
    ambiguity? table requests = some e ↔
      ∃ index request first second others,
        FirstAt (HasTwoPaths table) requests index request ∧
        table.pathsOf request.symbol = first :: second :: others ∧
        e = .ambiguousImport request.symbol first second := by
  induction requests with
  | nil => simp [ambiguity?, not_firstAt_nil]
  | cons request rest ih =>
    unfold ambiguity?
    split
    next first second others listed =>
      have here : HasTwoPaths table request := ⟨first, second, others, listed⟩
      simp only [Option.some.injEq, firstAt_cons_of_pos here]
      constructor
      · rintro rfl
        exact ⟨0, request, first, second, others, ⟨rfl, rfl⟩, listed, rfl⟩
      · rintro ⟨_, _, first', second', others', ⟨rfl, rfl⟩, listed', rfl⟩
        rw [listed] at listed'
        cases listed'
        rfl
    next single =>
      have not : ¬ HasTwoPaths table request := by
        rintro ⟨a, b, others, listed⟩
        exact single a b others listed
      simp only [ih, firstAt_cons_of_neg not]
      constructor
      · rintro ⟨index, found, first, second, others, earliest, listed, rfl⟩
        exact ⟨index + 1, found, first, second, others, ⟨index, rfl, earliest⟩, listed, rfl⟩
      · rintro ⟨_, found, first, second, others, ⟨index, rfl, earliest⟩, listed, rfl⟩
        exact ⟨index, found, first, second, others, earliest, listed, rfl⟩

/-- The table has a symbol from two paths exactly where the requests are ambiguous. -/
theorem hasTwoPaths_resolvedTable {requests : List ImportRequest} {defined : List String} :
    HasTwoPaths (resolvedTable requests defined) =
      fun request => Ambiguous requests defined request.symbol := by
  funext request
  rw [eq_iff_iff, HasTwoPaths, pathsOf_resolvedTable, ambiguous_iff_claimants]
  by_cases known : request.symbol ∈ defined
  · simp [known]
  · simp [known]

/-- Resolution fails with the error of the earliest ambiguous request and no other. -/
theorem resolveImports_eq_error {requests : List ImportRequest} {defined : List String}
    {e : GenerationError} :
    resolveImports requests defined = .error e ↔ FirstAmbiguity requests defined e := by
  have scan : resolveImports requests defined = .error e ↔
      ambiguity? (resolvedTable requests defined) requests = some e := by
    simp only [resolveImports, resolvedTable]
    split <;> simp_all
  rw [scan, ambiguity?_eq_some, hasTwoPaths_resolvedTable, FirstAmbiguity]
  constructor
  · rintro ⟨index, request, first, second, others, earliest, listed, rfl⟩
    have undefined := earliest.2.1.1
    rw [pathsOf_resolvedTable, if_neg undefined] at listed
    exact ⟨index, request, first, second, others, earliest, listed, rfl⟩
  · rintro ⟨index, request, first, second, others, earliest, claimed, rfl⟩
    have undefined := earliest.2.1.1
    refine ⟨index, request, first, second, others, earliest, ?_, rfl⟩
    rw [pathsOf_resolvedTable, if_neg undefined, claimed]

/-- The imports of a file are the entries of its table. -/
theorem entries_of_resolveImports {requests : List ImportRequest} {defined : List String}
    {imports : List Solidity.Import} (resolved : resolveImports requests defined = .ok imports) :
    imports = (resolvedTable requests defined).entries := by
  simp only [resolveImports, resolvedTable] at resolved ⊢
  split at resolved
  next => cases resolved
  next => exact (Except.ok.inj resolved).symm

/-- Only requested symbols are imported, from paths that were requested for them. -/
theorem requested_of_resolveImports {requests : List ImportRequest} {defined : List String}
    {imports : List Solidity.Import} (resolved : resolveImports requests defined = .ok imports)
    {entry : Solidity.Import} (member : entry ∈ imports) :
    (∃ request ∈ requests, request.path = entry.path) ∧
      ∀ symbol ∈ entry.symbols, ⟨symbol, entry.path⟩ ∈ requests := by
  obtain rfl := entries_of_resolveImports resolved
  constructor
  · have known : entry.path ∈ (resolvedTable requests defined).paths := List.mem_map_of_mem member
    have asked := (sublist_paths_resolvedTable requests defined).subset known
    rw [ImportTable.paths_ofRequests, List.mem_eraseDups] at asked
    exact List.mem_map.mp asked
  · intro symbol listed
    have asked := (lists_eraseAll defined _ entry.path symbol).mp ⟨entry, member, rfl, listed⟩
    exact (ImportTable.lists_ofRequests requests entry.path symbol).mp asked.1

/-- There is an error exactly if some symbol is ambiguous. -/
theorem exists_firstAmbiguity {requests : List ImportRequest} {defined : List String} :
    (∃ e, FirstAmbiguity requests defined e) ↔ ∃ symbol, Ambiguous requests defined symbol := by
  constructor
  · rintro ⟨e, index, request, first, second, others, earliest, claimed, rfl⟩
    exact ⟨request.symbol, earliest.2.1⟩
  · rintro ⟨symbol, ambiguous⟩
    obtain ⟨path, _, _, requested, _⟩ := ambiguous.2
    obtain ⟨index, request, earliest⟩ :=
      exists_firstAt (p := fun r : ImportRequest => Ambiguous requests defined r.symbol).mpr
        ⟨⟨symbol, path⟩, requested, ambiguous⟩
    obtain ⟨_, first, second, others, claimed⟩ := ambiguous_iff_claimants.mp earliest.2.1
    exact ⟨_, index, request, first, second, others, earliest, claimed, rfl⟩

end CallLibrary.Calls
