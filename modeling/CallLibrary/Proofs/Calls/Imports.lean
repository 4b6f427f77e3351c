import CallLibrary.Proofs.Calls.Ambiguity

/-!
# What a file imports

A file that is generated imports every symbol that was requested, unless it defines the symbol
itself. Paths do not compete: a symbol with two of them would have been ambiguous.
-/

namespace CallLibrary.Calls

open Interface (ImportRequest)
open Solidity (Import ImportTable)

/-- A symbol is imported once in all, and from the given path. -/
def ImportedOnce (imports : List Import) (symbol path : String) : Prop :=
  (imports.flatMap (·.symbols)).count symbol = 1 ∧
    ∃ entry ∈ imports, entry.path = path ∧ symbol ∈ entry.symbols

theorem sorted_resolvedTable (requests : List ImportRequest) (defined : List String) :
    (resolvedTable requests defined).Sorted :=
  resolvedTable_keeps (ImportTable.sorted_ofRequests requests)
    (fun _ erased sorted => ImportTable.sorted_erase sorted erased) defined

/-- Imports are resolved only if no symbol is ambiguous. -/
theorem unambiguous_of_resolveImports {requests : List ImportRequest} {defined : List String}
    {imports : List Import} (resolved : resolveImports requests defined = .ok imports)
    (symbol : String) : ¬ Ambiguous requests defined symbol := by
  intro ambiguous
  obtain ⟨e, first⟩ := exists_firstAmbiguity.mpr ⟨symbol, ambiguous⟩
  rw [resolveImports_eq_error.mpr first] at resolved
  cases resolved

/-- No symbol is imported twice, under whatever paths. -/
theorem nodup_symbols_of_resolveImports {requests : List ImportRequest} {defined : List String}
    {imports : List Import} (resolved : resolveImports requests defined = .ok imports) :
    (imports.flatMap (·.symbols)).Nodup := by
  have clear := unambiguous_of_resolveImports resolved
  obtain rfl := entries_of_resolveImports resolved
  rw [List.nodup_iff_count_le_one]
  intro symbol
  rw [ImportTable.count_symbols (sorted_resolvedTable requests defined), pathsOf_resolvedTable]
  by_cases known : symbol ∈ defined
  · simp [known]
  · rw [if_neg known]
    match claimed : claimants requests symbol with
    | [] => exact Nat.zero_le 1
    | [_] => exact Nat.le_refl 1
    | first :: second :: others =>
      have twice := ambiguous_iff_claimants.mpr ⟨known, first, second, others, claimed⟩
      exact absurd twice (clear symbol)

/-- No symbol is imported that the file defines itself. -/
theorem not_mem_defined_of_resolveImports {requests : List ImportRequest} {defined : List String}
    {imports : List Import} (resolved : resolveImports requests defined = .ok imports)
    {symbol : String} (imported : symbol ∈ imports.flatMap (·.symbols)) : symbol ∉ defined := by
  obtain rfl := entries_of_resolveImports resolved
  obtain ⟨entry, member, listed⟩ := List.mem_flatMap.mp imported
  have kept := lists_eraseAll defined (ImportTable.ofRequests requests) entry.path symbol
  exact (kept.mp ⟨entry, member, rfl, listed⟩).2

/-- If there is no other path for a symbol, the requests name exactly one. -/
theorem claimants_eq_singleton {requests : List ImportRequest} {symbol path : String}
    (requested : ⟨symbol, path⟩ ∈ requests)
    (only : ∀ other, ⟨symbol, other⟩ ∈ requests → other = path) :
    claimants requests symbol = [path] := by
  have member := mem_claimants.mpr requested
  have distinct := claimants_nodup requests symbol
  match listed : claimants requests symbol with
  | [] => simp [listed] at member
  | [first] =>
    rw [listed, List.mem_singleton] at member
    rw [member]
  | first :: second :: others =>
    have one : first = path := only first (mem_claimants.mp (by simp [listed]))
    have two : second = path := only second (mem_claimants.mp (by simp [listed]))
    simp [listed, one, two] at distinct

/-- A requested symbol is imported once, from the path requested, unless the file defines it. -/
theorem importedOnce_iff_of_resolveImports {requests : List ImportRequest}
    {defined : List String} {imports : List Import}
    (resolved : resolveImports requests defined = .ok imports) {symbol path : String}
    (requested : ⟨symbol, path⟩ ∈ requests) :
    ImportedOnce imports symbol path ↔ symbol ∉ defined := by
  have only (foreign : symbol ∉ defined) (other : String) (also : ⟨symbol, other⟩ ∈ requests) :
      other = path := by
    by_contra different
    exact unambiguous_of_resolveImports resolved symbol
      ⟨foreign, other, path, different, also, requested⟩
  obtain rfl := entries_of_resolveImports resolved
  have listed := (ImportTable.lists_ofRequests requests path symbol).mpr requested
  have kept := lists_eraseAll defined (ImportTable.ofRequests requests) path symbol
  constructor
  · rintro ⟨_, entry⟩
    exact (kept.mp entry).2
  · intro foreign
    refine ⟨?_, kept.mpr ⟨listed, foreign⟩⟩
    rw [ImportTable.count_symbols (sorted_resolvedTable requests defined), pathsOf_resolvedTable,
      if_neg foreign, claimants_eq_singleton requested (only foreign)]
    rfl

end CallLibrary.Calls
