import Mathlib.Data.List.Sort
import CallLibrary.Proofs.Calls.Imports

/-!
# The resolved imports

The imports of a file are determined by the requests for them and by the names that the file defines
itself. A path is imported from if it is asked for some symbol that the file does not define, and it
stands where the requests first name it, be it for a symbol that is dropped later. Its symbols are
all those that are wanted from it, once each and in order. Resolution fails if and only if a wanted
symbol has two paths.
-/

namespace CallLibrary.Calls

open Interface (ImportRequest)
open Solidity (Import ImportTable)

/-- A symbol is wanted from a path: it is requested from there, and the file does not define it. -/
def Wanted (requests : List ImportRequest) (defined : List String) (path symbol : String) : Prop :=
  ⟨symbol, path⟩ ∈ requests ∧ symbol ∉ defined

def wantsFrom (requests : List ImportRequest) (defined : List String) (path : String) : Bool :=
  requests.any fun request => decide (request.path = path ∧ request.symbol ∉ defined)

/-- One import for each path that something is wanted from, in the order in which the requests
first name the paths, with all that is wanted from it in increasing order. -/
structure OnePerPath (requests : List ImportRequest) (defined : List String)
    (imports : List Import) : Prop where
  paths : imports.map (·.path) =
    (requests.map (·.path)).eraseDups.filter (wantsFrom requests defined)
  increasing : ∀ entry ∈ imports, entry.symbols.Pairwise (· < ·)
  symbols : ∀ entry ∈ imports, ∀ symbol,
    symbol ∈ entry.symbols ↔ Wanted requests defined entry.path symbol

structure Resolution (requests : List ImportRequest) (defined : List String)
    (imports : List Import) : Prop extends OnePerPath requests defined imports where
  nonempty : ∀ entry ∈ imports, entry.symbols ≠ []
  pathsDistinct : (imports.map (·.path)).Nodup
  symbolsDistinct : (imports.flatMap (·.symbols)).Nodup
  foreign : ∀ symbol ∈ imports.flatMap (·.symbols), symbol ∉ defined
  kept : ∀ request ∈ requests, request.symbol ∉ defined →
    ∃ entry ∈ imports, entry.path = request.path ∧ request.symbol ∈ entry.symbols
  requested : ∀ entry ∈ imports, ∀ symbol ∈ entry.symbols, ⟨symbol, entry.path⟩ ∈ requests

theorem wantsFrom_iff {requests : List ImportRequest} {defined : List String} {path : String} :
    wantsFrom requests defined path = true ↔ ∃ symbol, Wanted requests defined path symbol := by
  simp only [wantsFrom, List.any_eq_true, decide_eq_true_eq]
  constructor
  · intro ⟨request, member, samePath, foreign⟩
    exact ⟨request.symbol, samePath ▸ member, foreign⟩
  · intro ⟨symbol, member, foreign⟩
    exact ⟨_, member, rfl, foreign⟩

/-- A part of a list without repetitions is what a filter for its members keeps. -/
theorem eq_filter_of_sublist {α : Type} {part whole : List α} {p : α → Bool}
    (within : part.Sublist whole) (distinct : whole.Nodup)
    (members : ∀ a, a ∈ part ↔ a ∈ whole ∧ p a = true) : part = whole.filter p := by
  have unchanged : part.filter p = part :=
    List.filter_eq_self.mpr fun a member => ((members a).mp member).2
  have kept : part.Sublist (whole.filter p) := unchanged ▸ within.filter p
  have sameMembers : part.Perm (whole.filter p) := by
    apply (List.perm_ext_iff_of_nodup (distinct.sublist within) (distinct.filter p)).mpr
    intro a
    rw [members, List.mem_filter]
  exact kept.eq_of_length sameMembers.length_eq

theorem full_resolvedTable (requests : List ImportRequest) (defined : List String) :
    (resolvedTable requests defined).Full :=
  resolvedTable_keeps (ImportTable.full_ofRequests requests)
    (fun table erased _ => table.full_erase erased) defined

/-- The table lists a symbol under a path exactly if it is wanted from there. -/
theorem lists_resolvedTable (requests : List ImportRequest) (defined : List String)
    (path symbol : String) :
    (resolvedTable requests defined).Lists path symbol ↔ Wanted requests defined path symbol := by
  unfold resolvedTable
  rw [lists_eraseAll, ImportTable.lists_ofRequests]
  rfl

/-- The paths of the table are the requested ones in their first order, less those from which
nothing is wanted. -/
theorem paths_resolvedTable (requests : List ImportRequest) (defined : List String) :
    (resolvedTable requests defined).paths =
      (requests.map (·.path)).eraseDups.filter (wantsFrom requests defined) := by
  have within := sublist_paths_resolvedTable requests defined
  have distinct := ImportTable.paths_nodup_ofRequests requests
  rw [ImportTable.paths_ofRequests] at within distinct
  apply eq_filter_of_sublist within distinct
  intro path
  have known := ImportTable.mem_paths_iff_lists (full_resolvedTable requests defined) path
  simp only [lists_resolvedTable, ← wantsFrom_iff] at known
  constructor
  · intro kept
    exact ⟨within.subset kept, known.mp kept⟩
  · intro ⟨_, wanted⟩
    exact known.mpr wanted

theorem paths_nodup_resolvedTable (requests : List ImportRequest) (defined : List String) :
    (resolvedTable requests defined).paths.Nodup :=
  (ImportTable.paths_nodup_ofRequests requests).sublist
    (sublist_paths_resolvedTable requests defined)

theorem onePerPath_resolvedTable (requests : List ImportRequest) (defined : List String) :
    OnePerPath requests defined (resolvedTable requests defined).entries where
  paths := paths_resolvedTable requests defined
  increasing := sorted_resolvedTable requests defined
  symbols entry member symbol := by
    have distinct := paths_nodup_resolvedTable requests defined
    rw [ImportTable.mem_symbols_iff_lists distinct member, lists_resolvedTable]

theorem resolution_of_resolveImports {requests : List ImportRequest} {defined : List String}
    {imports : List Import} (resolved : resolveImports requests defined = .ok imports) :
    Resolution requests defined imports := by
  have symbolsDistinct := nodup_symbols_of_resolveImports resolved
  have entries := entries_of_resolveImports resolved
  have described : OnePerPath requests defined imports :=
    entries ▸ onePerPath_resolvedTable requests defined
  exact {
    toOnePerPath := described
    nonempty := entries ▸ full_resolvedTable requests defined
    pathsDistinct := entries ▸ paths_nodup_resolvedTable requests defined
    symbolsDistinct := symbolsDistinct
    foreign := fun symbol imported => not_mem_defined_of_resolveImports resolved imported
    kept := fun request member foreign =>
      entries ▸ (lists_resolvedTable requests defined _ _).mpr ⟨member, foreign⟩
    requested := fun entry member symbol listed =>
      ((described.symbols entry member symbol).mp listed).1 }

/-- The description leaves no choice. -/
theorem OnePerPath.unique {requests : List ImportRequest} {defined : List String}
    {imports others : List Import} (one : OnePerPath requests defined imports)
    (two : OnePerPath requests defined others) : imports = others := by
  have samePaths : imports.map (·.path) = others.map (·.path) := one.paths.trans two.paths.symm
  have sameLength : imports.length = others.length := by
    simpa using congrArg List.length samePaths
  apply List.ext_getElem sameLength
  intro index inOne inTwo
  have samePath : imports[index].path = others[index].path := by
    simpa [inOne, inTwo] using congrArg (·[index]?) samePaths
  have memberOne : imports[index] ∈ imports := List.getElem_mem inOne
  have memberTwo : others[index] ∈ others := List.getElem_mem inTwo
  have sameSymbols : imports[index].symbols = others[index].symbols := by
    apply (one.increasing _ memberOne).eq_of_mem_iff (two.increasing _ memberTwo)
    intro symbol
    rw [one.symbols _ memberOne, two.symbols _ memberTwo, samePath]
  calc imports[index] = ⟨imports[index].path, imports[index].symbols⟩ := rfl
    _ = ⟨others[index].path, others[index].symbols⟩ := by rw [samePath, sameSymbols]
    _ = others[index] := rfl

/-- Imports cannot be resolved exactly if some symbol is ambiguous. -/
theorem exists_error_iff_ambiguous (requests : List ImportRequest) (defined : List String) :
    (∃ e, resolveImports requests defined = .error e) ↔
      ∃ symbol, Ambiguous requests defined symbol := by
  simp only [resolveImports_eq_error]
  exact exists_firstAmbiguity

/-- Resolution fails if and only if a wanted symbol has two paths, and what it gives otherwise is
described completely by the requests and the defined names. -/
theorem resolveImports_exact (requests : List ImportRequest) (defined : List String) :
    ((∃ e, resolveImports requests defined = .error e) ↔
      ∃ symbol, Ambiguous requests defined symbol) ∧
    ∀ imports, resolveImports requests defined = .ok imports ↔
      (∀ symbol, ¬ Ambiguous requests defined symbol) ∧ Resolution requests defined imports := by
  refine ⟨exists_error_iff_ambiguous requests defined, fun imports => ?_⟩
  constructor
  · intro resolved
    exact ⟨unambiguous_of_resolveImports resolved, resolution_of_resolveImports resolved⟩
  · intro ⟨clear, resolution⟩
    cases resolved : resolveImports requests defined with
    | error e =>
      obtain ⟨symbol, ambiguous⟩ := (exists_error_iff_ambiguous requests defined).mp ⟨e, resolved⟩
      exact absurd ambiguous (clear symbol)
    | ok others =>
      have described := (resolution_of_resolveImports resolved).toOnePerPath
      rw [described.unique resolution.toOnePerPath]

-- `B.sol` comes first although the request that names it first is dropped.
example : resolveImports [⟨"X", "B.sol"⟩, ⟨"Z", "A.sol"⟩, ⟨"Y", "B.sol"⟩, ⟨"W", "A.sol"⟩] ["X"] =
    .ok [⟨"B.sol", ["Y"]⟩, ⟨"A.sol", ["W", "Z"]⟩] := by
  decide

end CallLibrary.Calls
