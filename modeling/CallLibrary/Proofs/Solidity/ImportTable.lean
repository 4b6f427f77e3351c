import Mathlib.Data.List.Induction
import Mathlib.Data.List.Nodup
import CallLibrary.Solidity.Import

/-!
# What an import table holds

A table is seen through three views: its paths in order, the pairs of a path and a symbol that it
lists, and the paths of one symbol. Adding and erasing are described by what they do to these views,
and from one step the views of a table made of a list of requests follow: its paths are those of the
requests in the order in which they are first seen, and it lists exactly the requested pairs. The
symbols of a path always increase, so that each is listed once.
-/

namespace CallLibrary.Solidity

open Interface (ImportRequest)

theorem mem_insertSymbol {wanted symbol : String} {symbols : List String} :
    wanted ∈ insertSymbol symbol symbols ↔ wanted = symbol ∨ wanted ∈ symbols := by
  induction symbols with
  | nil => simp [insertSymbol]
  | cons first rest ih =>
    unfold insertSymbol
    split
    · simp
    · split
      next same => simp [same]
      next => simp only [List.mem_cons, ih]; exact or_left_comm

theorem pairwise_insertSymbol {symbol : String} {symbols : List String}
    (increasing : symbols.Pairwise (· < ·)) :
    (insertSymbol symbol symbols).Pairwise (· < ·) := by
  induction symbols with
  | nil => simp [insertSymbol]
  | cons first rest ih =>
    obtain ⟨beyond, others⟩ := List.pairwise_cons.mp increasing
    unfold insertSymbol
    split
    next before =>
      have all : ∀ s ∈ first :: rest, symbol < s :=
        List.forall_mem_cons.mpr ⟨before, fun s member => String.lt_trans before (beyond s member)⟩
      exact List.pairwise_cons.mpr ⟨all, increasing⟩
    next notBefore =>
      split
      next => exact increasing
      next different =>
        have after : first < symbol := Std.lt_of_le_of_ne notBefore (Ne.symm different)
        refine List.pairwise_cons.mpr ⟨fun s member => ?_, ih others⟩
        rcases mem_insertSymbol.mp member with rfl | old
        · exact after
        · exact beyond s old

namespace ImportTable

def paths (table : ImportTable) : List String := table.entries.map (·.path)

/-- A symbol stands under a path of a table. -/
def Lists (table : ImportTable) (path symbol : String) : Prop :=
  ∃ entry ∈ table.entries, entry.path = path ∧ symbol ∈ entry.symbols

/-- A path that is new is added at the end, and all others stay in their places. -/
theorem map_path_addEntry (path symbol : String) (entries : List Import) :
    (addEntry path symbol entries).map (·.path) =
      if path ∈ entries.map (·.path) then entries.map (·.path)
      else entries.map (·.path) ++ [path] := by
  induction entries with
  | nil => simp [addEntry]
  | cons entry rest ih =>
    unfold addEntry
    by_cases same : entry.path = path
    · simp [same]
    · have other : path ≠ entry.path := fun equal => same equal.symm
      simp only [same, if_false, List.map_cons, ih, List.mem_cons, other, false_or]
      split
      · rfl
      · rfl

/-- A path that is there keeps its place, a new one comes last. -/
theorem paths_add (table : ImportTable) (path symbol : String) :
    (table.add path symbol).paths =
      if path ∈ table.paths then table.paths else table.paths ++ [path] :=
  map_path_addEntry path symbol table.entries

/-- Adding lists the new pair and keeps all others. -/
theorem lists_add (table : ImportTable) (path symbol path' symbol' : String) :
    (table.add path symbol).Lists path' symbol' ↔
      (path' = path ∧ symbol' = symbol) ∨ table.Lists path' symbol' := by
  obtain ⟨entries⟩ := table
  simp only [add, Lists]
  induction entries with
  | nil => simp [addEntry, eq_comm]
  | cons entry rest ih =>
    unfold addEntry
    by_cases same : entry.path = path
    · simp only [same, if_true, List.exists_mem_cons_iff, mem_insertSymbol]
      grind
    · simp only [same, if_false, List.exists_mem_cons_iff, ih]
      exact or_left_comm

/-- Erasing a symbol takes exactly its pairs away. -/
theorem lists_erase (table : ImportTable) (erased path symbol : String) :
    (table.erase erased).Lists path symbol ↔ table.Lists path symbol ∧ symbol ≠ erased := by
  simp only [erase, Lists, List.mem_filter, List.mem_map]
  constructor
  · rintro ⟨_, ⟨⟨entry, member, rfl⟩, _⟩, rfl, kept⟩
    simp only [List.mem_filter, bne_iff_ne] at kept
    exact ⟨⟨entry, member, rfl, kept.1⟩, kept.2⟩
  · rintro ⟨⟨entry, member, rfl, listed⟩, other⟩
    have kept : symbol ∈ entry.symbols.filter (· != erased) := by simp [listed, other]
    refine ⟨_, ⟨⟨entry, member, rfl⟩, ?_⟩, rfl, kept⟩
    simp [List.ne_nil_of_mem kept]

/-- Erasing a symbol keeps the order of the paths. -/
theorem sublist_paths_erase (table : ImportTable) (erased : String) :
    (table.erase erased).paths.Sublist table.paths := by
  unfold paths erase
  have kept := (List.filter_sublist (p := fun entry : Import => !entry.symbols.isEmpty)
    (l := table.entries.map fun entry =>
      { entry with symbols := entry.symbols.filter (· != erased) })).map (·.path)
  rw [List.map_map] at kept
  exact kept

/-- An entry answers for its path because no other entry has the same path. -/
theorem mem_symbols_iff_lists {table : ImportTable} (distinct : table.paths.Nodup) {entry : Import}
    (member : entry ∈ table.entries) (symbol : String) :
    symbol ∈ entry.symbols ↔ table.Lists entry.path symbol := by
  constructor
  · intro listed
    exact ⟨entry, member, rfl, listed⟩
  · intro ⟨other, also, samePath, listed⟩
    have same : other = entry := List.inj_on_of_nodup_map distinct also member samePath
    exact same ▸ listed

/-- The paths of a symbol stand in the order of the table's paths. -/
theorem pathsOf_eq_filter {table : ImportTable} (distinct : table.paths.Nodup) {symbol : String}
    {asked : String → Bool} (agree : ∀ path, asked path = true ↔ table.Lists path symbol) :
    table.pathsOf symbol = table.paths.filter asked := by
  have entrywise : ∀ entry ∈ table.entries,
      (fun entry : Import => entry.symbols.contains symbol) entry = asked entry.path := by
    intro entry member
    rw [Bool.eq_iff_iff, List.contains_iff_mem, agree, mem_symbols_iff_lists distinct member]
  rw [pathsOf, List.filter_congr entrywise, paths, List.filter_map]
  rfl

/-- Erasing a symbol leaves the paths of all others as they are. -/
theorem pathsOf_erase (table : ImportTable) (erased symbol : String) :
    (table.erase erased).pathsOf symbol =
      if symbol = erased then [] else table.pathsOf symbol := by
  obtain ⟨entries⟩ := table
  simp only [erase, pathsOf]
  induction entries with
  | nil => simp
  | cons entry rest ih =>
    by_cases same : symbol = erased
    · subst same
      simp
    · by_cases listed : symbol ∈ entry.symbols
      · have kept : entry.symbols.filter (· != erased) ≠ [] :=
          List.ne_nil_of_mem (List.mem_filter.mpr ⟨listed, by simpa using same⟩)
        simp_all
      · simp_all [List.filter_cons]
        split <;> simp_all

theorem ofRequests_concat (requests : List ImportRequest) (request : ImportRequest) :
    ofRequests (requests ++ [request]) = (ofRequests requests).add request.path request.symbol := by
  simp [ofRequests]

/-- A table made of requests has their paths in the order in which they are first seen. -/
theorem paths_ofRequests (requests : List ImportRequest) :
    (ofRequests requests).paths = (requests.map (·.path)).eraseDups := by
  -- From the end, because the table is folded from the front.
  induction requests using List.reverseRecOn with
  | nil => rfl
  | append_singleton requests request ih =>
    rw [ofRequests_concat, paths_add, ih, List.map_append, List.eraseDups_append]
    by_cases known : request.path ∈ requests.map (·.path)
    · simp only [List.mem_eraseDups, known, if_true]
      simp [List.removeAll, List.mem_map.mp known]
    · simp only [List.mem_eraseDups, known, if_false]
      simp only [List.mem_map, not_exists, not_and] at known
      simp [List.removeAll]
      grind

/-- A table made of requests lists what they ask for. -/
theorem lists_ofRequests (requests : List ImportRequest) (path symbol : String) :
    (ofRequests requests).Lists path symbol ↔ ⟨symbol, path⟩ ∈ requests := by
  induction requests using List.reverseRecOn with
  | nil => simp [ofRequests, ImportTable.empty, Lists]
  | append_singleton requests request ih =>
    obtain ⟨requested, origin⟩ := request
    rw [ofRequests_concat, lists_add, ih]
    simp [or_comm, and_comm]

theorem paths_nodup_add {table : ImportTable} (distinct : table.paths.Nodup)
    (path symbol : String) : (table.add path symbol).paths.Nodup := by
  rw [paths_add]
  split
  next => exact distinct
  next fresh => exact List.nodup_append.mpr ⟨distinct, by simp, by grind⟩

/-- What every addition keeps holds of a table made of requests. -/
theorem ofRequests_keeps (holds : ImportTable → Prop) (start : holds empty)
    (keeps : ∀ table, holds table → ∀ path symbol, holds (table.add path symbol))
    (requests : List ImportRequest) : holds (ofRequests requests) :=
  List.foldlRecOn requests _ start fun table kept request _ =>
    keeps table kept request.path request.symbol

theorem paths_nodup_ofRequests (requests : List ImportRequest) :
    (ofRequests requests).paths.Nodup :=
  ofRequests_keeps (·.paths.Nodup) List.nodup_nil (fun _ => paths_nodup_add) requests

/-! ## Paths without symbols -/

/-- Every path of a table has a symbol. -/
def Full (table : ImportTable) : Prop := ∀ entry ∈ table.entries, entry.symbols ≠ []

theorem full_add {table : ImportTable} (full : table.Full) (path symbol : String) :
    (table.add path symbol).Full := by
  have grown (symbols : List String) : insertSymbol symbol symbols ≠ [] :=
    List.ne_nil_of_mem (mem_insertSymbol.mpr (.inl rfl))
  obtain ⟨entries⟩ := table
  simp only [Full, add] at full ⊢
  induction entries with
  | nil => simp [addEntry]
  | cons entry rest ih =>
    obtain ⟨here, others⟩ := List.forall_mem_cons.mp full
    unfold addEntry
    split
    · exact List.forall_mem_cons.mpr ⟨grown entry.symbols, others⟩
    · exact List.forall_mem_cons.mpr ⟨here, ih others⟩

theorem full_erase (table : ImportTable) (erased : String) : (table.erase erased).Full := by
  intro entry kept
  simpa using (List.mem_filter.mp kept).2

theorem full_ofRequests (requests : List ImportRequest) : (ofRequests requests).Full :=
  ofRequests_keeps Full (List.forall_mem_nil _) (fun _ => full_add) requests

/-- A path is there exactly if some symbol stands under it. -/
theorem mem_paths_iff_lists {table : ImportTable} (full : table.Full) (path : String) :
    path ∈ table.paths ↔ ∃ symbol, table.Lists path symbol := by
  constructor
  · intro known
    obtain ⟨entry, member, rfl⟩ := List.mem_map.mp known
    obtain ⟨symbol, listed⟩ := List.exists_mem_of_ne_nil _ (full entry member)
    exact ⟨symbol, entry, member, rfl, listed⟩
  · intro ⟨symbol, entry, member, samePath, _⟩
    exact List.mem_map.mpr ⟨entry, member, samePath⟩

/-! ## The order of symbols -/

/-- The symbols of each path stand in increasing order. -/
def Sorted (table : ImportTable) : Prop :=
  ∀ entry ∈ table.entries, entry.symbols.Pairwise (· < ·)

theorem sorted_add {table : ImportTable} (sorted : table.Sorted) (path symbol : String) :
    (table.add path symbol).Sorted := by
  obtain ⟨entries⟩ := table
  simp only [Sorted, add] at sorted ⊢
  induction entries with
  | nil => simp [addEntry]
  | cons entry rest ih =>
    obtain ⟨here, others⟩ := List.forall_mem_cons.mp sorted
    unfold addEntry
    split
    · exact List.forall_mem_cons.mpr ⟨pairwise_insertSymbol here, others⟩
    · exact List.forall_mem_cons.mpr ⟨here, ih others⟩

theorem sorted_erase {table : ImportTable} (sorted : table.Sorted) (erased : String) :
    (table.erase erased).Sorted := by
  intro entry kept
  obtain ⟨whole, member, rfl⟩ := List.mem_map.mp (List.mem_filter.mp kept).1
  exact (sorted whole member).filter _

theorem sorted_ofRequests (requests : List ImportRequest) : (ofRequests requests).Sorted :=
  ofRequests_keeps Sorted (List.forall_mem_nil _) (fun _ => sorted_add) requests

/-- A symbol is listed once for each of its paths. -/
theorem count_symbols {table : ImportTable} (sorted : table.Sorted) (symbol : String) :
    (table.entries.flatMap (·.symbols)).count symbol = (table.pathsOf symbol).length := by
  obtain ⟨entries⟩ := table
  simp only [Sorted, pathsOf] at sorted ⊢
  induction entries with
  | nil => rfl
  | cons entry rest ih =>
    obtain ⟨here, others⟩ := List.forall_mem_cons.mp sorted
    have distinct : entry.symbols.Nodup := here.imp fun less same => by
      subst same
      exact String.lt_irrefl _ less
    rw [List.flatMap_cons, List.count_append, ih others]
    by_cases listed : symbol ∈ entry.symbols
    · simp [List.count_eq_one_of_mem distinct listed, listed, Nat.add_comm]
    · simp [List.count_eq_zero_of_not_mem listed, listed]

end ImportTable

end CallLibrary.Solidity
