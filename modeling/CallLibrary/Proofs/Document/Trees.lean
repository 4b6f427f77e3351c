import Mathlib.Data.List.Forall2
import CallLibrary.Document.Json.Reader
import CallLibrary.Document.Toml.Reader
import CallLibrary.Proofs.Document.Drafts
import CallLibrary.Proofs.Document.Spellings

/-!
# The tree in a document

Documents of different formats may hold the same tree: the same tables, arrays and single values,
without regard to the marks and to the order of a table's entries. Two readings agree on trees of a
kind if they accept the same documents that hold one and read the same value from them.
-/

namespace CallLibrary.Document

open Outcome

/-- What documents of all formats can hold. -/
inductive Tree where
  | text (value : String)
  | integer (value : Int)
  | float (negative : Bool) (magnitude : Decimal.Magnitude)
  | boolean (value : Bool)
  | array (items : List Tree)
  | table (members : List (String × Tree))

variable {P Q σ α β : Type}

mutual

/-- A document value holds a tree. -/
inductive Node.Holds : Node P → Tree → Prop
  | text {mark : P} {value : String} : Node.Holds (.scalar mark (.text value)) (.text value)
  | integer {mark : P} {value : Int} : Node.Holds (.scalar mark (.integer value)) (.integer value)
  | float {mark : P} {negative : Bool} {magnitude : Decimal.Magnitude} :
    Node.Holds (.scalar mark (.float (.finite negative magnitude))) (.float negative magnitude)
  | boolean {mark : P} {value : Bool} : Node.Holds (.scalar mark (.boolean value)) (.boolean value)
  | array {mark : P} {nodes : List (Node P)} {items : List Tree} :
    HoldItems nodes items → Node.Holds (.array mark nodes) (.array items)
  /-- The entries may stand in any order. -/
  | table {mark : P} {entries listed : List (Key P × Node P)} {members : List (String × Tree)} :
    entries.Perm listed → HoldMembers listed members →
      Node.Holds (.table mark entries) (.table members)

inductive HoldItems : List (Node P) → List Tree → Prop
  | nil : HoldItems [] []
  | cons {node : Node P} {nodes : List (Node P)} {item : Tree} {items : List Tree} :
    Node.Holds node item → HoldItems nodes items → HoldItems (node :: nodes) (item :: items)

inductive HoldMembers : List (Key P × Node P) → List (String × Tree) → Prop
  | nil : HoldMembers [] []
  | cons {mark : P} {name : String} {node : Node P} {entries : List (Key P × Node P)} {tree : Tree}
    {members : List (String × Tree)} : Node.Holds node tree → HoldMembers entries members →
      HoldMembers ((⟨mark, some name⟩, node) :: entries) ((name, tree) :: members)

end

namespace Tree

def isArray : Tree → Bool
  | .array _ => true
  | _ => false

def isTable : Tree → Bool
  | .table _ => true
  | _ => false

def text? : Tree → Option String
  | .text value => some value
  | _ => none

def items : Tree → List Tree
  | .array items => items
  | _ => []

def members : Tree → List (String × Tree)
  | .table members => members
  | _ => []

/-- A tree is no array, and if it is a table then its members are as they should be. -/
structure Tabular (fits : String → Tree → Prop) (tree : Tree) : Prop where
  notArray : tree.isArray = false
  members : ∀ member ∈ tree.members, fits member.1 member.2

end Tree

mutual

/-- Whether a value holds a tree with the entries of tables in the order of their members. -/
def Node.spells : Node P → Tree → Bool
  | .scalar _ (.text value), .text value' => value == value'
  | .scalar _ (.integer value), .integer value' => value == value'
  | .scalar _ (.float (.finite negative magnitude)), .float negative' magnitude' =>
    negative == negative' && magnitude == magnitude'
  | .scalar _ (.boolean value), .boolean value' => value == value'
  | .array _ nodes, .array items => spellItems nodes items
  | .table _ entries, .table members => spellMembers entries members
  | _, _ => false

def spellItems : List (Node P) → List Tree → Bool
  | [], [] => true
  | node :: nodes, item :: items => node.spells item && spellItems nodes items
  | _, _ => false

def spellMembers : List (Key P × Node P) → List (String × Tree) → Bool
  | [], [] => true
  | (key, node) :: entries, (name, tree) :: members =>
    key.text == some name && node.spells tree && spellMembers entries members
  | _, _ => false

end

mutual

/-- A value that spells a tree holds it. -/
theorem Node.holds_of_spells : ∀ {node : Node P} {tree : Tree}, node.spells tree = true →
    node.Holds tree
  | .scalar _ scalar, tree, same => by
    cases scalar with
    | text value =>
      cases tree <;> simp only [Node.spells, Bool.false_eq_true, beq_iff_eq] at same
      exact same ▸ .text
    | integer value =>
      cases tree <;> simp only [Node.spells, Bool.false_eq_true, beq_iff_eq] at same
      exact same ▸ .integer
    | boolean value =>
      cases tree <;> simp only [Node.spells, Bool.false_eq_true, beq_iff_eq] at same
      exact same ▸ .boolean
    | float value =>
      cases value <;> cases tree <;>
        simp only [Node.spells, Bool.false_eq_true, Bool.and_eq_true, beq_iff_eq] at same
      exact same.1 ▸ same.2 ▸ .float
    | _ => cases tree <;> cases same
  | .array _ nodes, tree, same => by
    cases tree with
    | array items => exact .array (holdItems_of_spellItems same)
    | _ => cases same
  | .table _ entries, tree, same => by
    cases tree with
    | table members => exact .table (.refl _) (holdMembers_of_spellMembers same)
    | _ => cases same

theorem holdItems_of_spellItems : ∀ {nodes : List (Node P)} {items : List Tree},
    spellItems nodes items = true → HoldItems nodes items
  | [], [], _ => .nil
  | node :: nodes, item :: items, same => by
    obtain ⟨here, later⟩ := Bool.and_eq_true_iff.mp same
    exact .cons (Node.holds_of_spells here) (holdItems_of_spellItems later)

theorem holdMembers_of_spellMembers : ∀ {entries : List (Key P × Node P)}
    {members : List (String × Tree)}, spellMembers entries members = true →
      HoldMembers entries members
  | [], [], _ => .nil
  | (⟨mark, text⟩, node) :: entries, (name, tree) :: members, same => by
    simp only [spellMembers, Bool.and_eq_true, beq_iff_eq] at same
    obtain ⟨⟨rfl, here⟩, later⟩ := same
    exact .cons (Node.holds_of_spells here) (holdMembers_of_spellMembers later)

end

/-! ## Readings that agree -/

/-- Two readings agree on the documents that hold a tree of a kind. -/
def Agree (kind : Tree → Prop) (read : Node P → Except (Error P) α)
    (read' : Node Q → Except (Error Q) α) : Prop :=
  ∀ tree, kind tree → ∀ (node : Node P) (node' : Node Q), node.Holds tree → node'.Holds tree →
    (read node).toOption = (read' node').toOption

theorem Agree.mono {kind narrow : Tree → Prop} {read : Node P → Except (Error P) α}
    {read' : Node Q → Except (Error Q) α} (agree : Agree kind read read')
    (within : ∀ tree, narrow tree → kind tree) : Agree narrow read read' :=
  fun tree fits => agree tree (within tree fits)

theorem Node.Holds.readText {node : Node P} {tree : Tree} (holds : node.Holds tree) :
    node.readText.toOption = tree.text? := by
  cases holds <;> simp [Node.readText, Tree.text?]

theorem Node.Holds.readText? {node : Node P} {tree : Tree} (holds : node.Holds tree) :
    node.readText?.toOption = tree.text?.map some := by
  have read := holds.readText
  cases holds <;> simp only [Node.readText?, toOption_map, read]

variable {kind : Tree → Prop} {read : Node P → Except (Error P) α}
  {read' : Node Q → Except (Error Q) α}

theorem agree_readText : Agree kind (Node.readText (P := P)) (Node.readText (P := Q)) := by
  intro tree _ node node' holds holds'
  rw [holds.readText, holds'.readText]

theorem agree_readText? : Agree kind (Node.readText? (P := P)) (Node.readText? (P := Q)) := by
  intro tree _ node node' holds holds'
  rw [holds.readText?, holds'.readText?]

/-- Lists are read alike if their items are. -/
theorem Agree.mapM (agree : Agree kind read read') {items : List Tree}
    (fits : ∀ item ∈ items, kind item) {nodes : List (Node P)} {nodes' : List (Node Q)}
    (holds : HoldItems nodes items) (holds' : HoldItems nodes' items) :
    (nodes.mapM read).toOption = (nodes'.mapM read').toOption := by
  induction items generalizing nodes nodes' with
  | nil =>
    cases holds
    cases holds'
    rfl
  | cons item items ih =>
    obtain ⟨fits, others⟩ := List.forall_mem_cons.mp fits
    cases holds with
    | cons here later =>
      cases holds' with
      | cons here' later' =>
        simp only [List.mapM_cons, toOption_bind, agree item fits _ _ here here',
          ih others later later']
        rfl

/-- Arrays are read alike if their items are. -/
theorem Agree.readList (agree : Agree kind read read') :
    Agree (fun tree => ∀ item ∈ tree.items, kind item) (Node.readList read)
      (Node.readList read') := by
  intro tree fits node node' holds holds'
  cases holds with
  | array holds =>
    cases holds' with
    | array holds' => exact agree.mapM fits holds holds'
  | _ =>
    cases holds'
    simp [Node.readList]

/-! ## Structures that agree -/

/-- Two fields that are read alike under each of their names. -/
structure Field.Alike (fits : String → Tree → Prop) (field : Field P σ) (field' : Field Q σ) :
    Prop where
  names : field.names = field'.names
  isGiven : field.isGiven = field'.isGiven
  fill : ∀ name ∈ field.names, ∀ tree, fits name tree → ∀ (node : Node P) (node' : Node Q),
    node.Holds tree → node'.Holds tree → field.fill node = field'.fill node'

structure Shape.Alike (fits : String → Tree → Prop) (shape : Shape P σ α) (shape' : Shape Q σ α) :
    Prop where
  fields : List.Forall₂ (Field.Alike fits) shape.fields shape'.fields
  isClosed : shape.isClosed = shape'.isClosed
  start : shape.start = shape'.start
  finish : shape.finish = shape'.finish

theorem Field.Alike.of_put {fits : String → Tree → Prop} {name : String} {aliases : List String}
    {presence : Presence} {isGiven : σ → Bool} {put : β → σ → σ}
    {parse : Node P → Except (Error P) β} {parse' : Node Q → Except (Error Q) β}
    (agree : ∀ given ∈ name :: aliases, Agree (fits given) parse parse') :
    (Field.mk name aliases presence isGiven
      fun node draft => return put (← parse node) draft).Alike fits
      (Field.mk name aliases presence isGiven
        fun node draft => return put (← parse' node) draft) where
  names := rfl
  isGiven := rfl
  fill given named tree good node node' holds holds' := by
    rw [Field.fill_put, Field.fill_put, agree given named tree good node node' holds holds']

namespace Shape.Alike

variable {fits : String → Tree → Prop} {shape : Shape P σ α} {shape' : Shape Q σ α}
  {format : Format P} {format' : Format Q}

theorem fieldNamed? (alike : shape.Alike fits shape') (name : String) :
    Option.Rel (Field.Alike fits) (shape.fieldNamed? name) (shape'.fieldNamed? name) := by
  have fields := alike.fields
  unfold Shape.fieldNamed?
  generalize shape.fields = l, shape'.fields = l' at fields
  induction fields with
  | nil => exact .none
  | @cons field field' _ _ same _ ih =>
    by_cases named : name ∈ field.names
    · have named' : name ∈ field'.names := same.names ▸ named
      simpa [named, named'] using Option.Rel.some same
    · have unnamed' : name ∉ field'.names := same.names ▸ named
      simpa [named, unnamed'] using ih

theorem take (alike : shape.Alike fits shape') {mark : P} (mark' : Q) {name : String} {tree : Tree}
    (good : fits name tree) {node : Node P} {node' : Node Q} (holds : node.Holds tree)
    (holds' : node'.Holds tree) (aside : format.allowsAside node = true)
    (aside' : format'.allowsAside node' = true) (draft : σ) :
    shape.take format draft (⟨mark, some name⟩, node) =
      shape'.take format' draft (⟨mark', some name⟩, node') := by
  have related := alike.fieldNamed? name
  simp only [Shape.take, Option.bind_some]
  cases found : shape.fieldNamed? name with
  | none =>
    rw [found] at related
    cases found' : shape'.fieldNamed? name with
    | none => simp [alike.isClosed, aside, aside']
    | some field' =>
      rw [found'] at related
      cases related
  | some field =>
    rw [found] at related
    cases found' : shape'.fieldNamed? name with
    | none =>
      rw [found'] at related
      cases related
    | some field' =>
      rw [found'] at related
      cases related with
      | some same =>
        have named : name ∈ field.names := by simpa using List.find?_some found
        have filled := same.fill name named tree good node node' holds holds'
        simp only [Field.offer, same.isGiven, filled]

/-- Tables that hold the same members are read alike. -/
theorem fold (alike : shape.Alike fits shape')
    (aside : ∀ (node : Node P) tree, node.Holds tree → format.allowsAside node = true)
    (aside' : ∀ (node : Node Q) tree, node.Holds tree → format'.allowsAside node = true)
    {members : List (String × Tree)} (good : ∀ member ∈ members, fits member.1 member.2)
    {entries : List (Key P × Node P)} {entries' : List (Key Q × Node Q)}
    (holds : HoldMembers entries members) (holds' : HoldMembers entries' members) (draft : σ) :
    entries.foldlM (shape.take format) draft = entries'.foldlM (shape'.take format') draft := by
  induction members generalizing entries entries' draft with
  | nil =>
    cases holds
    cases holds'
    rfl
  | cons member members ih =>
    obtain ⟨first, others⟩ := List.forall_mem_cons.mp good
    cases holds with
    | cons here later =>
      cases holds' with
      | @cons mark' _ _ _ _ _ here' later' =>
        rw [List.foldlM_cons, List.foldlM_cons,
          alike.take mark' first here here' (aside _ _ here) (aside' _ _ here')]
        simp only [ih others later later']

/-- Tables that hold the same tree are read alike, and neither is a single value. -/
theorem agree (alike : shape.Alike fits shape') (orderly : shape.Orderly)
    (orderly' : shape'.Orderly)
    (aside : ∀ (node : Node P) tree, node.Holds tree → format.allowsAside node = true)
    (aside' : ∀ (node : Node Q) tree, node.Holds tree → format'.allowsAside node = true) :
    Agree (Tree.Tabular fits) (shape.read format) (shape'.read format') := by
  intro tree tabular node node' holds holds'
  cases holds with
  | table same inOrder =>
    cases holds' with
    | table same' inOrder' =>
      rw [orderly.read_perm same, orderly'.read_perm same', toOption_read_table,
        toOption_read_table, alike.start, alike.finish,
        alike.fold aside aside' tabular.members inOrder inOrder']
  | array _ => cases tabular.notArray
  | _ =>
    cases holds'
    simp [Shape.read]

end Shape.Alike

/-! ## Two formats -/

theorem Node.allEntries_eq (p : Scalar → Bool) (entries : List (Key P × Node P)) :
    Node.allEntries p entries = entries.all fun entry => entry.2.all p := by
  induction entries with
  | nil => rfl
  | cons entry rest ih => simp [Node.allEntries, ih]

mutual

/-- All numbers of a tree have a value. -/
theorem Node.Holds.isReadable : ∀ {node : Node P} {tree : Tree}, node.Holds tree →
    node.all Toml.isReadable = true
  | _, _, .text => rfl
  | _, _, .integer => rfl
  | _, _, .float => rfl
  | _, _, .boolean => rfl
  | _, _, .array holds => by
    rw [Node.all]
    exact holds.isReadable
  | _, _, .table same holds => by
    rw [Node.all, Node.allEntries_eq, same.all_eq, ← Node.allEntries_eq]
    exact holds.isReadable

theorem HoldItems.isReadable : ∀ {nodes : List (Node P)} {items : List Tree},
    HoldItems nodes items → Node.allItems Toml.isReadable nodes = true
  | _, _, .nil => rfl
  | _, _, .cons here later => by
    rw [Node.allItems, here.isReadable, later.isReadable]
    rfl

theorem HoldMembers.isReadable : ∀ {entries : List (Key P × Node P)}
    {members : List (String × Tree)}, HoldMembers entries members →
      Node.allEntries Toml.isReadable entries = true
  | _, _, .nil => rfl
  | _, _, .cons here later => by
    rw [Node.allEntries, here.isReadable, later.isReadable]
    rfl

end

/-- A structure is read alike from JSON and TOML unless it is written as an array. -/
theorem Shape.Alike.agree_formats {fits : String → Tree → Prop} {shape : Shape P σ α}
    {shape' : Shape Q σ α} (alike : shape.Alike fits shape') (orderly : shape.Orderly)
    (orderly' : shape'.Orderly) :
    Agree (Tree.Tabular fits) (shape.read Json.format) (shape'.read Toml.format) :=
  alike.agree orderly orderly' (fun _ _ _ => rfl) (fun _ _ holds => holds.isReadable)

/-- Names of variants that are written as texts are read alike. -/
theorem agree_variant (known : List String) (ofName? : String → Option α) :
    Agree (fun tree => tree.isTable = false) (Json.readVariant (P := P) known ofName?)
      (Toml.readVariant (P := Q) known ofName?) := by
  intro tree notTable node node' holds holds'
  cases holds with
  | table => cases notTable
  | @text _ name =>
    cases holds'
    simp only [Json.readVariant, Toml.readVariant]
    cases ofName? name <;> rfl
  | _ =>
    cases holds'
    rfl

end CallLibrary.Document
