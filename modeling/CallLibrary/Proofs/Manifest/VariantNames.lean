import CallLibrary.Manifest.Load
import CallLibrary.Proofs.Generator.Declarations
import CallLibrary.Proofs.Generator.Locals

/-!
# Names in the variants of a manifest

Validation looks at each name of a function on its own, and a variant adds names that it knows
nothing about: the receiver and the variables of the body. A manifest whose functions keep their own
names apart gets variants that do so too, as long as its functions stay clear of these.
-/

namespace CallLibrary

open Calls (Form)
open Generator (MadeOf Names locals render setting)

/-- A function of the manifest has this variant in a form. -/
def Manifest.HasVariant (m : Manifest) (f : Interface.Function) (form : Form)
    (v : Solidity.Function) : Prop :=
  f ∈ m.functions ∧
    form.variant? (setting (Names.ofOptions m.options) m.options) f = .ok (some v)

/-- The names that the variants in the library of a file introduce. -/
structure VariantNames (m : Manifest) (text : String) (given : List Solidity.Function) : Prop where
  /-- The library of the file is made of these variants. -/
  made : ∃ imports, MadeOf m.options text imports given
  mem_iff : ∀ v, v ∈ given ↔ ∃ f form, m.HasVariant f form v
  /-- In the order of the text: the receiver, the inputs, the named results and the variables. -/
  introduced_eq : ∀ f form v, m.HasVariant f form v →
    v.introduced = "self" :: f.ownNames ++ locals form f
  distinct_iff : ∀ f form v, m.HasVariant f form v →
    (v.introduced.Nodup ↔ ∀ name ∈ f.ownNames, name ≠ "self" ∧ name ∉ locals form f)

/-- If the inputs and named results of each function are pairwise distinct, then so are all names in
a variant exactly if none of these is the receiver or a variable of that variant. -/
theorem Manifest.variant_names (m : Manifest) (text : String)
    (rendered : render m.options = .ok text)
    (distinct : ∀ f ∈ m.functions, f.ownNames.Nodup) :
    ∃ given, VariantNames m text given := by
  obtain ⟨imports, given, made⟩ := Generator.render_eq_ok.mp rendered
  obtain ⟨named, shape⟩ := Generator.variants_eq_ok.mp made.variants_given
  refine ⟨given, ?_⟩
  constructor
  case made => exact ⟨imports, made⟩
  case mem_iff =>
    intro v
    constructor
    · intro member
      rw [shape] at member
      obtain ⟨form, _, inForm⟩ := List.mem_flatMap.mp member
      obtain ⟨f, kept, rfl⟩ := List.mem_map.mp inForm
      obtain ⟨listed, applies⟩ := List.mem_filter.mp kept
      refine ⟨f, form, listed, ?_⟩
      rw [Form.variant?_of_inputsNamed (named f listed), if_pos applies]
    · intro origin
      obtain ⟨f, form, listed, inForm⟩ := origin
      obtain ⟨applies, rfl⟩ := Generator.eq_variantOf (named f listed) inForm
      exact Generator.variantOf_mem made.variants_given listed form applies
  case introduced_eq =>
    intro f form v has
    obtain ⟨_, rfl⟩ := Generator.eq_variantOf (named f has.1) has.2
    exact Generator.introduced_variantOf form _ f
  case distinct_iff =>
    intro f form v has
    obtain ⟨_, rfl⟩ := Generator.eq_variantOf (named f has.1) has.2
    rw [Generator.introduced_nodup_iff form _ (distinct f has.1)]
    simp only [List.mem_cons, not_or]

/-- A manifest with a result that has the name of a variable in one of the variants. -/
def vestingManifest : Manifest where
  system := ⟨"Vesting", none, "app", none, none⟩
  paths := {}
  imports := []
  functions := [⟨"release", [.named "address" "account", .named "uint256" "amount"], .nonpayable,
      [.ofType "bool"]⟩,
    ⟨"vested", [.named "address" "account"], .view, [.named "uint256" "success"]⟩]
  errors := []

theorem vesting_variant_names :
    (∀ f ∈ vestingManifest.functions, f.ownNames.Nodup) ∧
      ∃ text, render vestingManifest.options = .ok text ∧
        ∃ given, VariantNames vestingManifest text given := by
  have distinct : ∀ f ∈ vestingManifest.functions, f.ownNames.Nodup := by decide
  have succeeds : (render vestingManifest.options).toBool = true := by decide +kernel
  obtain ⟨text, rendered⟩ := Outcome.exists_ok_of_toBool succeeds
  exact ⟨distinct, text, rendered, Manifest.variant_names vestingManifest text rendered distinct⟩

/-- A function that has the name of the receiver for an input. -/
def adopt : Interface.Function := ⟨"adopt", [.named "address" "self"], .nonpayable, []⟩

/-- A source of a manifest with such an input. -/
def walletSource : Source where
  text := "\x7b\"system\":\x7b\"name\":\"Wallet\"\x7d,"
    ++ "\"functions\":[\x7b\"name\":\"adopt\",\"parameters\":[\"address self\"]\x7d]\x7d"
  file := "wallet.json"

def walletManifest : Manifest where
  system := ⟨"Wallet", none, "", none, none⟩
  paths := {}
  imports := []
  functions := [adopt]
  errors := []

/-- A variant may introduce a name twice although its function does not. -/
theorem variant_names_may_clash :
    Manifest.parse .json walletSource = .ok walletManifest ∧
      (∀ f ∈ walletManifest.functions, f.ownNames.Nodup) ∧
      ∃ text, render walletManifest.options = .ok text ∧
        ∃ imports given, MadeOf walletManifest.options text imports given ∧
          ∃ v ∈ given, v.introduced = ["self", "self"] ∧ ¬ v.introduced.Nodup := by
  have parses : Manifest.parse .json walletSource = .ok walletManifest := by decide +kernel
  have distinct : ∀ f ∈ walletManifest.functions, f.ownNames.Nodup := by decide
  have succeeds : (render walletManifest.options).toBool = true := by decide +kernel
  obtain ⟨text, rendered⟩ := Outcome.exists_ok_of_toBool succeeds
  obtain ⟨imports, given, made⟩ := Generator.render_eq_ok.mp rendered
  have listed : adopt ∈ walletManifest.options.functions := List.mem_cons_self
  have member := Generator.variantOf_mem made.variants_given listed .direct rfl
  have introduced := Generator.introduced_variantOf .direct
    (setting (Names.ofOptions walletManifest.options) walletManifest.options) adopt
  refine ⟨parses, distinct, text, rendered, imports, given, made, _, member, introduced, ?_⟩
  rw [introduced]
  decide

end CallLibrary
