import CallLibrary.Proofs.Manifest.DerivedNames
import CallLibrary.Proofs.Manifest.RoundTrip
import CallLibrary.Proofs.Solidity.ParameterList

/-!
# Inputs of functions in a manifest

A manifest is read and checked in two passes, and each of them does a part for lists of inputs.
Reading leaves only types that are words, and checking asks for names that are no reserved words,
which is why no name is taken for a location or for a part of a type. Together they make sure that
inputs are never written like other ones.
-/

namespace CallLibrary

open Interface (Parameter locationKeywords)
open Solidity (parameterList reservedWords)

namespace Manifest

/-- The inputs of a function in a manifest that is accepted. -/
def IsInputList (inputs : List Parameter) : Prop :=
  ∃ format source m, parse format source = .ok m ∧ ∃ f ∈ m.functions, f.parameters = inputs

/-- An input was read from a declaration, so that its parts can be told apart. -/
theorem wellFormed_of_isInputList {inputs : List Parameter} (isInputs : IsInputList inputs) :
    ∀ p ∈ inputs, p.WellFormed := by
  obtain ⟨format, source, m, parsed, f, listed, rfl⟩ := isInputs
  intro p member
  have declared := ((declared_of_parse parsed).functions f listed).parameters p member
  exact (Parameter.parse_eq_ok.mp declared).wellFormed fun _ => Text.isWord_of_mem_words

/-- An input has a name that the language does not keep for itself. -/
theorem freelyNamed_of_isInputList {inputs : List Parameter} (isInputs : IsInputList inputs) :
    ∀ p ∈ inputs, ∃ name, p.name = some name ∧ IsFreeName name := by
  obtain ⟨format, source, m, parsed, f, listed, rfl⟩ := isInputs
  intro p member
  obtain ⟨_, inputs, _⟩ := (valid_of_parse parsed).functions f listed
  obtain ⟨hasName, free⟩ := inputs p member
  obtain ⟨name, named⟩ := Option.ne_none_iff_exists'.mp hasName
  exact ⟨name, named, free name named⟩

/-- The words that a name must not be if it is to end a declaration are all reserved. -/
theorem tellsItsEnd_of_isInputList {inputs : List Parameter} (isInputs : IsInputList inputs) :
    ∀ p ∈ inputs, p.TellsItsEnd := by
  have reserved : ∀ word ∈ "payable" :: locationKeywords, word ∈ reservedWords := by decide
  intro p member
  obtain ⟨name, named, _, free⟩ := freelyNamed_of_isInputList isInputs p member
  exact (wellFormed_of_isInputList isInputs p member).tellsItsEnd named
    fun taken => free (reserved name taken)

/-- The inputs of functions are written in the same way only if they are the same inputs. -/
theorem input_lists_unambiguous {inputs others : List Parameter} (isInputs : IsInputList inputs)
    (isInputs' : IsInputList others) (same : parameterList inputs = parameterList others) :
    inputs = others :=
  (Solidity.parameterList_inj (tellsItsEnd_of_isInputList isInputs)
    (tellsItsEnd_of_isInputList isInputs')).mp same

end Manifest

/-- A source with a type that ends in a comma. -/
def swapJson : Source where
  text := "\x7b\"system\":\x7b\"name\":\"Swap\"\x7d,\"functions\":[\x7b\"name\":\"swap\","
    ++ "\"parameters\":[\"pair(int8,int8), memory prices\",\"address  payable to\"]\x7d]\x7d"
  file := "swap.json"

/-- A source of another manifest with the same inputs. -/
def swapToml : Source where
  text := "[system]\nname = \"Exchange\"\n\n[[functions]]\nname = \"quote\"\n"
    ++ "parameters = [\" pair(int8,int8),\\tmemory prices \", \"address payable to\"]\n"
  file := "exchange.toml"

def swapInputs : List Parameter :=
  [⟨"pair(int8,int8),", some .memory, some "prices"⟩, .named "address payable" "to"]

theorem swap_input_lists_unambiguous :
    ∃ m m', Manifest.parse .json swapJson = .ok m ∧ Manifest.parse .toml swapToml = .ok m' ∧
      ∃ f ∈ m.functions, ∃ g ∈ m'.functions, f ≠ g ∧
        parameterList f.parameters = "pair(int8,int8), memory prices, address payable to" ∧
        parameterList f.parameters = parameterList g.parameters ∧ f.parameters = g.parameters := by
  let f : Interface.Function := ⟨"swap", swapInputs, .nonpayable, []⟩
  let g : Interface.Function := ⟨"quote", swapInputs, .nonpayable, []⟩
  have parses : Manifest.parse .json swapJson =
      .ok ⟨⟨"Swap", none, "", none, none⟩, {}, [], [f], []⟩ := by decide +kernel
  have parses' : Manifest.parse .toml swapToml =
      .ok ⟨⟨"Exchange", none, "", none, none⟩, {}, [], [g], []⟩ := by decide +kernel
  have listed := List.mem_singleton_self f
  have listed' := List.mem_singleton_self g
  have written : parameterList f.parameters =
      "pair(int8,int8), memory prices, address payable to" := by decide
  have same : parameterList f.parameters = parameterList g.parameters := rfl
  exact ⟨_, _, parses, parses', f, listed, g, listed', by decide, written, same,
    Manifest.input_lists_unambiguous ⟨_, _, _, parses, f, listed, rfl⟩
      ⟨_, _, _, parses', g, listed', rfl⟩ same⟩

end CallLibrary
