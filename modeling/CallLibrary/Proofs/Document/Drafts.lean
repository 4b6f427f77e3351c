import CallLibrary.Document.Shape
import CallLibrary.Proofs.Outcome

/-!
# What holds of a draft

A structure is made of a draft that started empty and was only changed by reading fields. What holds
of the empty draft and is kept by every field holds of the last draft.
-/

namespace CallLibrary.Document

open Outcome

variable {P σ α β : Type} {holds : σ → Prop}

/-- Reading a field keeps what holds of the draft. -/
def Field.Keeps (holds : σ → Prop) (field : Field P σ) : Prop :=
  ∀ value draft filled, holds draft → field.read value draft = .ok filled → holds filled

theorem Field.Keeps.of_put {name : String} {aliases : List String} {presence : Presence}
    {isGiven : σ → Bool} {parse : Node P → Except (Error P) β} {put : β → σ → σ}
    (kept : ∀ value b draft, parse value = .ok b → holds draft → holds (put b draft)) :
    (Field.mk name aliases presence isGiven
      fun node draft => return put (← parse node) draft).Keeps holds := by
  intro value draft filled held read
  obtain ⟨b, parsed, done⟩ := bind_eq_ok.mp read
  cases done
  exact kept value b draft parsed held

namespace Shape

variable {format : Format P} {shape : Shape P σ α} {mark : P}

/-- What all fields keep is kept when an entry is read. -/
theorem readEntry_keeps (keeps : ∀ field ∈ shape.fields, field.Keeps holds) {draft next : σ}
    {entry : Key P × Node P} (held : holds draft)
    (read : shape.readEntry format mark draft entry = .ok next) : holds next := by
  unfold readEntry at read
  split at read
  · cases read
  split at read
  next field found =>
    split at read
    · cases read
    · exact keeps field (List.mem_of_find?_eq_some found) entry.2 draft next held read
  next =>
    split at read
    · cases read
    split at read
    · cases read
      exact held
    · cases read

/-- What all fields keep is kept when an array is read. -/
theorem readItems_keeps {fields : List (Field P σ)} (keeps : ∀ field ∈ fields, field.Keeps holds)
    {index : Nat} {items : List (Node P)} {draft last : σ} (held : holds draft)
    (read : readItems format shape mark index draft fields items = .ok last) : holds last := by
  induction fields generalizing index items draft with
  | nil =>
    simp only [readItems] at read
    split at read
    · cases read
      exact held
    · cases read
  | cons field fields ih =>
    obtain ⟨first, others⟩ := List.forall_mem_cons.mp keeps
    cases items with
    | nil =>
      simp only [readItems] at read
      split at read
      · exact ih others held read
      · cases read
    | cons item items =>
      obtain ⟨next, here, later⟩ := bind_eq_ok.mp read
      exact ih others (first item draft next held here) later

theorem finish_of_complete {draft : σ} {value : α} (read : shape.complete mark draft = .ok value) :
    shape.finish draft = .ok value := by
  unfold complete at read
  split at read
  next finished =>
    cases read
    exact finished
  next => cases read

/-- A value that was read was made of a draft with all that the fields keep. -/
theorem exists_draft_of_read (start : holds shape.start)
    (keeps : ∀ field ∈ shape.fields, field.Keeps holds) {node : Node P} {value : α}
    (read : shape.read format node = .ok value) :
    ∃ draft, holds draft ∧ shape.finish draft = .ok value := by
  have ofTable (mark : P) (entries : List (Key P × Node P))
      (read : shape.readTable format mark entries = .ok value) :
      ∃ draft, holds draft ∧ shape.finish draft = .ok value := by
    obtain ⟨draft, run, complete⟩ := bind_eq_ok.mp read
    have held := foldlM_keeps (fun _ _ _ => readEntry_keeps keeps) start run
    exact ⟨draft, held, finish_of_complete complete⟩
  cases node with
  | table mark entries => exact ofTable mark entries read
  | array mark items =>
    obtain ⟨draft, run, complete⟩ := bind_eq_ok.mp read
    exact ⟨draft, readItems_keeps keeps start run, finish_of_complete complete⟩
  | scalar mark scalar =>
    cases scalar with
    | date => exact ofTable mark _ read
    | _ => cases read

end Shape

/-- A value of the wrong type is never read. -/
@[simp] theorem Node.toOption_refuse (node : Node P) (expected : Expected) :
    (node.refuse expected : Except (Error P) α).toOption = none := by
  unfold Node.refuse
  split <;> rfl

theorem Node.refuse_ne_ok {node : Node P} {expected : Expected} {value : α} :
    node.refuse expected ≠ .ok value :=
  toOption_eq_none.mp (node.toOption_refuse expected) value

/-- All values of a list have what is sure of each value that is read. -/
theorem Node.forall_of_readList {read : Node P → Except (Error P) α} {good : α → Prop}
    (each : ∀ item value, read item = .ok value → good value) {node : Node P} {values : List α}
    (given : node.readList read = .ok values) : ∀ value ∈ values, good value := by
  unfold readList at given
  split at given
  · exact forall_of_mapM each given
  · cases refuse_ne_ok given

end CallLibrary.Document
