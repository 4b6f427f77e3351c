/-!
# Outcomes of chained steps

A step that may fail gives a value or an error, and a chain of steps stops at the first error. These
lemmas take a chain apart, so that later proofs never open the monad: a chain succeeds with what its
last step gives, and it fails with the error of the one step that failed.
-/

namespace CallLibrary.Outcome

variable {ε α β : Type}

instance decidableEqExcept [DecidableEq ε] [DecidableEq α] : DecidableEq (Except ε α)
  | .ok a, .ok b => decidable_of_iff (a = b) ⟨congrArg Except.ok, Except.ok.inj⟩
  | .error e, .error e' => decidable_of_iff (e = e') ⟨congrArg Except.error, Except.error.inj⟩
  | .ok _, .error _ => isFalse nofun
  | .error _, .ok _ => isFalse nofun

@[simp] theorem pure_eq_ok (a : α) : (pure a : Except ε α) = .ok a := rfl

theorem ok_bind (a : α) (next : α → Except ε β) : Except.ok a >>= next = next a := rfl

theorem error_bind (e : ε) (next : α → Except ε β) : Except.error e >>= next = .error e := rfl

/-- Two steps succeed exactly if the second one does on what the first one gives. -/
theorem bind_eq_ok {step : Except ε α} {next : α → Except ε β} {b : β} :
    step >>= next = .ok b ↔ ∃ a, step = .ok a ∧ next a = .ok b := by
  cases step with
  | error e => simp [bind, Except.bind]
  | ok a => simp [bind, Except.bind]

/-- A check gives nothing but the fact that it passed. -/
theorem check_then_eq_ok {check : Except ε Unit} {next : Unit → Except ε β} {b : β} :
    check >>= next = .ok b ↔ check = .ok () ∧ next () = .ok b := by
  rw [bind_eq_ok]
  constructor
  · rintro ⟨⟨⟩, passed, given⟩
    exact ⟨passed, given⟩
  · rintro ⟨passed, given⟩
    exact ⟨(), passed, given⟩

/-- Two steps fail exactly if the first one does, or the second one behind it. -/
theorem bind_eq_error {step : Except ε α} {next : α → Except ε β} {e : ε} :
    step >>= next = .error e ↔ step = .error e ∨ ∃ a, step = .ok a ∧ next a = .error e := by
  cases step with
  | error e => simp [bind, Except.bind]
  | ok a => simp [bind, Except.bind]

/-- Without an error there is a value. -/
theorem exists_ok_iff {outcome : Except ε α} :
    (∃ a, outcome = .ok a) ↔ ∀ e, outcome ≠ .error e := by
  cases outcome with
  | error e => simp
  | ok a => simp

/-- Whether there is a value can be computed. -/
theorem exists_ok_of_toBool {outcome : Except ε α} (succeeds : outcome.toBool = true) :
    ∃ a, outcome = .ok a := by
  cases outcome with
  | error e => cases succeeds
  | ok a => exact ⟨a, rfl⟩

/-! ## Whether there is a value, and which -/

@[simp] theorem toOption_ok (a : α) : (Except.ok a : Except ε α).toOption = some a := rfl

@[simp] theorem toOption_error (e : ε) : (Except.error e : Except ε α).toOption = none := rfl

theorem toOption_eq_some {outcome : Except ε α} {a : α} :
    outcome.toOption = some a ↔ outcome = .ok a := by
  cases outcome <;> simp

theorem toOption_eq_none {outcome : Except ε α} :
    outcome.toOption = none ↔ ∀ a, outcome ≠ .ok a := by
  cases outcome <;> simp

@[simp] theorem toOption_mapError {δ : Type} (f : ε → δ) (outcome : Except ε α) :
    (outcome.mapError f).toOption = outcome.toOption := by
  cases outcome <;> rfl

theorem mapError_eq_ok {δ : Type} {f : ε → δ} {outcome : Except ε α} {a : α} :
    outcome.mapError f = .ok a ↔ outcome = .ok a := by
  rw [← toOption_eq_some, toOption_mapError, toOption_eq_some]

theorem toOption_map (f : α → β) (outcome : Except ε α) :
    (f <$> outcome).toOption = outcome.toOption.map f := by
  cases outcome <;> rfl

theorem toOption_bind (step : Except ε α) (next : α → Except ε β) :
    (step >>= next).toOption = step.toOption.bind fun a => (next a).toOption := by
  cases step <;> rfl

/-- The errors of a fold can be forgotten at every step or at its end. -/
theorem toOption_foldlM (step : β → α → Except ε β) (start : β) (l : List α) :
    (l.foldlM step start).toOption = l.foldlM (fun b a => (step b a).toOption) start := by
  induction l generalizing start with
  | nil => rfl
  | cons a rest ih =>
    simp only [List.foldlM_cons, toOption_bind, ih]
    rfl

/-! ## Lists of outcomes -/

/-- What every single step gives, the list of all results has. -/
theorem forall_of_mapM {step : α → Except ε β} {holds : β → Prop}
    (each : ∀ a b, step a = .ok b → holds b) {l : List α} {results : List β}
    (given : l.mapM step = .ok results) : ∀ b ∈ results, holds b := by
  induction l generalizing results with
  | nil =>
    cases given
    simp
  | cons a rest ih =>
    rw [List.mapM_cons] at given
    obtain ⟨b, first, given⟩ := bind_eq_ok.mp given
    obtain ⟨others, later, given⟩ := bind_eq_ok.mp given
    cases given
    exact List.forall_mem_cons.mpr ⟨each a b first, ih later⟩

/-- A list of values is read back from what is written for them. -/
theorem mapM_map_eq_ok {write : β → α} {read : α → Except ε β} {l : List β}
    (each : ∀ b ∈ l, read (write b) = .ok b) : (l.map write).mapM read = .ok l := by
  induction l with
  | nil => rfl
  | cons b rest ih =>
    obtain ⟨first, others⟩ := List.forall_mem_cons.mp each
    rw [List.map_cons, List.mapM_cons, first, ih others]
    rfl

/-- What one step keeps, a run of steps keeps. -/
theorem foldlM_keeps {step : β → α → Except ε β} {holds : β → Prop}
    (keeps : ∀ b a next, holds b → step b a = .ok next → holds next) {l : List α} {start last : β}
    (holdsAtStart : holds start) (run : l.foldlM step start = .ok last) : holds last := by
  induction l generalizing start with
  | nil =>
    cases run
    exact holdsAtStart
  | cons a rest ih =>
    rw [List.foldlM_cons] at run
    obtain ⟨next, first, later⟩ := bind_eq_ok.mp run
    exact ih (keeps start a next holdsAtStart first) later

end CallLibrary.Outcome
