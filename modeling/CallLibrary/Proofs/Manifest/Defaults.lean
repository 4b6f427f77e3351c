import CallLibrary.Proofs.Manifest.Validation
import CallLibrary.Proofs.ResourceId

/-!
# Defaults written out

What a manifest leaves out of its system follows from what it says, so the values may as well be
written out. They are then checked as given values, and a given resource id is checked where a
missing one is not; but an id that is made of the namespace and the name always passes.
-/

namespace CallLibrary

/-- The system with the label, the library and the resource id that it goes under written out. -/
def SystemIdentity.writtenOut (system : SystemIdentity) : SystemIdentity :=
  { system with
    label? := some system.label
    library? := some system.library
    resourceId? := some system.resourceId }

namespace SystemIdentity

@[simp] theorem label_writtenOut (system : SystemIdentity) :
    system.writtenOut.label = system.label := rfl

@[simp] theorem library_writtenOut (system : SystemIdentity) :
    system.writtenOut.library = system.library := rfl

@[simp] theorem resourceId_writtenOut (system : SystemIdentity) :
    system.writtenOut.resourceId = system.resourceId := rfl

/-- The id of a system is refused if and only if it was given and is. -/
theorem checkResourceId_resourceId (system : SystemIdentity) :
    checkResourceId (some system.resourceId) = checkResourceId system.resourceId? := by
  cases given : system.resourceId? with
  | some id => rw [resourceId, given, Option.getD_some]
  | none =>
    have passes := ResourceId.isValid_encode system.namespaceName system.name
    rw [resourceId, given, Option.getD_none, checkResourceId, checkResourceId, require_eq_ok]
    exact passes

theorem check_writtenOut (system : SystemIdentity) : system.writtenOut.check = system.check := by
  have sameId : checkResourceId system.writtenOut.resourceId? =
      checkResourceId system.resourceId? := system.checkResourceId_resourceId
  simp only [check, label_writtenOut, library_writtenOut, sameId]
  rfl

end SystemIdentity

namespace Manifest

def writtenOut (m : Manifest) : Manifest := { m with system := m.system.writtenOut }

/-- Validation with the diagnostic that a source shows for a violation. -/
def checkIn (m : Manifest) (source : Source) : Except Diagnostic Unit :=
  m.validate.mapError source.diagnose

/-- A source is read and then checked. -/
theorem parse_eq_checkIn (format : ManifestFormat) (source : Source) :
    parse format source = (do
      let m ← decode format source
      m.checkIn source
      return m) := by
  unfold parse checkIn
  cases decode format source with
  | error diagnostic => rfl
  | ok m =>
    cases checked : m.validate with
    | ok _ => simp [Outcome.ok_bind, checked, Except.mapError]
    | error violation => simp [Outcome.ok_bind, Outcome.error_bind, checked, Except.mapError]

/-- Validation treats defaults alike whether or not they are written out. -/
theorem validate_writtenOut (m : Manifest) : m.writtenOut.validate = m.validate := by
  rw [validate, validate, writtenOut, SystemIdentity.check_writtenOut]

/-- Writing the defaults out changes neither the outcome of the check nor what is generated. -/
theorem defaults_written_out (m : Manifest) :
    (∀ source, m.writtenOut.checkIn source = m.checkIn source) ∧
      m.writtenOut.options = m.options := by
  refine ⟨fun source => ?_, rfl⟩
  rw [checkIn, checkIn, validate_writtenOut]

end Manifest

example : SystemIdentity.writtenOut ⟨"Move", none, "app", none, none⟩ =
    ⟨"Move", some "Move", "app", some "MoveLib",
      some "0x737961707000000000000000000000004d6f7665000000000000000000000000"⟩ := by
  decide

end CallLibrary
