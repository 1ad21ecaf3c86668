/-!
Merge patches: a writer sends only the fields in which its new version differs from the version it
read, and the server applies them to whatever it stores by then.
-/

namespace MergePatch

variable {α : Type} [DecidableEq α]

/-- A field is sent when the writer changed it, and otherwise keeps the stored value. -/
def field (read new stored : α) : α :=
  if new = read then stored else new

/--
An optional nested object.

An unchanged object is not sent, a removed one is removed, and a changed one is merged field by
field, absent objects counting as objects without fields.
-/
def object (merge : α → α → α → α) (zero : α) (read new stored : Option α) : Option α :=
  if new = read then stored
  else new.map fun value => merge (read.getD zero) value (stored.getD zero)

@[simp]
theorem field_unchanged (read stored : α) : field read read stored = stored := by
  simp [field]

@[simp]
theorem field_fresh (read new : α) : field read new read = new := by
  unfold field
  split <;> simp_all

@[simp]
theorem object_unchanged (merge : α → α → α → α) (zero : α) (read stored : Option α) :
    object merge zero read read stored = stored := by
  simp [object]

theorem object_fresh {merge : α → α → α → α} {zero : α}
    (fresh : ∀ read new, merge read new read = new) (read new : Option α) :
    object merge zero read new read = new := by
  unfold object
  split
  · simp_all
  · cases new <;> simp [fresh]

end MergePatch
