import ChipEight.Failure

/-!
# Settings that may be left out

A setting is absent, blank or given a value. An absent setting stands for its usual value. A blank
one, which an option with an empty value leaves behind, was asked for and holds nothing: it is
accepted until something needs its value, and fails there.

## Main definitions

* `Setting`: a setting.
* `Setting.value?`, `Setting.valueOr`: what it stands for.
-/

namespace ChipEight

/-- A setting. -/
inductive Setting (β : Type)
  /-- It was left out. -/
  | absent
  /-- It was given without a value. -/
  | blank
  /-- It was given a value. -/
  | given (value : β)
  deriving DecidableEq, Repr

namespace Setting

variable {β γ : Type}

/-- The setting for an optional value. -/
def ofOption : Option β → Setting β
  | none => absent
  | some value => given value

/-- The setting with a function applied to its value. -/
def map (f : β → γ) : Setting β → Setting γ
  | absent => absent
  | blank => blank
  | given value => given (f value)

/-- The value, if there is one. A blank setting fails as is said. -/
def value? (onBlank : Failure) : Setting β → Except Failure (Option β)
  | absent => .ok none
  | blank => .error onBlank
  | given value => .ok (some value)

/-- The value, or the usual one if the setting is absent. A blank setting fails as is said. -/
def valueOr (onBlank : Failure) (usual : β) (s : Setting β) : Except Failure β :=
  (s.value? onBlank).map fun value? ↦ value?.getD usual

@[simp] theorem valueOr_given (onBlank : Failure) (usual value : β) :
    (given value).valueOr onBlank usual = .ok value := rfl

@[simp] theorem valueOr_absent (onBlank : Failure) (usual : β) :
    absent.valueOr onBlank usual = .ok usual := rfl

/-- A setting has no value exactly when it is blank. -/
theorem valueOr_eq_error_iff {onBlank failure : Failure} {usual : β} {s : Setting β} :
    s.valueOr onBlank usual = .error failure ↔ s = blank ∧ failure = onBlank := by
  cases s with
  | absent => simp
  | blank =>
    simp only [valueOr, value?, Except.map, Except.error.injEq, true_and]
    exact eq_comm
  | given value => simp

end Setting

end ChipEight
