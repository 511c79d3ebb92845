import Mathlib.Data.List.Forall2

/-!
# Steps that can fail

A chain of steps gives a value exactly if every step does, and it fails with the failure of the
first step that does not.  Whether two results are equal can be decided if it can for their values
and failures; the instance comes with the import.
-/

namespace GroupSync

namespace Fallible

variable {ε α β : Type} {failure : ε}

theorem ok_bind (value : α) (next : α → Except ε β) : (.ok value >>= next) = next value :=
  rfl

theorem bind_eq_ok_iff {result : Except ε α} {next : α → Except ε β} {final : β} :
    (result >>= next) = .ok final ↔ ∃ value, result = .ok value ∧ next value = .ok final := by
  cases result <;> simp [bind, Except.bind]

/-- A chain whose later steps cannot fail succeeds exactly if its first step does. -/
theorem exists_bind_eq_ok_iff {result : Except ε α} {next : α → β} :
    (∃ final, (result >>= fun value => .ok (next value)) = .ok final) ↔
      ∃ value, result = .ok value := by
  cases result <;> simp [bind, Except.bind]

theorem bind_eq_error_iff {result : Except ε α} {next : α → Except ε β} :
    (result >>= next) = .error failure ↔
      result = .error failure ∨ ∃ value, result = .ok value ∧ next value = .error failure := by
  cases result <;> simp [bind, Except.bind]

theorem exists_eq_ok {result : Except ε α} (works : ∀ failure, result ≠ .error failure) :
    ∃ value, result = .ok value := by
  cases result with
  | error failure => exact absurd rfl (works failure)
  | ok value => exact ⟨value, rfl⟩

theorem mapError_eq_ok_iff {δ : Type} {result : Except ε α} {reword : ε → δ} {value : α} :
    result.mapError reword = .ok value ↔ result = .ok value := by
  cases result <;> simp [Except.mapError]

/-- A list of values is made exactly if every item makes its value. -/
theorem mapM_eq_ok_iff {step : α → Except ε β} {items : List α} {values : List β} :
    items.mapM step = .ok values ↔
      List.Forall₂ (fun item value => step item = .ok value) items values := by
  induction items generalizing values with
  | nil =>
      rw [List.mapM_nil, List.forall₂_nil_left_iff]
      constructor
      · rintro ⟨⟩
        rfl
      · rintro rfl
        rfl
  | cons item items induction =>
      simp only [List.mapM_cons, bind_eq_ok_iff, induction]
      constructor
      · rintro ⟨value, made, rest, later, ⟨⟩⟩
        exact .cons made later
      · rintro (_ | ⟨made, later⟩)
        exact ⟨_, made, _, later, rfl⟩

/-- Two results are the same value, or both of them are failures. -/
def AgreeInSuccess (first second : Except ε α) : Prop :=
  ∀ value, first = .ok value ↔ second = .ok value

namespace AgreeInSuccess

variable {first second third : Except ε α}

theorem refl (result : Except ε α) : AgreeInSuccess result result :=
  fun _ => .rfl

theorem symm (agree : AgreeInSuccess first second) : AgreeInSuccess second first :=
  fun value => (agree value).symm

theorem trans (agree : AgreeInSuccess first second) (next : AgreeInSuccess second third) :
    AgreeInSuccess first third :=
  fun value => (agree value).trans (next value)

theorem bind {next other : α → Except ε β} (agree : AgreeInSuccess first second)
    (later : ∀ value, AgreeInSuccess (next value) (other value)) :
    AgreeInSuccess (first >>= next) (second >>= other) := by
  intro final
  rw [bind_eq_ok_iff, bind_eq_ok_iff]
  exact exists_congr fun value => and_congr (agree value) (later value final)

theorem map (agree : AgreeInSuccess first second) (change : α → β) :
    AgreeInSuccess (first.map change) (second.map change) :=
  agree.bind fun value => .refl (.ok (change value))

end AgreeInSuccess

end Fallible

end GroupSync
