set_option autoImplicit false

namespace LiveConfig

variable {ε α β : Type}

@[simp] theorem ok_bind (a : α) (f : α → Except ε β) :
    ((Except.ok a : Except ε α) >>= f) = f a := rfl

@[simp] theorem error_bind (reason : ε) (f : α → Except ε β) :
    ((Except.error reason : Except ε α) >>= f) = .error reason := rfl

theorem bind_eq_ok_iff {x : Except ε α} {f : α → Except ε β} {b : β} :
    (x >>= f) = .ok b ↔ ∃ a, x = .ok a ∧ f a = .ok b := by
  cases x with
  | ok a => simp
  | error reason => simp

theorem bind_eq_error_iff {x : Except ε α} {f : α → Except ε β} {reason : ε} :
    (x >>= f) = .error reason ↔ x = .error reason ∨ ∃ a, x = .ok a ∧ f a = .error reason := by
  cases x with
  | ok a => simp
  | error other => simp

/-- Whatever the result fails with is allowed. -/
def FailsWith (allowed : ε → Prop) (result : Except ε α) : Prop :=
  ∀ reason, result = .error reason → allowed reason

theorem failsWith_ok (allowed : ε → Prop) (a : α) : FailsWith allowed (.ok a : Except ε α) := nofun

theorem failsWith_error {allowed : ε → Prop} {reason : ε} (fine : allowed reason) :
    FailsWith allowed (.error reason : Except ε α) := by
  intro other same
  rw [← Except.error.inj same]
  exact fine

theorem FailsWith.bind {allowed : ε → Prop} {x : Except ε α} {f : α → Except ε β}
    (first : FailsWith allowed x) (next : ∀ a, x = .ok a → FailsWith allowed (f a)) :
    FailsWith allowed (x >>= f) := by
  intro reason failed
  obtain failed | ⟨a, done, failed⟩ := bind_eq_error_iff.mp failed
  · exact first reason failed
  · exact next a done reason failed

theorem FailsWith.imp {allowed wider : ε → Prop} {x : Except ε α} (fails : FailsWith allowed x)
    (within : ∀ reason, allowed reason → wider reason) : FailsWith wider x :=
  fun reason failed => within reason (fails reason failed)

theorem failsWith_mapM {allowed : ε → Prop} {f : α → Except ε β}
    (each : ∀ a, FailsWith allowed (f a)) (items : List α) : FailsWith allowed (items.mapM f) := by
  induction items with
  | nil => exact failsWith_ok allowed []
  | cons a rest ih =>
    rw [List.mapM_cons]
    exact (each a).bind fun b _ => ih.bind fun bs _ => failsWith_ok allowed (b :: bs)

end LiveConfig
