import SpanWeave.Log

/-!
# Results of traced computations

What a traced computation yields does not depend on the records that it leaves. Its result is that
of the same steps without records, and these lemmas carry statements about results through the
steps.
-/

set_option autoImplicit false

namespace SpanWeave.Traced

variable {ε α β : Type}

@[simp] theorem result_ofExcept (r : Except ε α) : (ofExcept r).result = r := rfl

@[simp] theorem result_settle {ε' : Type} (x : Traced ε α) :
    (x.settle : Traced ε' (Except ε α)).result = .ok x.result := rfl

/-- The result of two steps is that of the first one, handed on to the second one. -/
theorem result_bind (x : Traced ε α) (f : α → Traced ε β) :
    (x >>= f).result = x.result >>= fun a => (f a).result := by
  show (andThen x f).result = Except.bind x.result fun a => (f a).result
  unfold andThen
  cases x.result with
  | ok a => rfl
  | error e => rfl

/-- After a step that succeeds, the result is that of the rest. -/
theorem result_bind_of_ok {x : Traced ε α} {a : α} (h : x.result = .ok a) (f : α → Traced ε β) :
    (x >>= f).result = (f a).result := by
  rw [result_bind, h]
  rfl

/-- After a step that fails, nothing else happens. -/
theorem result_bind_of_error {x : Traced ε α} {e : ε} (h : x.result = .error e)
    (f : α → Traced ε β) : (x >>= f).result = .error e := by
  rw [result_bind, h]
  rfl

theorem eq_ok_of_toOption {x : Except ε α} {a : α} (h : x.toOption = some a) : x = .ok a := by
  cases x with
  | error e => cases h
  | ok a' =>
    cases h
    rfl

/-- Two steps without records succeed exactly if the first one does and the second one does on its
result. -/
theorem except_bind_eq_ok {x : Except ε α} {f : α → Except ε β} {b : β} :
    (x >>= f) = .ok b ↔ ∃ a, x = .ok a ∧ f a = .ok b := by
  cases x with
  | ok a =>
    constructor
    · intro hb
      exact ⟨a, rfl, hb⟩
    · rintro ⟨a', ha, hb⟩
      cases ha
      exact hb
  | error e =>
    constructor
    · intro hb
      cases hb
    · rintro ⟨a', ha, -⟩
      cases ha

/-- Two steps without records fail if the first one does, or the second one on its result. -/
theorem except_bind_eq_error {x : Except ε α} {f : α → Except ε β} {e : ε} :
    (x >>= f) = .error e ↔ x = .error e ∨ ∃ a, x = .ok a ∧ f a = .error e := by
  cases x with
  | ok a =>
    constructor
    · intro he
      exact Or.inr ⟨a, rfl, he⟩
    · rintro (h | ⟨a', ha, he⟩)
      · cases h
      · cases ha
        exact he
  | error e' =>
    constructor
    · intro he
      cases he
      exact Or.inl rfl
    · rintro (h | ⟨a', ha, -⟩)
      · cases h
        rfl
      · cases ha

/-- Two steps succeed exactly if the first one does and the second one does on its result. -/
theorem result_bind_eq_ok {x : Traced ε α} {f : α → Traced ε β} {b : β} :
    (x >>= f).result = .ok b ↔ ∃ a, x.result = .ok a ∧ (f a).result = .ok b := by
  rw [result_bind]
  exact except_bind_eq_ok

/-- A record before a computation leaves its result as it is. -/
@[simp] theorem result_note_bind (level : Level) (speaker message : String)
    (f : Unit → Traced ε β) : (note level speaker message >>= f).result = (f ()).result := rfl

/-- A fold of steps that all succeed has the result of the fold of their results. -/
theorem result_foldlM_of_ok {f : β → α → Traced ε β} {g : β → α → β}
    (h : ∀ b a, (f b a).result = .ok (g b a)) (as : List α) (b : β) :
    (as.foldlM f b).result = .ok (as.foldl g b) := by
  induction as generalizing b with
  | nil => rfl
  | cons a as ih =>
    rw [List.foldlM_cons, List.foldl_cons, result_bind_of_ok (h b a)]
    exact ih (g b a)

/-! ## Records -/

/-- After a step that succeeds, its records come before those of the rest. -/
theorem log_bind_of_ok {x : Traced ε α} {a : α} (h : x.result = .ok a) (f : α → Traced ε β) :
    (x >>= f).log = x.log ++ (f a).log := by
  show (andThen x f).log = x.log ++ (f a).log
  unfold andThen
  rw [h]

end SpanWeave.Traced
