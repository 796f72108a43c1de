set_option autoImplicit false

/-! # Results that may be a fault

When a sequence of results is a value, and when it is a fault. -/

namespace EstreeEmitter

variable {ε α β : Type} {r : Except ε α} {f : α → Except ε β}

theorem bind_eq_ok_iff {c : β} : (r >>= f) = .ok c ↔ ∃ a, r = .ok a ∧ f a = .ok c := by
  cases r with
  | ok a => exact ⟨fun h => ⟨a, rfl, h⟩, fun ⟨_, ha, h⟩ => by cases ha; exact h⟩
  | error e => exact ⟨nofun, fun ⟨_, ha, _⟩ => by cases ha⟩

theorem bind_eq_error_iff {e : ε} :
    (r >>= f) = .error e ↔ r = .error e ∨ ∃ a, r = .ok a ∧ f a = .error e := by
  cases r with
  | ok a =>
      refine ⟨fun h => Or.inr ⟨a, rfl, h⟩, ?_⟩
      rintro (h | ⟨_, ha, h⟩)
      · cases h
      · cases ha
        exact h
  | error e' =>
      refine ⟨fun h => Or.inl (by cases h; rfl), ?_⟩
      rintro (h | ⟨_, ha, _⟩)
      · cases h
        rfl
      · cases ha

theorem pure_eq_ok_iff {a c : α} : (pure a : Except ε α) = .ok c ↔ a = c :=
  ⟨fun h => by cases h; rfl, fun h => by rw [h]; rfl⟩

theorem pure_ne_error {a : α} {e : ε} : ¬(pure a : Except ε α) = .error e := nofun

theorem map_eq_ok_iff {g : α → β} {c : β} : r.map g = .ok c ↔ ∃ a, r = .ok a ∧ g a = c := by
  cases r with
  | ok a => simp [Except.map]
  | error e => simp [Except.map]

theorem map_eq_error_iff {g : α → β} {e : ε} : r.map g = .error e ↔ r = .error e := by
  cases r with
  | ok a => simp [Except.map]
  | error e' => simp [Except.map]

theorem toOption_eq_some_iff {a : α} : r.toOption = some a ↔ r = .ok a := by
  cases r with
  | ok b => simp [Except.toOption]
  | error e => simp [Except.toOption]

/-! ## The fault of a result -/

/-- The fault of a result; `none` for a value. -/
def fault? : Except ε α → Option ε
  | .ok _ => none
  | .error e => some e

theorem fault?_eq_none_iff : fault? r = none ↔ ∃ a, r = .ok a := by
  cases r with
  | ok a => simp [fault?]
  | error e => simp [fault?]

theorem fault?_eq_some_iff {e : ε} : fault? r = some e ↔ r = .error e := by
  cases r with
  | ok a => simp [fault?]
  | error e' => simp [fault?]

/-- Of two results one after the other, the first fault counts. -/
theorem fault?_bind {o : Option ε} (h : ∀ a, r = .ok a → fault? (f a) = o) :
    fault? (r >>= f) = (fault? r).or o := by
  cases r with
  | ok a => exact h a rfl
  | error e => rfl

/-- A value made of a result fails as the result does. -/
theorem fault?_make (g : α → β) : fault? (do return g (← r)) = fault? r := by
  cases r with
  | ok a => rfl
  | error e => rfl

end EstreeEmitter
