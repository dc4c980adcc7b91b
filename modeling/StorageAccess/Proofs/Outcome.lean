import StorageAccess.Action

/-! What the parts of a computation must have been for the whole to end as it did. -/
namespace StorageAccess

theorem bind_eq_ok {ε α β : Type} {x : Except ε α} {f : α → Except ε β} {b : β} :
    x >>= f = .ok b ↔ ∃ a, x = .ok a ∧ f a = .ok b := by
  cases x with
  | ok a =>
    constructor
    · intro h
      exact ⟨a, rfl, h⟩
    · rintro ⟨_, ⟨⟩, h⟩
      exact h
  | error e =>
    constructor
    · intro h
      cases h
    · rintro ⟨_, ⟨⟩, _⟩

theorem bind_unit_eq_ok {ε β : Type} {x : Except ε Unit} {f : Unit → Except ε β} {b : β} :
    x >>= f = .ok b ↔ x = .ok () ∧ f () = .ok b :=
  bind_eq_ok.trans ⟨fun ⟨(), h⟩ => h, fun h => ⟨(), h⟩⟩

theorem pure_eq_ok {ε α : Type} {a b : α} : (pure a : Except ε α) = .ok b ↔ b = a := by
  constructor
  · intro h
    cases h
    rfl
  · rintro rfl
    rfl

theorem bind_of_eq_error {ε α β : Type} {x : Except ε α} {e : ε} (h : x = .error e)
    (f : α → Except ε β) : x >>= f = .error e := by
  rw [h]
  rfl

/-- A condition that is complained about before the rest is done. -/
theorem guard_eq_ok {ε β : Type} {c : Prop} [Decidable c] {e : ε} {f : Unit → Except ε β} {b : β} :
    (if c then throw e >>= f else f ()) = .ok b ↔ ¬c ∧ f () = .ok b := by
  by_cases hc : c
  · rw [if_pos hc]
    exact ⟨nofun, fun h => absurd hc h.1⟩
  · rw [if_neg hc]
    exact ⟨fun h => ⟨hc, h⟩, fun h => h.2⟩

theorem throw_if_eq_ok {ε : Type} {c : Prop} [Decidable c] {e : ε} :
    (if c then throw e else pure () : Except ε Unit) = .ok () ↔ ¬c := by
  -- as if nothing came after the condition
  change (if c then throw e >>= pure else pure () : Except ε Unit) = .ok () ↔ ¬c
  rw [guard_eq_ok]
  exact and_iff_left rfl

theorem discard_eq_ok {ε α : Type} {x : Except ε α} : discard x = .ok () ↔ ∃ a, x = .ok a := by
  cases x with
  | ok a => exact ⟨fun _ => ⟨a, rfl⟩, fun _ => rfl⟩
  | error e => exact ⟨nofun, nofun⟩

theorem eq_ok_of_toOption {ε α : Type} {x : Except ε α} {a : α} (h : x.toOption = some a) :
    x = .ok a := by
  cases x with
  | ok b => rw [Option.some.inj h]
  | error e => cases h

namespace Action

variable {α β : Type}

@[simp] theorem outcome_debug (text : String) : (debug text).outcome = .ok () := rfl

theorem outcome_ofExcept_eq_ok {x : Except Error α} {a : α} :
    (ofExcept x).outcome = .ok a ↔ x = .ok a := by
  cases x with
  | ok b =>
    constructor
    · intro h
      cases h
      rfl
    · rintro ⟨⟩
      rfl
  | error e => constructor <;> intro h <;> cases h

theorem outcome_ofFault_eq_ok {x : Except Fault α} {a : α} :
    (ofFault x).outcome = .ok a ↔ x = .ok a := by
  cases x with
  | ok b =>
    constructor
    · intro h
      cases h
      rfl
    · rintro ⟨⟩
      rfl
  | error f => constructor <;> intro h <;> cases h

theorem bind_outcome_eq_ok {a : Action α} {f : α → Action β} {b : β} :
    (a >>= f).outcome = .ok b ↔ ∃ x, a.outcome = .ok x ∧ (f x).outcome = .ok b := by
  rw [outcome_bind, bind_eq_ok]

end Action

end StorageAccess
