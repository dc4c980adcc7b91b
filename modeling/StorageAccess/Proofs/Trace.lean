import StorageAccess.Proofs.Outcome

/-! What of a computation is seen from outside: what it logs, and whether the program ends with it. What
it returns is not seen, so that it may go on differently with results that differ. -/
namespace StorageAccess

def Halt.fault? : Halt → Option Fault
  | .error _ => none
  | .fault f => some f

namespace Action

variable {α β γ δ : Type}

/-- The fault that the program ends with. -/
def fault? (x : Action α) : Option Fault :=
  match x.outcome with
  | .ok _ => none
  | .error halt => halt.fault?

/-- What is seen of a computation. -/
def trace (x : Action α) : List LogRecord × Option Fault := (x.log, x.fault?)

theorem bind_of_ok {x : Action α} {a : α} (h : x.outcome = .ok a) (f : α → Action β) :
    x >>= f = ⟨x.log ++ (f a).log, (f a).outcome⟩ := by
  change bind x f = _
  rw [bind, h]

theorem bind_of_error {x : Action α} {halt : Halt} (h : x.outcome = .error halt) (f : α → Action β) :
    x >>= f = ⟨x.log, .error halt⟩ := by
  change bind x f = _
  rw [bind, h]

theorem trace_ofExcept (x : Except Error α) : (ofExcept x).trace = ([], none) := by
  cases x <;> rfl

/-- Computations with the same log, and with results of which a function shows the same. -/
structure AgreeBy (m : α → β) (x y : Action α) : Prop where
  log : x.log = y.log
  outcome : x.outcome.map m = y.outcome.map m

namespace AgreeBy

variable {m : α → β} {x y : Action α}

theorem refl (m : α → β) (x : Action α) : AgreeBy m x x := ⟨rfl, rfl⟩

theorem ofExcept {x y : Except Error α} (h : x.map m = y.map m) :
    AgreeBy m (ofExcept x) (ofExcept y) := by
  cases x <;> cases y <;>
    simp only [Except.map, Except.error.injEq, Except.ok.injEq, reduceCtorEq] at h
  · rw [h]
    exact refl m _
  · exact ⟨rfl, congrArg Except.ok h⟩

theorem cases_outcome (h : AgreeBy m x y) :
    (∃ halt, x.outcome = .error halt ∧ y.outcome = .error halt) ∨
      ∃ a b, x.outcome = .ok a ∧ y.outcome = .ok b ∧ m a = m b := by
  have houtcome := h.outcome
  cases hx : x.outcome <;> cases hy : y.outcome <;> rw [hx, hy] at houtcome <;>
    simp_all [Except.map]

/-- Going on in ways that agree where the function shows the same. -/
theorem bind {n : γ → δ} {f g : α → Action γ} (h : AgreeBy m x y)
    (hf : ∀ a b, m a = m b → AgreeBy n (f a) (g b)) : AgreeBy n (x >>= f) (y >>= g) := by
  obtain ⟨halt, hx, hy⟩ | ⟨a, b, hx, hy, hab⟩ := h.cases_outcome
  · rw [bind_of_error hx, bind_of_error hy]
    exact ⟨h.log, rfl⟩
  · rw [bind_of_ok hx, bind_of_ok hy]
    obtain ⟨hlog, houtcome⟩ := hf a b hab
    exact ⟨by rw [h.log, hlog], houtcome⟩

/-- Going on in ways that are seen alike. -/
theorem trace_bind {f g : α → Action γ} (h : AgreeBy m x y)
    (hf : ∀ a b, m a = m b → (f a).trace = (g b).trace) : (x >>= f).trace = (y >>= g).trace := by
  obtain ⟨halt, hx, hy⟩ | ⟨a, b, hx, hy, hab⟩ := h.cases_outcome
  · rw [bind_of_error hx, bind_of_error hy, trace, trace, h.log]
  · rw [bind_of_ok hx, bind_of_ok hy, trace, trace, h.log]
    obtain ⟨hlog, hfault⟩ := Prod.mk.inj (hf a b hab)
    exact Prod.ext (by rw [hlog]) hfault

theorem trace_eq (h : AgreeBy m x y) : x.trace = y.trace := by
  obtain ⟨halt, hx, hy⟩ | ⟨a, b, hx, hy, -⟩ := h.cases_outcome <;>
    rw [trace, trace, fault?, fault?, hx, hy, h.log]

end AgreeBy

theorem trace_bind_congr {x : Action α} {f g : α → Action β} (h : ∀ a, (f a).trace = (g a).trace) :
    (x >>= f).trace = (x >>= g).trace :=
  (AgreeBy.refl id x).trace_bind fun a b hab => by
    cases hab
    exact h a

/-- What is not seen can be left out. -/
theorem trace_bind_of_unseen {x : Action α} {f : α → Action β} (h : ∀ a, (f a).trace = ([], none)) :
    (x >>= f).trace = x.trace := by
  cases hx : x.outcome with
  | error halt =>
    rw [bind_of_error hx, trace, trace, fault?, fault?, hx]
  | ok a =>
    obtain ⟨hlog, hfault⟩ := Prod.mk.inj (h a)
    rw [bind_of_ok hx, trace, trace, hlog, List.append_nil]
    refine Prod.ext rfl (hfault.trans ?_)
    rw [fault?, hx]

end Action

end StorageAccess
