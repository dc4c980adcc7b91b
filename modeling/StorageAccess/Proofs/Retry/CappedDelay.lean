import StorageAccess.Proofs.Retry.DoublingDelay

/-! Delays only grow from one retry to the next, and never past the cap. Jitter may scale a delay to any
length at all: the cap is met after it. -/
namespace StorageAccess

variable {r s : UInt32}

theorem Growth.factor_le_of_le (g : Growth) (h : r ≤ s) : g.factor r ≤ g.factor s := by
  have hle : r.toNat ≤ s.toNat := UInt32.le_iff_toNat_le.mp h
  cases g with
  | linear => exact hle
  | exponential =>
    rw [factor_exponential, factor_exponential]
    by_cases hr : r = 0
    · simp [hr]
    · have hs : s ≠ 0 := by
        rintro rfl
        exact hr (UInt32.toNat_inj.mp (Nat.le_zero.mp hle))
      have hpow : 2 ^ (r.toNat - 1) ≤ 2 ^ (s.toNat - 1) :=
        Nat.pow_le_pow_right (by decide) (by omega)
      rw [if_neg hr, if_neg hs]
      omega

namespace Backoff

theorem bound_of_linear {b : Backoff} (hg : b.growth = .linear) (retry : UInt32) :
    (b.bound retry).nanoseconds = min (b.base.nanoseconds * retry.toNat) b.cap.nanoseconds := by
  rw [nanoseconds_bound, hg, Nat.min_comm]
  rfl

theorem bound_le_of_le (b : Backoff) (h : r ≤ s) : b.bound r ≤ b.bound s := by
  have hfactor : b.base.nanoseconds * b.growth.factor r ≤ b.base.nanoseconds * b.growth.factor s :=
    Nat.mul_le_mul_left _ (b.growth.factor_le_of_le h)
  change (b.bound r).nanoseconds ≤ (b.bound s).nanoseconds
  rw [nanoseconds_bound, nanoseconds_bound]
  omega

theorem min_cap_le (b : Backoff) (d : Duration) : min d b.cap ≤ b.cap := by
  change (min d b.cap).nanoseconds ≤ b.cap.nanoseconds
  rw [Duration.nanoseconds_min]
  exact Nat.min_le_right _ _

/-- The delay before a retry where scaling ends in the given way. -/
def delayFrom (b : Backoff) (retry : UInt32) (scaled : Except Fault Duration) :
    Except Fault Duration :=
  if b.jitter ≤ 0.0 || (b.bound retry).nanoseconds = 0 then .ok (b.bound retry)
  else scaled.map (min · b.cap)

theorem delay_eq_delayFrom (b : Backoff) (retry : UInt32) (unit : Float) :
    b.delay retry unit = b.delayFrom retry ((b.bound retry).scale (b.factorAt unit)) := rfl

/-- There is a delay, and it is within the cap, unless scaling ends the program. -/
theorem delayFrom_cases (b : Backoff) (retry : UInt32) (scaled : Except Fault Duration) :
    (∃ d, b.delayFrom retry scaled = .ok d ∧ d ≤ b.cap) ∨
      ∃ fault, scaled = .error fault ∧ b.delayFrom retry scaled = .error fault := by
  unfold delayFrom
  split
  · exact .inl ⟨_, rfl, b.min_cap_le _⟩
  · cases scaled with
    | ok d => exact .inl ⟨_, rfl, b.min_cap_le d⟩
    | error fault => exact .inr ⟨fault, rfl, rfl⟩

/-- Delays are in order and within the cap, without jitter and with any. Those that grow by the same amount
each time are as many base delays as there were retries, or the cap. -/
theorem bound_le_and_delay_le_cap (b : Backoff) (h : r ≤ s) :
    (b.growth = .linear →
        (b.bound r).nanoseconds = min (b.base.nanoseconds * r.toNat) b.cap.nanoseconds) ∧
      b.bound r ≤ b.bound s ∧ b.bound s ≤ b.cap ∧
      (∀ unit, b.delay r unit = b.delayFrom r ((b.bound r).scale (b.factorAt unit))) ∧
      ∀ scaled, (∃ d, b.delayFrom r scaled = .ok d ∧ d ≤ b.cap) ∨
        ∃ fault, scaled = .error fault ∧ b.delayFrom r scaled = .error fault :=
  ⟨fun hg => bound_of_linear hg r, b.bound_le_of_le h, b.min_cap_le _, b.delay_eq_delayFrom r,
    b.delayFrom_cases r⟩

/-- From the second retry on, products pass the greatest length of time. The cap lies just below that. -/
def steepBackoff : Backoff where
  growth := .linear
  base := .ofSeconds 18_446_744_073_709_551_615
  cap := ⟨longestDelay - 1, Nat.sub_le _ _⟩
  jitter := 1.0

theorem bound_le_and_delay_le_cap_steepBackoff :
    (2 : UInt32) ≤ 3 ∧ steepBackoff.growth = .linear ∧
      (steepBackoff.bound 2).nanoseconds = min (steepBackoff.base.nanoseconds * (2 : UInt32).toNat)
        steepBackoff.cap.nanoseconds ∧
      steepBackoff.bound 2 ≤ steepBackoff.bound 3 ∧ steepBackoff.bound 3 ≤ steepBackoff.cap ∧
      ¬Duration.longest ≤ steepBackoff.cap ∧
      ∃ d, steepBackoff.delayFrom 2 (.ok .longest) = .ok d ∧ d ≤ steepBackoff.cap := by
  have hle : (2 : UInt32) ≤ 3 := by decide
  obtain ⟨hlinear, hmono, hcap, -, hdelay⟩ := steepBackoff.bound_le_and_delay_le_cap hle
  obtain hd | ⟨fault, hfault, -⟩ := hdelay (.ok .longest)
  · exact ⟨hle, rfl, hlinear rfl, hmono, hcap, by decide, hd⟩
  · cases hfault

end Backoff

end StorageAccess
