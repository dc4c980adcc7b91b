import Mathlib.Algebra.Group.Nat.Defs
import StorageAccess.Retry.Backoff

/-! How long delays are without jitter. The cap hides that products stop at the greatest length of time.
It does not hide that the powers of two stop, which they do at the thirty-third retry. -/
namespace StorageAccess

theorem Duration.nanoseconds_min (a b : Duration) :
    (min a b).nanoseconds = min a.nanoseconds b.nanoseconds := by
  change (if a.nanoseconds ≤ b.nanoseconds then a else b).nanoseconds = _
  split <;> omega

theorem Growth.factor_exponential (retry : UInt32) : Growth.exponential.factor retry =
    if retry = 0 then 0 else min (2 ^ (retry.toNat - 1)) greatestFactor := by
  change (if retry = 0 then 0 else if retry.toNat ≤ 32 then 2 ^ (retry.toNat - 1) else
    greatestFactor) = _
  by_cases hle : retry.toNat ≤ 32
  · have hpow : 2 ^ (retry.toNat - 1) ≤ 2 ^ 31 := Nat.pow_le_pow_right (by decide) (by omega)
    rw [if_pos hle, Nat.min_eq_left (Nat.le_trans hpow (by decide))]
  · have hpow : 2 ^ 32 ≤ 2 ^ (retry.toNat - 1) := Nat.pow_le_pow_right (by decide) (by omega)
    rw [if_neg hle, Nat.min_eq_right (Nat.le_trans (by decide) hpow)]

namespace Backoff

variable {b : Backoff} {retry : UInt32}

theorem nanoseconds_bound (b : Backoff) (retry : UInt32) : (b.bound retry).nanoseconds =
    min b.cap.nanoseconds (b.base.nanoseconds * b.growth.factor retry) := by
  have hcap := b.cap.le_longest
  rw [bound, Duration.nanoseconds_min]
  change min (min _ longestDelay) _ = _
  omega

/-- The base delay doubled for each retry after the first, up to the cap. No wait comes before the first
try. -/
def doubled (b : Backoff) (retry : UInt32) : Nat :=
  if retry = 0 then 0 else min b.cap.nanoseconds (b.base.nanoseconds * 2 ^ (retry.toNat - 1))

/-- A cap on products hides a limit on one factor if the product with the limit reaches the cap. -/
theorem min_mul_min_eq_iff {cap base factor limit : Nat} :
    min cap (base * min factor limit) = min cap (base * factor) ↔
      factor ≤ limit ∨ base = 0 ∨ cap ≤ base * limit := by
  by_cases hfactor : factor ≤ limit
  · simp [hfactor]
  by_cases hbase : base = 0
  · simp [hbase]
  have hproduct : base * limit < base * factor :=
    Nat.mul_lt_mul_of_pos_left (by omega) (by omega)
  rw [Nat.min_eq_right (Nat.le_of_not_le hfactor)]
  generalize base * limit = limited at *
  generalize base * factor = product at *
  omega

theorem pow_le_greatestFactor_iff : 2 ^ (retry.toNat - 1) ≤ Growth.greatestFactor ↔
    retry.toNat ≤ 32 := by
  have hpow : 2 ^ (retry.toNat - 1) < 2 ^ 32 ↔ retry.toNat - 1 < 32 :=
    Nat.pow_lt_pow_iff_right (by decide)
  unfold Growth.greatestFactor
  omega

/-- Delays that grow to the double are as many base delays as the power of two, but at most `2 ^ 32 - 1`.
They are the doubled delays exactly if this limit is not met, or the cap is met first. -/
theorem bound_of_exponential (hg : b.growth = .exponential) (retry : UInt32) :
    (b.bound retry).nanoseconds = (if retry = 0 then 0 else min b.cap.nanoseconds
        (b.base.nanoseconds * min (2 ^ (retry.toNat - 1)) Growth.greatestFactor)) ∧
      ((b.bound retry).nanoseconds = b.doubled retry ↔
        retry.toNat ≤ 32 ∨ b.base.nanoseconds = 0 ∨
          b.cap.nanoseconds ≤ b.base.nanoseconds * Growth.greatestFactor) := by
  have hbound := b.nanoseconds_bound retry
  rw [hg, Growth.factor_exponential] at hbound
  by_cases hr : retry = 0
  · rw [hbound, doubled, hr]
    simp
  · rw [if_neg hr] at hbound ⊢
    refine ⟨hbound, ?_⟩
    rw [hbound, doubled, if_neg hr, min_mul_min_eq_iff, pow_le_greatestFactor_iff]

/-- From one millisecond to fifty-eight days. -/
def patientBackoff : Backoff where
  growth := .exponential
  base := .ofMilliseconds 1
  cap := .ofMilliseconds 5_000_000_000
  jitter := 0.0

theorem bound_of_exponential_patientBackoff :
    patientBackoff.growth = .exponential ∧
      (patientBackoff.bound 33).nanoseconds = min patientBackoff.cap.nanoseconds
        (patientBackoff.base.nanoseconds *
          min (2 ^ ((33 : UInt32).toNat - 1)) Growth.greatestFactor) ∧
      (patientBackoff.bound 33).nanoseconds ≠ patientBackoff.doubled 33 := by
  obtain ⟨hbound, hiff⟩ := bound_of_exponential (b := patientBackoff) rfl 33
  rw [if_neg (by decide)] at hbound
  exact ⟨rfl, hbound, mt hiff.mp (by decide)⟩

/-- The delay stays where it is for good, short of the cap. -/
theorem bound_ne_doubled_patientBackoff :
    (patientBackoff.bound 33).nanoseconds = 4_294_967_295_000_000 ∧
      patientBackoff.doubled 33 = 4_294_967_296_000_000 ∧
      (patientBackoff.bound 34).nanoseconds = 4_294_967_295_000_000 ∧
      patientBackoff.doubled 34 = patientBackoff.cap.nanoseconds := by
  decide

end Backoff

end StorageAccess
