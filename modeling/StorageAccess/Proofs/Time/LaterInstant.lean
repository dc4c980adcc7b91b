import StorageAccess.Time.Instant

/-! Points in time a while after others. Time does not go back, and the only while that is too long is one
that ends after the last second. -/
namespace StorageAccess

namespace Instant

variable {t later : Instant} {d : Duration}

/-- The second in which a while ends that begins at a point in time. -/
def secondAfter (t : Instant) (d : Duration) : Int :=
  t.second + ((t.fraction + d.nanoseconds) / 1_000_000_000 : Nat)

/-- Nanoseconds that run on count from the end of the second. -/
theorem fraction_eq (t : Instant) : t.fraction =
    if 1_000_000_000 ≤ t.nanosecond then t.nanosecond - 1_000_000_000 else t.nanosecond := by
  have hn := t.valid.2.2
  unfold fraction
  split <;> omega

theorem add?_of_stays (h : 1_000_000_000 ≤ t.nanosecond ∧ d.seconds = 0 ∧
    t.nanosecond + d.subsecond < 2 * 1_000_000_000) :
    t.secondAfter d = t.second ∧ t.add? d = ofParts? t.second (t.nanosecond + d.subsecond) := by
  have hf := t.fraction_eq
  rw [if_pos h.1] at hf
  refine ⟨?_, if_pos h⟩
  unfold Duration.seconds Duration.subsecond at h
  unfold secondAfter
  omega

theorem add?_of_leaves (h : ¬(1_000_000_000 ≤ t.nanosecond ∧ d.seconds = 0 ∧
    t.nanosecond + d.subsecond < 2 * 1_000_000_000)) :
    t.add? d = ofParts? (t.secondAfter d) ((t.fraction + d.subsecond) % 1_000_000_000) := by
  have hn : (if 1_000_000_000 ≤ t.nanosecond then t.nanosecond + d.subsecond - 1_000_000_000
      else t.nanosecond + d.subsecond) = t.fraction + d.subsecond := by
    rw [fraction_eq]
    split <;> omega
  have hsecond : t.second + d.seconds + ((t.fraction + d.subsecond) / 1_000_000_000 : Nat) =
      t.secondAfter d := by
    unfold secondAfter Duration.seconds Duration.subsecond
    omega
  simp only [add?, if_neg h, hn]
  rw [← hsecond]
  rfl

theorem add?_eq_none_iff : t.add? d = none ↔ lastSecond < t.secondAfter d := by
  obtain ⟨hfirst, hlast, -⟩ := t.valid
  have hle : t.second ≤ t.secondAfter d := by
    unfold secondAfter
    omega
  by_cases h : 1_000_000_000 ≤ t.nanosecond ∧ d.seconds = 0 ∧
      t.nanosecond + d.subsecond < 2 * 1_000_000_000
  · obtain ⟨hsame, hadd⟩ := add?_of_stays h
    have hvalid : IsInstant t.second (t.nanosecond + d.subsecond) :=
      ⟨hfirst, hlast, h.2.2⟩
    rw [hadd, hsame, ofParts?, dif_pos hvalid]
    exact ⟨nofun, fun hlt => absurd hlast (by omega)⟩
  · rw [add?_of_leaves h, ofParts?]
    by_cases hlate : lastSecond < t.secondAfter d
    · have hinvalid : ¬IsInstant (t.secondAfter d) ((t.fraction + d.subsecond) % 1_000_000_000) :=
        fun hvalid => absurd hvalid.2.1 (by omega)
      rw [dif_neg hinvalid]
      exact ⟨fun _ => hlate, fun _ => rfl⟩
    · have hvalid : IsInstant (t.secondAfter d) ((t.fraction + d.subsecond) % 1_000_000_000) :=
        ⟨by omega, by omega, by omega⟩
      rw [dif_pos hvalid]
      exact ⟨nofun, fun hlt => absurd hlt hlate⟩

theorem eq_of_ofParts? {second : Int} {nanosecond : Nat} (h : ofParts? second nanosecond = some t) :
    t.second = second ∧ t.nanosecond = nanosecond := by
  unfold ofParts? at h
  split at h
  · cases h
    exact ⟨rfl, rfl⟩
  · cases h

/-- Time does not go back. -/
theorem le_of_add? (h : t.add? d = some later) : t ≤ later := by
  change t.second < later.second ∨ t.second = later.second ∧ t.nanosecond ≤ later.nanosecond
  by_cases hstays : 1_000_000_000 ≤ t.nanosecond ∧ d.seconds = 0 ∧
      t.nanosecond + d.subsecond < 2 * 1_000_000_000
  · rw [(add?_of_stays hstays).2] at h
    obtain ⟨hsecond, hnanosecond⟩ := eq_of_ofParts? h
    exact .inr ⟨hsecond.symm, by omega⟩
  · rw [add?_of_leaves hstays] at h
    obtain ⟨hsecond, hnanosecond⟩ := eq_of_ofParts? h
    have hf := t.fraction_eq
    rw [hsecond, hnanosecond]
    unfold Duration.seconds Duration.subsecond at *
    unfold secondAfter
    split at hf <;> omega

end Instant

end StorageAccess
