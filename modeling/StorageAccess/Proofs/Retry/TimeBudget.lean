import StorageAccess.Proofs.Retry.Record

/-! How long a run may take. Attempts last as long as they like, and what a policy can do is not to begin
another one too late: a delay is granted only if it ends in time, so nothing is begun after that. -/
namespace StorageAccess

variable {σ ε α : Type}

namespace Duration

/-- Lengths of time together, in nanoseconds. They may be more than one length can be. -/
def total (lengths : List Duration) : Nat := lengths.foldr (·.nanoseconds + ·) 0

@[simp] theorem total_nil : total [] = 0 := rfl

@[simp] theorem total_cons (d : Duration) (rest : List Duration) :
    total (d :: rest) = d.nanoseconds + total rest := rfl

/-- A sum that stays below the greatest length of time is not cut short. -/
theorem nanoseconds_add {a b limit : Duration} (hl : limit < .longest)
    (h : ¬ limit < a.add b) :
    (a.add b).nanoseconds = a.nanoseconds + b.nanoseconds ∧
      a.nanoseconds + b.nanoseconds ≤ limit.nanoseconds := by
  change limit.nanoseconds < longestDelay at hl
  change ¬ limit.nanoseconds < min (a.nanoseconds + b.nanoseconds) longestDelay at h
  change min (a.nanoseconds + b.nanoseconds) longestDelay = _ ∧ _
  omega

end Duration

namespace World

/-- Whether time goes by only in attempts, and in waits as long as they are to be. -/
structure KeepsTime (w : World σ ε α) : Prop where
  attempt (replica : Replica) (s : σ) : w.elapsed s ≤ w.elapsed (w.attempt replica s).2
  draw (s : σ) : w.elapsed (w.draw s).2 = w.elapsed s
  sleep (d : Duration) (s : σ) : w.elapsed (w.sleep d s) = (w.elapsed s).add d

/-- Where and when an attempt began. -/
structure Start where
  replica : Replica
  time : Duration

/-- The same world with a list of the attempts begun in it. -/
def timed (w : World σ ε α) : World (σ × List Start) ε α :=
  w.noting fun replica s _ => ⟨replica, w.elapsed s⟩

theorem KeepsTime.timed {w : World σ ε α} (hw : w.KeepsTime) : w.timed.KeepsTime where
  attempt replica s := hw.attempt replica s.1
  draw s := hw.draw s.1
  sleep d s := hw.sleep d s.1

end World

namespace RetryPolicy

variable [Classified ε] {p : RetryPolicy} {w : World σ ε α} {op : Operation} {replica : Replica}

/-- A wait comes to its end in time. -/
theorem elapsed_sleep {after : σ} {error : ε} {judged : Operation} {log : List LogRecord} {d : Decision}
    (hw : w.KeepsTime) (hp : p.maxElapsed < .longest)
    (hf : p.afterFailure w (op.started replica) error after = (judged, ⟨log, .ok (.ok d)⟩)) :
    (w.elapsed (w.sleep d.delay (w.draw after).2)).nanoseconds =
        (w.elapsed after).nanoseconds + d.delay.nanoseconds ∧
      (w.elapsed after).nanoseconds + d.delay.nanoseconds ≤ p.maxElapsed.nanoseconds := by
  obtain ⟨-, -, htime⟩ := retried_of_onFailure rfl hf
  rw [hw.draw] at htime
  rw [hw.sleep, hw.draw]
  exact Duration.nanoseconds_add hp htime

/-- The waits of a run fit between the time it has reached and the greatest that is allowed. -/
theorem Turns.total_sleeps {world : σ} {report : RunReport σ ε α}
    (h : p.Turns w op replica world report) (hw : w.KeepsTime) (hp : p.maxElapsed < .longest) :
    report.sleeps = [] ∨
      (w.elapsed world).nanoseconds + Duration.total report.sleeps ≤ p.maxElapsed.nanoseconds := by
  induction h with
  | unstarted hs => exact .inl rfl
  | succeeded hs ha => exact .inl rfl
  | broken hs ha hf => exact .inl rfl
  | gaveUp hs ha hf => exact .inl rfl
  | @retried op replica world after e judged log d report hs ha hf rest ih =>
    obtain ⟨hend, hle⟩ := elapsed_sleep hw hp hf
    have hattempt : (w.elapsed world).nanoseconds ≤ (w.elapsed after).nanoseconds := by
      have hmono := hw.attempt replica world
      rwa [ha] at hmono
    right
    rw [RunReport.after, Duration.total_cons]
    obtain hnone | hrest := ih
    · rw [hnone, Duration.total_nil]
      omega
    · rw [hend] at hrest
      omega

/-- Where and when the attempts of a run began, in order. -/
def starts (p : RetryPolicy) (w : World σ ε α) (readOnly : Bool) (start : σ) : List World.Start :=
  (p.run w.timed readOnly (start, [])).world.2

/-- Whether all but the first of the attempts that have begun did so in time, and another one would. -/
structure IsInTime (p : RetryPolicy) (begun : List World.Start) (now : Duration) : Prop where
  earlier : ∀ s ∈ begun.tail, s.time ≤ p.maxElapsed
  next : begun ≠ [] → now ≤ p.maxElapsed

theorem IsInTime.begun_append {begun : List World.Start} {now : Duration} (h : p.IsInTime begun now)
    (replica : Replica) :
    ∀ s ∈ (begun ++ [World.Start.mk replica now]).tail, s.time ≤ p.maxElapsed := by
  intro s hs
  cases begun with
  | nil => cases hs
  | cons first later =>
    rw [List.cons_append, List.tail_cons, List.mem_append, List.mem_singleton] at hs
    obtain hs | rfl := hs
    · exact h.earlier s hs
    · exact h.next (List.cons_ne_nil _ _)

/-- The failed attempt and the wait after it leave time for the next attempt. -/
theorem IsInTime.after_retry {world after : σ × List World.Start} {error : ε} {judged : Operation}
    {log : List LogRecord} {d : Decision} (h : p.IsInTime world.2 (w.elapsed world.1))
    (hw : w.KeepsTime) (hp : p.maxElapsed < .longest)
    (ha : w.timed.attempt replica world = (.error error, after))
    (hf : p.afterFailure w.timed (op.started replica) error after =
      (judged, ⟨log, .ok (.ok d)⟩)) :
    p.IsInTime after.2 (w.timed.elapsed (w.timed.sleep d.delay (w.timed.draw after).2)) := by
  have hbegun := h.begun_append replica
  rw [← World.notes_of_attempt ha] at hbegun
  obtain ⟨hend, hle⟩ := elapsed_sleep hw.timed hp hf
  exact ⟨hbegun, fun _ => Nat.le_trans (Nat.le_of_eq hend) hle⟩

/-- However a run goes on, its attempts but for the first begin in time. -/
theorem Turns.begun {world : σ × List World.Start} {report : RunReport (σ × List World.Start) ε α}
    (ht : p.Turns w.timed op replica world report) (hw : w.KeepsTime) (hp : p.maxElapsed < .longest)
    (h : p.IsInTime world.2 (w.elapsed world.1)) :
    ∀ s ∈ report.world.2.tail, s.time ≤ p.maxElapsed :=
  Turns.of_notes (fun _ _ world => p.IsInTime world.2 (w.elapsed world.1))
    (fun begun => ∀ s ∈ begun.tail, s.time ≤ p.maxElapsed) IsInTime.earlier
    (fun _ h => h.begun_append _) (fun h ha hf => h.after_retry hw hp ha hf) ht h

/-- Every attempt of a run but for the first begins before the time that is allowed is over, and so its
waits take no longer than that together. -/
theorem starts_in_time (p : RetryPolicy) {w : World σ ε α} (hw : w.KeepsTime)
    (hp : p.maxElapsed < .longest) (readOnly : Bool) (start : σ) :
    (p.starts w readOnly start).map World.Start.replica = (p.run w readOnly start).replicas ∧
      (∀ s ∈ (p.starts w readOnly start).tail, s.time ≤ p.maxElapsed) ∧
      Duration.total (p.run w readOnly start).sleeps ≤ p.maxElapsed.nanoseconds := by
  have hturns := p.turns_runFrom w (.fresh readOnly) .primary start
  have htimed := p.turns_runFrom w.timed (.fresh readOnly) .primary (start, [])
  refine ⟨?_, ?_, ?_⟩
  · have herased : (p.run w.timed readOnly (start, [])).erased = p.run w readOnly start :=
      hturns.erased_runFrom_noting []
    rw [← herased]
    exact htimed.map_notes fun _ _ _ => rfl
  · exact htimed.begun hw hp ⟨nofun, fun hne => absurd rfl hne⟩
  · obtain hnone | hle := hturns.total_sleeps hw hp
    · rw [run, hnone]
      exact Nat.zero_le _
    · exact Nat.le_trans (Nat.le_add_left _ _) hle

end RetryPolicy

/-- A world where every attempt takes a second and gets no answer. -/
def silentWorld : World Nat Failure String where
  attempt _ n := (.error .timeout, n + 1_000_000_000)
  elapsed := .saturating
  sleep d n := n + d.nanoseconds
  draw n := (0.5, n)

theorem keepsTime_silentWorld : silentWorld.KeepsTime where
  attempt _ n := by
    change min n longestDelay ≤ min (n + 1_000_000_000) longestDelay
    omega
  draw n := rfl
  sleep d n := by
    have hcut : min (n + d.nanoseconds) longestDelay =
        min (min n longestDelay + d.nanoseconds) longestDelay := by omega
    exact (Duration.mk.injEq _ _ _ _).mpr hcut

def hurriedPolicy : RetryPolicy :=
  ⟨(⟨.exponential, .ofSeconds 1, .ofSeconds 60, 0.0⟩ : Backoff), 10, .ofSeconds 7, false⟩

/-- The wait of four seconds that would come next would be too long. -/
theorem starts_in_time_silentWorld :
    (hurriedPolicy.starts silentWorld false 0).map World.Start.time =
        [.zero, .ofSeconds 2, .ofSeconds 5] ∧
      (hurriedPolicy.starts silentWorld false 0).map World.Start.replica =
        (hurriedPolicy.run silentWorld false 0).replicas ∧
      (∀ s ∈ (hurriedPolicy.starts silentWorld false 0).tail, s.time ≤ .ofSeconds 7) ∧
      Duration.total (hurriedPolicy.run silentWorld false 0).sleeps ≤
        (Duration.ofSeconds 7).nanoseconds :=
  ⟨by decide +kernel,
    RetryPolicy.starts_in_time hurriedPolicy keepsTime_silentWorld (by decide) false 0⟩

end StorageAccess
