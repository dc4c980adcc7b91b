import StorageAccess.Proofs.Retry.Record

/-! Where the attempts of a run go. To tell, the world of a run is made to keep a record of the attempts,
which changes nothing else. -/
namespace StorageAccess

variable {σ ε α : Type}

/-- The same world with a record of the attempts made in it. -/
def World.recorded (w : World σ ε α) : World (σ × List (Attempt ε α)) ε α :=
  w.noting fun replica _ outcome => ⟨replica, outcome⟩

namespace RetryPolicy

variable [Classified ε] {p : RetryPolicy} {w : World σ ε α} {op : Operation} {replica : Replica}
variable {readOnly : Bool} {past : List (Attempt ε α)}

/-- The attempts of a run, in order. -/
def attempts (p : RetryPolicy) (w : World σ ε α) (readOnly : Bool) (start : σ) :
    List (Attempt ε α) :=
  (p.run w.recorded readOnly (start, [])).world.2

/-- The replica for the attempt after the given ones. -/
def choice (p : RetryPolicy) (readOnly : Bool) (past : List (Attempt ε α)) : Replica :=
  if p.secondaryReads && readOnly && past.length % 2 == 1 && !past.any Attempt.isNotFound then
    .secondary
  else .primary

/-- Whether each attempt went where those before it tell. -/
def IsChosen (p : RetryPolicy) (readOnly : Bool) (made : List (Attempt ε α)) : Prop :=
  ∀ n a, made[n]? = some a → a.replica = p.choice readOnly (made.take n)

theorem isChosen_append {a : Attempt ε α} (h : p.IsChosen readOnly past)
    (ha : a.replica = p.choice readOnly past) : p.IsChosen readOnly (past ++ [a]) := by
  intro n b hb
  obtain hlt | hle := Nat.lt_or_ge n past.length
  · rw [List.getElem?_append_left hlt] at hb
    rw [List.take_append_of_le_length (Nat.le_of_lt hlt)]
    exact h n b hb
  · rw [List.getElem?_append_right hle, List.getElem?_singleton] at hb
    split at hb
    · rename_i hn
      cases hb
      rw [List.take_append, List.take_of_length_le hle, hn, List.take_zero, List.append_nil]
      exact ha
    · cases hb

/-- What is known of a run before its next attempt. -/
structure Heeds (p : RetryPolicy) (readOnly : Bool) (past : List (Attempt ε α)) (op : Operation)
    (replica : Replica) : Prop where
  mode : op.readOnly = readOnly
  notFound : op.secondaryNotFound = past.any Attempt.isNotFound
  replica_eq : replica = p.choice readOnly past
  chosen : p.IsChosen readOnly past

theorem heeds_fresh (p : RetryPolicy) (readOnly : Bool) :
    p.Heeds readOnly ([] : List (Attempt ε α)) (.fresh readOnly) .primary :=
  ⟨rfl, rfl, by simp [choice], fun n a h => by simp at h⟩

theorem Heeds.chosen_append (h : p.Heeds readOnly past op replica) (outcome : Except ε α) :
    p.IsChosen readOnly (past ++ [⟨replica, outcome⟩]) :=
  isChosen_append h.chosen h.replica_eq

/-- A failure on the secondary replica with 404 is kept in mind, and other failures change nothing. -/
theorem Heeds.notFound_failed (h : p.Heeds readOnly past op replica) (error : ε) (elapsed : Duration) :
    ((op.started replica).failed (Classified.failure error) elapsed).secondaryNotFound =
      (past ++ [⟨replica, .error error⟩] : List (Attempt ε α)).any Attempt.isNotFound := by
  rw [List.any_append, List.any_cons, List.any_nil, Bool.or_false, ← h.notFound]
  rfl

/-- Reads go to and fro, so the number of attempts tells where the next one goes. -/
theorem Heeds.nextReplica (h : p.Heeds readOnly past op replica) (error : ε) (elapsed : Duration) :
    p.nextReplica ((op.started replica).failed (Classified.failure error) elapsed) =
      p.choice readOnly (past ++ [⟨replica, .error error⟩] : List (Attempt ε α)) := by
  have hmode : ((op.started replica).failed (Classified.failure error) elapsed).readOnly = readOnly :=
    h.mode
  have hreplica :
      ((op.started replica).failed (Classified.failure error) elapsed).replica = replica := rfl
  rw [RetryPolicy.nextReplica, choice, h.notFound_failed, hmode, hreplica, h.replica_eq, choice,
    List.any_append, List.length_append, List.length_singleton]
  obtain hlength | hlength := Nat.mod_two_eq_zero_or_one past.length
  · have hnext : (past.length + 1) % 2 = 1 := by omega
    cases past.any Attempt.isNotFound <;> simp +contextual [hlength, hnext, Replica.other]
  · have hnext : (past.length + 1) % 2 = 0 := by omega
    cases past.any Attempt.isNotFound <;> simp +contextual [hlength, hnext, Replica.other]

/-- The failed attempt and the decision on it take a run to the next attempt. -/
theorem Heeds.next {error : ε} {world : σ} {judged : Operation} {log : List LogRecord} {d : Decision}
    {v : World σ ε α} (h : p.Heeds readOnly past op replica)
    (hf : p.afterFailure v (op.started replica) error world = (judged, ⟨log, .ok (.ok d)⟩)) :
    p.Heeds readOnly (past ++ [⟨replica, .error error⟩]) judged d.replica := by
  obtain ⟨rfl, hreplica, -⟩ := retried_of_onFailure rfl hf
  have hnotFound := h.notFound_failed error (v.elapsed (v.draw world).2)
  have hnext := h.nextReplica error (v.elapsed (v.draw world).2)
  exact ⟨h.mode, hnotFound, hreplica.trans hnext, h.chosen_append _⟩

/-- However a run goes on, its attempts go where those before them tell. -/
theorem Turns.isChosen {world : σ × List (Attempt ε α)}
    {report : RunReport (σ × List (Attempt ε α)) ε α}
    (ht : p.Turns w.recorded op replica world report)
    (h : p.Heeds readOnly world.2 op replica) : p.IsChosen readOnly report.world.2 := by
  refine Turns.of_notes (fun op replica world => p.Heeds readOnly world.2 op replica)
    (p.IsChosen readOnly) Heeds.chosen (fun outcome h => h.chosen_append outcome) ?_ ht h
  intro op replica world after e judged log d h ha hf
  rw [World.notes_of_sleep, World.notes_of_draw, World.notes_of_attempt ha]
  exact h.next hf

theorem choice_eq_secondary_iff : p.choice readOnly past = .secondary ↔
    p.secondaryReads = true ∧ readOnly = true ∧ (past.length + 1) % 2 = 0 ∧
      ∀ a ∈ past, a.isNotFound = false := by
  have hparity : (past.length + 1) % 2 = 0 ↔ past.length % 2 = 1 := by omega
  rw [choice, hparity]
  split
  · rename_i h
    simpa [and_assoc] using h
  · rename_i h
    simpa [and_assoc] using h

/-- Of the attempts of a run, the first, which is always made, and then every other one go to the primary
replica. The rest go to the secondary one if it may be read, up to the first that it answers with 404. -/
theorem replica_of_attempts (p : RetryPolicy) (w : World σ ε α) (readOnly : Bool) (start : σ) :
    (p.attempts w readOnly start).head? = some ⟨.primary, (w.attempt .primary start).1⟩ ∧
      (p.attempts w readOnly start).map Attempt.replica = (p.run w readOnly start).replicas ∧
      ∀ n a, (p.attempts w readOnly start)[n]? = some a →
        (a.replica = .secondary ↔ p.secondaryReads = true ∧ readOnly = true ∧ (n + 1) % 2 = 0 ∧
          ∀ b ∈ (p.attempts w readOnly start).take n, b.isNotFound = false) := by
  have hturns := p.turns_runFrom w.recorded (.fresh readOnly) .primary (start, [])
  refine ⟨hturns.head?_notes_of_start rfl, ?_, fun n a ha => ?_⟩
  · calc
      (p.attempts w readOnly start).map Attempt.replica =
          (p.run w.recorded readOnly (start, [])).replicas := hturns.map_notes fun _ _ _ => rfl
      _ = (p.run w readOnly start).replicas := congrArg RunReport.replicas
          ((p.turns_runFrom w (.fresh readOnly) .primary start).erased_runFrom_noting [])
  · have hlength : ((p.attempts w readOnly start).take n).length = n :=
      List.length_take_of_le (Nat.le_of_lt (List.getElem?_eq_some_iff.mp ha).1)
    have hchosen : p.IsChosen readOnly (p.attempts w readOnly start) :=
      hturns.isChosen (p.heeds_fresh readOnly)
    rw [hchosen n a ha, choice_eq_secondary_iff, hlength]

end RetryPolicy

end StorageAccess
