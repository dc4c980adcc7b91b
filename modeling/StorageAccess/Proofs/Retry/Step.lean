import StorageAccess.Proofs.Outcome
import StorageAccess.Retry.Run

/-! One turn of a run: what comes of a failed attempt, and how the run goes on after it. -/
namespace StorageAccess

/-- An attempt that was made, and what came of it. -/
structure Attempt (ε α : Type) where
  replica : Replica
  outcome : Except ε α

/-- Whether the secondary replica did not have what it was asked for. -/
def Attempt.isNotFound {ε α : Type} [Classified ε] (a : Attempt ε α) : Bool :=
  match a.outcome with
  | .ok _ => false
  | .error e => (Classified.failure e).isNotFoundOn a.replica

namespace Operation

def started (op : Operation) (replica : Replica) : Operation :=
  { op with attempts := op.attempts + 1, replica, state := .attempting }

def failed (op : Operation) (failure : Failure) (elapsed : Duration) : Operation :=
  { op with
    lastFailure := some failure
    elapsed
    secondaryNotFound := op.secondaryNotFound || failure.isNotFoundOn op.replica }

/-- Whether another attempt may begin. -/
def IsReady (op : Operation) : Prop := op.state = .notStarted ∨ op.state = .retrying

theorem startAttempt_eq {op : Operation} (h : op.IsReady)
    (hlt : op.attempts.toNat + 1 < 4_294_967_296) (replica : Replica) :
    op.startAttempt replica = (op.started replica, .ok ()) := by
  have hs : op.state = .notStarted ∨ op.state = .retrying := h
  rw [startAttempt, if_pos hs, if_pos hlt]
  rfl

theorem startAttempt_of_not_isReady {op : Operation} (h : ¬ op.IsReady) (replica : Replica) :
    op.startAttempt replica = (op, .error (.error (misuse "start an attempt" op.state))) :=
  if_neg h

theorem startAttempt_of_ok {op : Operation} {replica : Replica}
    (h : (op.startAttempt replica).2 = .ok ()) :
    op.startAttempt replica = (op.started replica, .ok ()) := by
  have hs := h
  unfold startAttempt at hs
  split at hs
  · rename_i hready
    split at hs
    · rename_i hlt
      exact startAttempt_eq hready hlt replica
    · cases hs
  · cases hs

theorem recordFailure_eq {op : Operation} (h : op.state = .attempting) (failure : Failure)
    (elapsed : Duration) :
    op.recordFailure failure elapsed = (op.failed failure elapsed, .ok ()) := by
  rw [recordFailure, if_pos h]
  rfl

theorem recordFailure_of_ne {op : Operation} (h : op.state ≠ .attempting) (failure : Failure)
    (elapsed : Duration) :
    op.recordFailure failure elapsed =
      (op, .error (.error (misuse "record a failure" op.state))) :=
  if_neg h

end Operation

namespace RetryPolicy

variable {p : RetryPolicy} {op : Operation} {unit : Float} {failure : Failure}

/-- Whether a failure ends a run at once. -/
def isLasting (op : Operation) (failure : Failure) : Bool :=
  !isRedirected op failure && !failure.isTransient

theorem judge_of_lasting (p : RetryPolicy) (unit : Float) (h : isLasting op failure = true) :
    ∃ log d, p.judge unit op failure = ({ op with state := .nonRetryable }, ⟨log, .ok d⟩) := by
  unfold isLasting at h
  rw [judge, if_pos h]
  exact ⟨_, _, rfl⟩

theorem judge_of_exhausted {delay : Duration} (h : isLasting op failure = false)
    (hd : p.backoff.delay op.attempts unit = .ok delay)
    (he : p.maxAttempts ≤ op.attempts ∨ p.maxElapsed < op.elapsed.add delay) :
    ∃ log d, p.judge unit op failure = ({ op with state := .exhausted }, ⟨log, .ok d⟩) := by
  unfold isLasting at h
  rw [judge, if_neg (by simp [h])]
  by_cases hmax : p.maxAttempts ≤ op.attempts
  · rw [if_pos hmax]
    exact ⟨_, _, rfl⟩
  · rw [if_neg hmax, hd]
    simp only [if_pos (he.resolve_left hmax)]
    exact ⟨_, _, rfl⟩

theorem judge_of_retried {delay : Duration} (h : isLasting op failure = false)
    (hd : p.backoff.delay op.attempts unit = .ok delay) (hmax : ¬ p.maxAttempts ≤ op.attempts)
    (htime : ¬ p.maxElapsed < op.elapsed.add delay) :
    ∃ log reason, p.judge unit op failure =
      ({ op with state := .retrying }, ⟨log, .ok ⟨true, delay, p.nextReplica op, reason⟩⟩) := by
  unfold isLasting at h
  rw [judge, if_neg (by simp [h]), if_neg hmax, hd]
  simp only [if_neg htime]
  exact ⟨_, _, rfl⟩

/-- Whoever is not told to stop is to try again on the replica that comes next, after a delay for which
there is time. -/
theorem retried_of_judge {d : Decision}
    (h : (p.judge unit op failure).2.outcome = .ok d)
    (h1 : (p.judge unit op failure).1.state ≠ .nonRetryable)
    (h2 : (p.judge unit op failure).1.state ≠ .exhausted) :
    (p.judge unit op failure).1 = { op with state := .retrying } ∧ d.replica = p.nextReplica op ∧
      ¬ p.maxElapsed < op.elapsed.add d.delay := by
  generalize hstep : p.judge unit op failure = step at h h1 h2 ⊢
  unfold judge at hstep
  split at hstep
  · subst hstep
    exact absurd rfl h1
  · split at hstep
    · subst hstep
      exact absurd rfl h2
    · split at hstep
      · subst hstep
        cases h
      · dsimp only at hstep
        split at hstep
        · subst hstep
          exact absurd rfl h2
        · rename_i htime
          subst hstep
          cases h
          exact ⟨rfl, rfl, htime⟩

theorem decide_cases (p : RetryPolicy) (unit : Float) (op : Operation) :
    (∃ e, p.decide unit op = (op, Action.fail e)) ∨
      ∃ failure, op.state = .attempting ∧ p.decide unit op = p.judge unit op failure := by
  unfold decide
  split
  · exact .inl ⟨_, rfl⟩
  · rename_i hs
    rw [not_or, Decidable.not_not] at hs
    cases hf : op.lastFailure with
    | none => exact .inl ⟨_, rfl⟩
    | some failure => exact .inr ⟨failure, hs.1, rfl⟩

variable {σ ε α : Type}

theorem conclude_nonRetryable (op : Operation) (error : ε) (d : Decision) :
    conclude { op with state := .nonRetryable } error d =
      .error (.nonRetryable error op.attempts) := rfl

theorem conclude_exhausted (op : Operation) (error : ε) (d : Decision) :
    conclude { op with state := .exhausted } error d =
      .error (.exhausted error op.attempts op.elapsed) := rfl

theorem conclude_retrying (op : Operation) (error : ε) (d : Decision) :
    conclude { op with state := .retrying } error d = .ok d := rfl

theorem outcome_of_settle {error : ε} {a : Action Decision} {d : Decision}
    (h : (settle op error a).outcome = .ok (.ok d)) :
    a.outcome = .ok d ∧ op.state ≠ .nonRetryable ∧ op.state ≠ .exhausted := by
  unfold settle at h
  split at h
  · rename_i ho
    have hc := Except.ok.inj h
    unfold conclude at hc
    split at hc
    · cases hc
    · cases hc
    · rename_i h1 h2
      cases hc
      exact ⟨ho, h1, h2⟩
  · rename_i halt _
    cases halt <;> cases h

variable [Classified ε] {error : ε} {elapsed : Duration}

/-- A failure that ends an attempt is noted and then judged. -/
theorem onFailure_of_attempting (h : op.state = .attempting) (h0 : op.attempts ≠ 0) :
    p.onFailure unit op error elapsed =
      ((p.judge unit (op.failed (Classified.failure error) elapsed) (Classified.failure error)).1,
        settle (p.judge unit (op.failed (Classified.failure error) elapsed)
          (Classified.failure error)).1 error
          (p.judge unit (op.failed (Classified.failure error) elapsed)
            (Classified.failure error)).2) := by
  have hr := op.recordFailure_eq h (Classified.failure error) elapsed
  have hd : p.decide unit (op.failed (Classified.failure error) elapsed) =
      p.judge unit (op.failed (Classified.failure error) elapsed) (Classified.failure error) := by
    rw [decide, if_neg]
    · rfl
    · rintro (hs | ha)
      · exact hs h
      · exact h0 ha
  simp only [onFailure, hr, hd]

theorem onFailure_eq (h : op.state = .attempting) (h0 : op.attempts ≠ 0)
    {judged : Operation} {log : List LogRecord} {d : Decision}
    (hj : p.judge unit (op.failed (Classified.failure error) elapsed) (Classified.failure error) =
      (judged, ⟨log, .ok d⟩)) :
    p.onFailure unit op error elapsed = (judged, ⟨log, .ok (conclude judged error d)⟩) := by
  rw [onFailure_of_attempting h h0, hj]
  rfl

/-- A retry is one of the operation as the failure has left it, on the replica that comes next, after a
delay for which there is time. -/
theorem retried_of_onFailure {judged : Operation} {log : List LogRecord} {d : Decision}
    (hs : op.state = .attempting)
    (h : p.onFailure unit op error elapsed = (judged, ⟨log, .ok (.ok d)⟩)) :
    judged = { op.failed (Classified.failure error) elapsed with state := .retrying } ∧
      d.replica = p.nextReplica (op.failed (Classified.failure error) elapsed) ∧
      ¬ p.maxElapsed < elapsed.add d.delay := by
  simp only [onFailure, Operation.recordFailure_eq hs] at h
  obtain ⟨e, hd⟩ | ⟨failure, -, hd⟩ :=
    p.decide_cases unit (op.failed (Classified.failure error) elapsed)
  · rw [hd] at h
    cases h
  · rw [hd] at h
    obtain ⟨rfl, hsettle⟩ := Prod.mk.inj h
    obtain ⟨ho, h1, h2⟩ := outcome_of_settle (congrArg Action.outcome hsettle)
    exact retried_of_judge ho h1 h2

variable {w : World σ ε α} {replica : Replica} {world after : σ}

theorem runFrom_of_success {x : α} (hs : op.startAttempt replica = (op.started replica, .ok ()))
    (ha : w.attempt replica world = (.ok x, after)) :
    p.runFrom w op replica world = ⟨[replica], [], pure (.ok x), after⟩ := by
  rw [runFrom]
  split
  · rename_i halt heq
    rw [hs] at heq
    cases heq
  · simp only [ha, hs]
    rfl

/-- After a failed attempt, a run does what was decided about the failure. -/
theorem runFrom_of_failure {step : Operation × Action (Except (GivingUp ε) Decision)}
    (hs : op.startAttempt replica = (op.started replica, .ok ()))
    (ha : w.attempt replica world = (.error error, after))
    (hf : p.onFailure (w.draw after).1 (op.started replica) error (w.elapsed (w.draw after).2) =
      step) :
    p.runFrom w op replica world =
      match step.2.outcome with
      | .error h => ⟨[replica], [], ⟨step.2.log, .error h⟩, (w.draw after).2⟩
      | .ok (.error g) => ⟨[replica], [], ⟨step.2.log, .ok (.error g)⟩, (w.draw after).2⟩
      | .ok (.ok d) => .after replica d.delay step.2.log
          (p.runFrom w step.1 d.replica (w.sleep d.delay (w.draw after).2)) := by
  subst hf
  rw [runFrom]
  split
  · rename_i halt heq
    rw [hs] at heq
    cases heq
  · simp only [ha, hs]
    split <;> rename_i heq <;> rw [hs] at heq <;> rw [heq]

/-- What comes of an attempt that has failed, with the random number and the time that the world gives. -/
def afterFailure (p : RetryPolicy) (w : World σ ε α) (op : Operation) (error : ε) (world : σ) :
    Operation × Action (Except (GivingUp ε) Decision) :=
  p.onFailure (w.draw world).1 op error (w.elapsed (w.draw world).2)

/-- The turns of a run, from any point on, and the report that it ends with. -/
inductive Turns (p : RetryPolicy) (w : World σ ε α) :
    Operation → Replica → σ → RunReport σ ε α → Prop
  | unstarted {op : Operation} {replica : Replica} {world : σ} {h : Halt}
    (hs : (op.startAttempt replica).2 = .error h) :
    Turns p w op replica world (.stopped h world)
  | succeeded {op : Operation} {replica : Replica} {world after : σ} {x : α}
    (hs : op.startAttempt replica = (op.started replica, .ok ()))
    (ha : w.attempt replica world = (.ok x, after)) :
    Turns p w op replica world ⟨[replica], [], pure (.ok x), after⟩
  | broken {op : Operation} {replica : Replica} {world after : σ} {e : ε} {judged : Operation}
    {log : List LogRecord} {h : Halt}
    (hs : op.startAttempt replica = (op.started replica, .ok ()))
    (ha : w.attempt replica world = (.error e, after))
    (hf : p.afterFailure w (op.started replica) e after = (judged, ⟨log, .error h⟩)) :
    Turns p w op replica world ⟨[replica], [], ⟨log, .error h⟩, (w.draw after).2⟩
  | gaveUp {op : Operation} {replica : Replica} {world after : σ} {e : ε} {judged : Operation}
    {log : List LogRecord} {g : GivingUp ε}
    (hs : op.startAttempt replica = (op.started replica, .ok ()))
    (ha : w.attempt replica world = (.error e, after))
    (hf : p.afterFailure w (op.started replica) e after = (judged, ⟨log, .ok (.error g)⟩)) :
    Turns p w op replica world ⟨[replica], [], ⟨log, .ok (.error g)⟩, (w.draw after).2⟩
  | retried {op : Operation} {replica : Replica} {world after : σ} {e : ε} {judged : Operation}
    {log : List LogRecord} {d : Decision} {report : RunReport σ ε α}
    (hs : op.startAttempt replica = (op.started replica, .ok ()))
    (ha : w.attempt replica world = (.error e, after))
    (hf : p.afterFailure w (op.started replica) e after = (judged, ⟨log, .ok (.ok d)⟩))
    (rest : Turns p w judged d.replica (w.sleep d.delay (w.draw after).2) report) :
    Turns p w op replica world (.after replica d.delay log report)

theorem runFrom_of_unstarted {op : Operation} {halt : Halt}
    (hs : (op.startAttempt replica).2 = .error halt) :
    p.runFrom w op replica world = .stopped halt world := by
  rw [runFrom]
  split
  · rename_i heq
    cases hs.symm.trans heq
    rfl
  · rename_i heq
    cases hs.symm.trans heq

/-- Attempts that are left become fewer with each turn. -/
theorem left_lt {judged : Operation} {log : List LogRecord} {d : Decision}
    (hs : op.startAttempt replica = (op.started replica, .ok ()))
    (hf : p.afterFailure w (op.started replica) error after = (judged, ⟨log, .ok (.ok d)⟩)) :
    p.maxAttempts.toNat - judged.attempts.toNat < p.maxAttempts.toNat - op.attempts.toNat := by
  have hstarted : (op.started replica).attempts.toNat = op.attempts.toNat + 1 := by
    have h := Operation.toNat_attempts_startAttempt (congrArg Prod.snd hs)
    rwa [hs] at h
  have hkept : judged.attempts = (op.started replica).attempts := by
    have h := p.attempts_onFailure (w.draw after).1 (op.started replica) error
      (w.elapsed (w.draw after).2)
    rwa [← afterFailure, hf] at h
  have hlt : (op.started replica).attempts < p.maxAttempts :=
    lt_maxAttempts_of_onFailure (congrArg (fun step => step.2.outcome) hf)
  rw [UInt32.lt_iff_toNat_lt] at hlt
  rw [hkept]
  omega

theorem turns_runFrom (p : RetryPolicy) (w : World σ ε α) (op : Operation) (replica : Replica)
    (world : σ) : p.Turns w op replica world (p.runFrom w op replica world) := by
  generalize hleft : p.maxAttempts.toNat - op.attempts.toNat = left
  induction left using Nat.strongRecOn generalizing op replica world with
  | ind left ih =>
    cases hstart : (op.startAttempt replica).2 with
    | error halt =>
      rw [runFrom_of_unstarted hstart]
      exact .unstarted hstart
    | ok =>
      have hs := Operation.startAttempt_of_ok hstart
      rcases ha : w.attempt replica world with ⟨outcome, after⟩
      cases outcome with
      | ok x =>
        rw [runFrom_of_success hs ha]
        exact .succeeded hs ha
      | error e =>
        rcases hf : p.afterFailure w (op.started replica) e after with ⟨judged, log, outcome⟩
        rw [runFrom_of_failure hs ha hf]
        rcases outcome with halt | g | d
        · exact .broken hs ha hf
        · exact .gaveUp hs ha hf
        · exact .retried hs ha hf (ih _ (hleft ▸ left_lt hs hf) _ _ _ rfl)

end RetryPolicy

end StorageAccess
