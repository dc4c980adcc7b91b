import StorageAccess.Retry.Policy

/-! Running an operation under a policy, from its first attempt until it succeeds or is given up. -/
namespace StorageAccess

/-- What a run deals with. Its state changes with every attempt and every wait. -/
structure World (σ ε α : Type) where
  attempt : Replica → σ → Except ε α × σ
  /-- Time since the run began. -/
  elapsed : σ → Duration
  sleep : Duration → σ → σ
  /-- A random number between zero and one. -/
  draw : σ → Float × σ

/-- How a run went. -/
structure RunReport (σ ε α : Type) where
  /-- Where the attempts went, in order. -/
  replicas : List Replica
  /-- How long the waits between them were. -/
  sleeps : List Duration
  result : Action (Except (GivingUp ε) α)
  world : σ

namespace RunReport

variable {σ ε α : Type}

def stopped (h : Halt) (world : σ) : RunReport σ ε α :=
  ⟨[], [], ⟨[], RetryPolicy.ofHalt h⟩, world⟩

/-- A report with an earlier attempt and wait, and with what was logged between them. -/
def after (replica : Replica) (sleep : Duration) (log : List LogRecord) (r : RunReport σ ε α) :
    RunReport σ ε α :=
  ⟨replica :: r.replicas, sleep :: r.sleeps, ⟨log ++ r.result.log, r.result.outcome⟩, r.world⟩

end RunReport

namespace Operation

theorem toNat_attempts_startAttempt {op : Operation} {replica : Replica}
    (h : (op.startAttempt replica).2 = .ok ()) :
    (op.startAttempt replica).1.attempts.toNat = op.attempts.toNat + 1 := by
  unfold startAttempt at h ⊢
  split at h
  · rename_i hs
    split at h
    · rename_i hlt
      rw [if_pos hs, if_pos hlt, UInt32.toNat_add]
      exact Nat.mod_eq_of_lt hlt
    · cases h
  · cases h

@[simp] theorem attempts_recordFailure (op : Operation) (failure : Failure) (elapsed : Duration) :
    (op.recordFailure failure elapsed).1.attempts = op.attempts := by
  unfold recordFailure
  split <;> rfl

end Operation

namespace RetryPolicy

@[simp] theorem attempts_judge (p : RetryPolicy) (unit : Float) (op : Operation)
    (failure : Failure) : (p.judge unit op failure).1.attempts = op.attempts := by
  unfold judge
  repeat' split
  all_goals rfl

/-- Whoever is not told to stop has attempts left. -/
theorem lt_maxAttempts_of_judge {p : RetryPolicy} {unit : Float} {op : Operation}
    {failure : Failure} (h1 : (p.judge unit op failure).1.state ≠ .nonRetryable)
    (h2 : (p.judge unit op failure).1.state ≠ .exhausted) : op.attempts < p.maxAttempts := by
  unfold judge at h1 h2
  split at h1
  · exact absurd rfl h1
  · rename_i hr
    rw [if_neg hr] at h2
    split at h2
    · exact absurd rfl h2
    · rename_i hmax
      exact UInt32.not_le.mp hmax

@[simp] theorem attempts_decide (p : RetryPolicy) (unit : Float) (op : Operation) :
    (p.decide unit op).1.attempts = op.attempts := by
  unfold decide
  split
  · rfl
  · split
    · rfl
    · exact attempts_judge _ _ _ _

theorem lt_maxAttempts_of_decide {p : RetryPolicy} {unit : Float} {op : Operation} {d : Decision}
    (h : (p.decide unit op).2.outcome = .ok d) (h1 : (p.decide unit op).1.state ≠ .nonRetryable)
    (h2 : (p.decide unit op).1.state ≠ .exhausted) : op.attempts < p.maxAttempts := by
  unfold decide at h h1 h2
  split at h
  · cases h
  · rename_i hs
    rw [if_neg hs] at h1 h2
    split at h
    · cases h
    · rename_i failure hf
      simp only [hf] at h1 h2
      exact lt_maxAttempts_of_judge h1 h2

variable {σ ε α : Type} [Classified ε]

@[simp] theorem attempts_onFailure (p : RetryPolicy) (unit : Float) (op : Operation) (error : ε)
    (elapsed : Duration) : (p.onFailure unit op error elapsed).1.attempts = op.attempts := by
  have hr := op.attempts_recordFailure (Classified.failure error) elapsed
  unfold onFailure
  split
  · rename_i heq
    rwa [heq] at hr
  · rename_i heq
    rw [heq] at hr
    exact (attempts_decide _ _ _).trans hr

/-- An attempt is followed by another one only if there are attempts left. -/
theorem lt_maxAttempts_of_onFailure {p : RetryPolicy} {unit : Float} {op : Operation} {error : ε}
    {elapsed : Duration} {d : Decision}
    (h : (p.onFailure unit op error elapsed).2.outcome = .ok (.ok d)) :
    op.attempts < p.maxAttempts := by
  have hr := op.attempts_recordFailure (Classified.failure error) elapsed
  unfold onFailure at h
  split at h
  · rename_i halt _
    cases halt <;> cases h
  · rename_i op1 heq
    rw [heq] at hr
    rw [← hr]
    simp only [settle] at h
    split at h
    · rename_i d' hout
      refine lt_maxAttempts_of_decide hout ?_ ?_
      · intro hs
        simp [conclude, hs] at h
      · intro hs
        simp [conclude, hs] at h
    · rename_i halt _
      cases halt <;> cases h

/-- Continues a run with the next attempt. -/
def runFrom (p : RetryPolicy) (w : World σ ε α) (op : Operation) (replica : Replica) (world : σ) :
    RunReport σ ε α :=
  let op1 := (op.startAttempt replica).1
  match _hs : (op.startAttempt replica).2 with
  | .error h => .stopped h world
  | .ok () =>
    match w.attempt replica world with
    | (.ok x, world) =>
      match (op1.recordSuccess (w.elapsed world)).2 with
      | .ok () => ⟨[replica], [], pure (.ok x), world⟩
      | .error h => ⟨[replica], [], ⟨[], ofHalt h⟩, world⟩
    | (.error e, world) =>
      let unit := (w.draw world).1
      let world := (w.draw world).2
      let step := p.onFailure unit op1 e (w.elapsed world)
      match _ha : step.2.outcome with
      | .error h => ⟨[replica], [], ⟨step.2.log, .error h⟩, world⟩
      | .ok (.error g) => ⟨[replica], [], ⟨step.2.log, .ok (.error g)⟩, world⟩
      | .ok (.ok d) =>
        .after replica d.delay step.2.log (runFrom p w step.1 d.replica (w.sleep d.delay world))
termination_by p.maxAttempts.toNat - op.attempts.toNat
decreasing_by
  have h1 := Operation.toNat_attempts_startAttempt _hs
  have h2 : (op.startAttempt replica).1.attempts.toNat < p.maxAttempts.toNat :=
    UInt32.lt_iff_toNat_lt.mp (lt_maxAttempts_of_onFailure _ha)
  rw [attempts_onFailure]
  change p.maxAttempts.toNat - (op.startAttempt replica).1.attempts.toNat < _
  omega

/-- Makes attempts until one succeeds or the policy gives up. The first goes to the primary replica. -/
def run (p : RetryPolicy) (w : World σ ε α) (readOnly : Bool) (world : σ) : RunReport σ ε α :=
  p.runFrom w (.fresh readOnly) .primary world

end RetryPolicy

end StorageAccess
