import StorageAccess.Proofs.Retry.Step

/-! What a run does, told without its states. Let every failed attempt be followed by a delay and
another attempt, without end; the run is this unlimited one up to the first attempt that ends it. -/
namespace StorageAccess

theorem toNat_toUInt32 {n : Nat} {max : UInt32} (h : n < max.toNat) :
    (n + 1).toUInt32.toNat = n + 1 := by
  have hmax := max.toNat_lt
  have hsize : UInt32.size = 4_294_967_296 := rfl
  exact UInt32.toNat_ofNat_of_lt' (by omega)

/-- Where an unlimited run stands before an attempt. -/
structure Stage (σ : Type) where
  replica : Replica
  /-- Whether the secondary replica has answered 404 before. -/
  notFound : Bool
  world : σ

structure UnlimitedRun (σ ε α : Type) where
  policy : RetryPolicy
  world : World σ ε α
  readOnly : Bool
  start : σ

namespace UnlimitedRun

variable {σ ε α : Type} [Classified ε] (r : UnlimitedRun σ ε α)

/-- The delay after `n + 1` failed attempts. -/
def bound (n : Nat) : Duration := r.policy.backoff.bound (n + 1).toUInt32

/-- The world after an attempt, and after the random number that a failure takes. -/
def worldAfter (s : Stage σ) : σ := (r.world.draw (r.world.attempt s.replica s.world).2).2

/-- The attempt that is made there. -/
def attempt (s : Stage σ) : Attempt ε α := ⟨s.replica, (r.world.attempt s.replica s.world).1⟩

/-- Reads alternate between the replicas, if that is wanted, until one was not found. -/
def nextReplica (replica : Replica) (notFound : Bool) : Replica :=
  if r.policy.secondaryReads && r.readOnly && !notFound then replica.other else .primary

/-- Where the run stands after `n` attempts. -/
def stage : Nat → Stage σ
  | 0 => ⟨.primary, false, r.start⟩
  | n + 1 =>
    let s := stage n
    let notFound := s.notFound || (r.attempt s).isNotFound
    ⟨r.nextReplica s.replica notFound, notFound, r.world.sleep (r.bound n) (r.worldAfter s)⟩

/-- What comes of the attempt after `n` others. -/
def outcome (n : Nat) : Except ε α := (r.attempt (r.stage n)).outcome

/-- The time that has passed when that attempt has failed. -/
def elapsed (n : Nat) : Duration := r.world.elapsed (r.worldAfter (r.stage n))

/-- Whether a failure of that attempt is one that stays: no other attempt may help, and it is not a
read that the secondary replica answered with 404. -/
def isLasting (n : Nat) (failure : Failure) : Bool :=
  !failure.isTransient &&
    !(r.readOnly && (r.stage n).replica == .secondary && failure == .status 404)

/-- Whether the attempt after `n` others is the last: it succeeds, it fails for good, it is the last
that is allowed, or the delay after it would take too long. -/
def EndsAt (n : Nat) : Prop :=
  match r.outcome n with
  | .ok _ => True
  | .error e => r.isLasting n (Classified.failure e) = true ∨ n + 1 = r.policy.maxAttempts.toNat ∨
      r.policy.maxElapsed < (r.elapsed n).add (r.bound n)

/-- What a run that ends there has to show. -/
def verdict (n : Nat) : Except (GivingUp ε) α :=
  match r.outcome n with
  | .ok x => .ok x
  | .error e =>
    if r.isLasting n (Classified.failure e) then .error (.nonRetryable e (n + 1).toUInt32)
    else .error (.exhausted e (n + 1).toUInt32 (r.elapsed n))

/-- What is known of an operation after `n` attempts of a run. -/
structure Tracks (n : Nat) (op : Operation) : Prop where
  ready : op.IsReady
  attempts : op.attempts.toNat = n
  readOnly : op.readOnly = r.readOnly
  notFound : op.secondaryNotFound = (r.stage n).notFound

variable {r} {n : Nat} {op : Operation}

theorem tracks_fresh : r.Tracks 0 (.fresh r.readOnly) := ⟨.inl rfl, rfl, rfl, rfl⟩

def reportFrom (r : UnlimitedRun σ ε α) (n : Nat) (op : Operation) : RunReport σ ε α :=
  r.policy.runFrom r.world op (r.stage n).replica (r.stage n).world

theorem startAttempt_of_tracks (ht : r.Tracks n op) (hn : n < r.policy.maxAttempts.toNat) :
    op.startAttempt (r.stage n).replica = (op.started (r.stage n).replica, .ok ()) := by
  have hmax := r.policy.maxAttempts.toNat_lt
  have hattempts := ht.attempts
  exact Operation.startAttempt_eq ht.ready (by omega) _

def failedOperation (r : UnlimitedRun σ ε α) (n : Nat) (op : Operation) (failure : Failure) :
    Operation :=
  (op.started (r.stage n).replica).failed failure (r.elapsed n)

theorem attempts_failedOperation (ht : r.Tracks n op) (failure : Failure) :
    (r.failedOperation n op failure).attempts = (n + 1).toUInt32 := by
  change op.attempts + 1 = (n + 1).toUInt32
  rw [← UInt32.toNat_inj, UInt32.toNat_add, ht.attempts]
  simp

theorem isLasting_failedOperation (ht : r.Tracks n op) (failure : Failure) :
    RetryPolicy.isLasting (r.failedOperation n op failure) failure = r.isLasting n failure := by
  have hr : (r.failedOperation n op failure).readOnly = r.readOnly := ht.readOnly
  rw [RetryPolicy.isLasting, isLasting, RetryPolicy.isRedirected, hr, Bool.and_comm]
  rfl

theorem secondaryNotFound_failedOperation (ht : r.Tracks n op) {e : ε}
    (ho : r.outcome n = .error e) :
    (r.failedOperation n op (Classified.failure e)).secondaryNotFound =
      (r.stage (n + 1)).notFound := by
  have hs : (r.attempt (r.stage n)).isNotFound =
      (Classified.failure e).isNotFoundOn (r.stage n).replica := by
    unfold outcome at ho
    rw [Attempt.isNotFound, ho]
    rfl
  rw [stage, hs, ← ht.notFound]
  rfl

theorem tracks_failedOperation (ht : r.Tracks n op) (hn : n < r.policy.maxAttempts.toNat) {e : ε}
    (ho : r.outcome n = .error e) :
    r.Tracks (n + 1)
      { r.failedOperation n op (Classified.failure e) with state := .retrying } where
  ready := .inr rfl
  attempts := by
    change (r.failedOperation n op (Classified.failure e)).attempts.toNat = n + 1
    rw [attempts_failedOperation ht, toNat_toUInt32 hn]
  readOnly := ht.readOnly
  notFound := secondaryNotFound_failedOperation ht ho

theorem nextReplica_failedOperation (ht : r.Tracks n op) {e : ε} (ho : r.outcome n = .error e) :
    r.policy.nextReplica (r.failedOperation n op (Classified.failure e)) =
      (r.stage (n + 1)).replica := by
  have hr : (r.failedOperation n op (Classified.failure e)).readOnly = r.readOnly := ht.readOnly
  rw [RetryPolicy.nextReplica, secondaryNotFound_failedOperation ht ho, hr]
  rfl

/-- Whether nothing random is in the delays. -/
def IsSteady (b : Strategy) : Prop := ∀ retry unit, b.delay retry unit = .ok (b.bound retry)

theorem isSteady_of_jitter {b : Backoff} (h : b.jitter ≤ 0.0) : IsSteady b := by
  intro retry unit
  change b.delay retry unit = .ok (b.bound retry)
  simp [Backoff.delay, h]

theorem attempt_eq (n : Nat) : r.world.attempt (r.stage n).replica (r.stage n).world =
    (r.outcome n, (r.world.attempt (r.stage n).replica (r.stage n).world).2) := rfl

section failure

variable {e : ε} {unit : Float}

theorem onFailure_of_judge (ht : r.Tracks n op) (hn : n < r.policy.maxAttempts.toNat)
    {judged : Operation} {log : List LogRecord} {d : Decision}
    (hjudge : r.policy.judge unit (r.failedOperation n op (Classified.failure e))
      (Classified.failure e) = (judged, ⟨log, .ok d⟩)) :
    r.policy.onFailure unit (op.started (r.stage n).replica) e (r.elapsed n) =
      (judged, ⟨log, .ok (RetryPolicy.conclude judged e d)⟩) := by
  have h0 : (op.started (r.stage n).replica).attempts ≠ 0 := by
    intro h
    have hattempts := congrArg UInt32.toNat
      ((attempts_failedOperation ht (Classified.failure e)).symm.trans h)
    rw [toNat_toUInt32 hn] at hattempts
    cases hattempts
  exact RetryPolicy.onFailure_eq rfl h0 hjudge

theorem delay_failedOperation (unit : Float) (hj : IsSteady r.policy.backoff) (ht : r.Tracks n op) :
    r.policy.backoff.delay (r.failedOperation n op (Classified.failure e)).attempts unit =
      .ok (r.bound n) := by
  rw [hj, attempts_failedOperation ht]
  rfl

theorem maxAttempts_le_iff (ht : r.Tracks n op) (hn : n < r.policy.maxAttempts.toNat) :
    r.policy.maxAttempts ≤ (r.failedOperation n op (Classified.failure e)).attempts ↔
      n + 1 = r.policy.maxAttempts.toNat := by
  rw [UInt32.le_iff_toNat_le, attempts_failedOperation ht, toNat_toUInt32 hn]
  omega

/-- A failure that ends the run makes it give up, in the way that the verdict says. -/
theorem onFailure_of_endsAt (hj : IsSteady r.policy.backoff) (ht : r.Tracks n op)
    (hn : n < r.policy.maxAttempts.toNat) (ho : r.outcome n = .error e) (he : r.EndsAt n) :
    ∃ judged log g, r.verdict n = .error g ∧
      r.policy.onFailure unit (op.started (r.stage n).replica) e (r.elapsed n) =
        (judged, ⟨log, .ok (.error g)⟩) := by
  have hattempts := attempts_failedOperation ht (Classified.failure e)
  unfold EndsAt at he
  unfold verdict
  simp only [ho] at he ⊢
  cases hl : r.isLasting n (Classified.failure e) with
  | true =>
    rw [← isLasting_failedOperation ht] at hl
    obtain ⟨log, d, hjudge⟩ := RetryPolicy.judge_of_lasting r.policy unit hl
    have hf := onFailure_of_judge ht hn hjudge
    rw [RetryPolicy.conclude_nonRetryable, hattempts] at hf
    exact ⟨_, log, _, rfl, hf⟩
  | false =>
    rw [hl] at he
    rw [← isLasting_failedOperation ht] at hl
    have hstop := he.resolve_left Bool.false_ne_true
    rw [← maxAttempts_le_iff ht hn] at hstop
    obtain ⟨log, d, hjudge⟩ :=
      RetryPolicy.judge_of_exhausted hl (delay_failedOperation unit hj ht) hstop
    have hf := onFailure_of_judge ht hn hjudge
    rw [RetryPolicy.conclude_exhausted, hattempts] at hf
    exact ⟨_, log, _, rfl, hf⟩

/-- A failure that does not end the run is followed by the delay and the attempt of the next stage. -/
theorem onFailure_of_not_endsAt (hj : IsSteady r.policy.backoff) (ht : r.Tracks n op)
    (hn : n < r.policy.maxAttempts.toNat) (ho : r.outcome n = .error e) (he : ¬ r.EndsAt n) :
    ∃ judged log d, r.Tracks (n + 1) judged ∧ d.delay = r.bound n ∧
      d.replica = (r.stage (n + 1)).replica ∧
      r.policy.onFailure unit (op.started (r.stage n).replica) e (r.elapsed n) =
        (judged, ⟨log, .ok (.ok d)⟩) := by
  unfold EndsAt at he
  simp only [ho, not_or] at he
  obtain ⟨hl, hmax, htime⟩ := he
  rw [← isLasting_failedOperation ht, Bool.not_eq_true] at hl
  rw [← maxAttempts_le_iff ht hn] at hmax
  obtain ⟨log, reason, hjudge⟩ :=
    RetryPolicy.judge_of_retried hl (delay_failedOperation unit hj ht) hmax htime
  have hf := onFailure_of_judge ht hn hjudge
  rw [RetryPolicy.conclude_retrying] at hf
  exact ⟨_, log, _, tracks_failedOperation ht hn ho, rfl, nextReplica_failedOperation ht ho, hf⟩

end failure

/-- A run that gets to its last attempt makes it and reports what it comes to. -/
theorem reportFrom_of_endsAt (hj : IsSteady r.policy.backoff) (ht : r.Tracks n op)
    (hn : n < r.policy.maxAttempts.toNat) (he : r.EndsAt n) :
    (r.reportFrom n op).replicas = [(r.stage n).replica] ∧ (r.reportFrom n op).sleeps = [] ∧
      (r.reportFrom n op).result.outcome = .ok (r.verdict n) := by
  have hstart := startAttempt_of_tracks ht hn
  have ha := r.attempt_eq n
  cases ho : r.outcome n with
  | ok x =>
    rw [ho] at ha
    rw [reportFrom, RetryPolicy.runFrom_of_success hstart ha, verdict, ho]
    exact ⟨rfl, rfl, rfl⟩
  | error e =>
    rw [ho] at ha
    obtain ⟨judged, log, g, hg, hf⟩ := onFailure_of_endsAt hj ht hn ho he
    rw [reportFrom, RetryPolicy.runFrom_of_failure hstart ha hf, hg]
    exact ⟨rfl, rfl, rfl⟩

/-- A run that gets to any other attempt makes it, waits, and goes on from the next stage. -/
theorem reportFrom_of_not_endsAt (hj : IsSteady r.policy.backoff) (ht : r.Tracks n op)
    (hn : n < r.policy.maxAttempts.toNat) (he : ¬ r.EndsAt n) :
    ∃ op' log, r.Tracks (n + 1) op' ∧ r.reportFrom n op =
      .after (r.stage n).replica (r.bound n) log (r.reportFrom (n + 1) op') := by
  have hstart := startAttempt_of_tracks ht hn
  have ha := r.attempt_eq n
  cases ho : r.outcome n with
  | ok x =>
    refine absurd ?_ he
    rw [EndsAt, ho]
    trivial
  | error e =>
    rw [ho] at ha
    obtain ⟨judged, log, d, htracks, hdelay, hreplica, hf⟩ := onFailure_of_not_endsAt hj ht hn ho he
    refine ⟨judged, log, htracks, ?_⟩
    rw [reportFrom, RetryPolicy.runFrom_of_failure hstart ha hf]
    simp only [hdelay, hreplica]
    rfl

theorem endsAt_of_last (h : n + 1 = r.policy.maxAttempts.toNat) : r.EndsAt n := by
  unfold EndsAt
  split
  · trivial
  · exact .inr (.inl h)

/-- From any stage on, the run makes the attempts of the unlimited one up to the first that ends it. -/
theorem reportFrom_refines (hj : IsSteady r.policy.backoff) (ht : r.Tracks n op)
    (hn : n < r.policy.maxAttempts.toNat) :
    ∃ d, r.EndsAt (n + d) ∧ (∀ m < d, ¬ r.EndsAt (n + m)) ∧
      n + d < r.policy.maxAttempts.toNat ∧
      (r.reportFrom n op).replicas = (List.range' n (d + 1)).map (fun m => (r.stage m).replica) ∧
      (r.reportFrom n op).sleeps = (List.range' n d).map r.bound ∧
      (r.reportFrom n op).result.outcome = .ok (r.verdict (n + d)) := by
  -- attempts that are left bound the run, since the last of them always ends it
  generalize hleft : r.policy.maxAttempts.toNat - n = left
  induction left generalizing n op with
  | zero => omega
  | succ left ih =>
    by_cases he : r.EndsAt n
    · obtain ⟨hreplicas, hsleeps, hresult⟩ := reportFrom_of_endsAt hj ht hn he
      exact ⟨0, he, fun _ hm => absurd hm (Nat.not_lt_zero _), hn, hreplicas, hsleeps, hresult⟩
    · have hnext : n + 1 < r.policy.maxAttempts.toNat :=
        Nat.lt_of_le_of_ne hn fun hlast => he (endsAt_of_last hlast)
      obtain ⟨op', log, htracks, hreport⟩ := reportFrom_of_not_endsAt hj ht hn he
      obtain ⟨d, hends, hfirst, hlt, hreplicas, hsleeps, hresult⟩ := ih htracks hnext (by omega)
      have hassoc : n + (d + 1) = n + 1 + d := by omega
      refine ⟨d + 1, by rwa [hassoc], ?_, by omega, ?_, ?_, ?_⟩
      · intro m hm
        cases m with
        | zero => exact he
        | succ m =>
          rw [show n + (m + 1) = n + 1 + m by omega]
          exact hfirst m (by omega)
      · rw [hreport, List.range'_succ, List.map_cons, ← hreplicas]
        rfl
      · rw [hreport, List.range'_succ, List.map_cons, ← hsleeps]
        rfl
      · rw [hreport, hassoc]
        exact hresult

theorem le_of_beq {x y : Float} (h : (x == y) = true) : x ≤ y := by
  have hc : x.toModel.unpack.compare y.toModel.unpack = some .eq := beq_iff_eq.mp h
  have hl : x.toModel.unpack.le y.toModel.unpack = true := by
    unfold Float.Model.UnpackedFloat.le
    rw [hc]
    rfl
  exact decide_eq_true hl

theorem ofOptions_eq_ok {o : RetryOptions} {p : RetryPolicy}
    (h : RetryPolicy.ofOptions o = .ok p) : 0 < p.maxAttempts.toNat ∧ p.backoff = o.backoff := by
  obtain ⟨⟨⟩, hvalid, h⟩ := bind_eq_ok.mp h
  rw [pure_eq_ok.mp h]
  refine ⟨?_, rfl⟩
  unfold RetryOptions.validate at hvalid
  split at hvalid
  · cases hvalid
  · rename_i hzero
    exact Nat.pos_of_ne_zero fun h0 => hzero (UInt32.toNat_inj.mp h0)

/-- Without jitter, a run under valid options is the unlimited one up to the first attempt that ends it,
and there is such an attempt among those that are allowed. -/
theorem run_refines (r : UnlimitedRun σ ε α) {o : RetryOptions}
    (hp : RetryPolicy.ofOptions o = .ok r.policy) (hj : (o.jitter == 0.0) = true) :
    ∃ n, r.EndsAt n ∧ (∀ m < n, ¬ r.EndsAt m) ∧ n < r.policy.maxAttempts.toNat ∧
      (r.policy.run r.world r.readOnly r.start).replicas =
        (List.range (n + 1)).map (fun m => (r.stage m).replica) ∧
      (r.policy.run r.world r.readOnly r.start).sleeps = (List.range n).map r.bound ∧
      (r.policy.run r.world r.readOnly r.start).result.outcome = .ok (r.verdict n) := by
  obtain ⟨hpos, hbackoff⟩ := ofOptions_eq_ok hp
  have hsteady : IsSteady r.policy.backoff := by
    rw [hbackoff]
    exact isSteady_of_jitter (le_of_beq hj)
  obtain ⟨d, hends, hfirst, hlt, hreplicas, hsleeps, hresult⟩ :=
    reportFrom_refines hsteady (tracks_fresh (r := r)) hpos
  simp only [Nat.zero_add, ← List.range_eq_range'] at hends hfirst hlt hreplicas hsleeps hresult
  exact ⟨d, hends, hfirst, hlt, hreplicas, hsleeps, hresult⟩

/-- A world where attempts come out as given one after the other, and where the clock shows the given
times after them. -/
def scripted (outcomes : Nat → Except ε α) (times : Nat → Duration) : World Nat ε α where
  attempt _ n := (outcomes n, n + 1)
  elapsed := times
  sleep _ n := n
  draw n := (0.5, n)

/-- Any outcomes and any times are those of an unlimited run. -/
theorem outcome_scripted (p : RetryPolicy) (readOnly : Bool) (outcomes : Nat → Except ε α)
    (times : Nat → Duration) (n : Nat) :
    outcome ⟨p, scripted outcomes times, readOnly, 0⟩ n = outcomes n ∧
      elapsed ⟨p, scripted outcomes times, readOnly, 0⟩ n = times (n + 1) := by
  have hworld : (stage ⟨p, scripted outcomes times, readOnly, 0⟩ n).world = n := by
    induction n with
    | zero => rfl
    | succ n ih => exact congrArg (· + 1) ih
  constructor
  · exact congrArg outcomes hworld
  · exact congrArg (fun k => times (k + 1)) hworld

def steadyOptions : RetryOptions := { RetryOptions.standard with jitter := 0.0 }

/-- A run whose first attempt gets no answer. -/
def recoveringRun : UnlimitedRun Nat Failure String where
  policy := ⟨steadyOptions.backoff, 4, .ofSeconds 120, false⟩
  world := scripted (fun n => if n = 0 then .error .timeout else .ok "done") fun _ => .ofSeconds 1
  readOnly := true
  start := 0

theorem run_refines_recoveringRun :
    ∃ n, recoveringRun.EndsAt n ∧ (∀ m < n, ¬ recoveringRun.EndsAt m) ∧ n < 4 ∧
      (recoveringRun.policy.run recoveringRun.world true 0).replicas =
        (List.range (n + 1)).map (fun m => (recoveringRun.stage m).replica) ∧
      (recoveringRun.policy.run recoveringRun.world true 0).sleeps =
        (List.range n).map recoveringRun.bound ∧
      (recoveringRun.policy.run recoveringRun.world true 0).result.outcome =
        .ok (recoveringRun.verdict n) :=
  run_refines recoveringRun (o := steadyOptions) rfl (by decide +kernel)

end UnlimitedRun

end StorageAccess
