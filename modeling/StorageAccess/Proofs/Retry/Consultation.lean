import StorageAccess.Proofs.Retry.Lifecycle

/-! Which failures a policy judges. A policy is meant to be asked about an attempt that has failed. Before
the first failure of an operation it refuses to judge; from the second attempt on it may be asked at once,
and judges the failure of an earlier attempt. -/
namespace StorageAccess

/-- A call and what the caller was told. -/
abbrev Exchange := Call × Reply

namespace Exchange

/-- The failure that was noted, if the call was made to note one and was not refused. -/
def noted? : Exchange → Option Failure
  | (.recordFailure failure _, .noted) => some failure
  | (@Call.onFailure _ _ _ _ error _, reply) =>
    if reply.isMove then some (Classified.failure error) else none
  | _ => none

/-- What happened since the last attempt began, the latest first. -/
def sinceStart (past : List Exchange) : List Exchange :=
  past.reverse.takeWhile fun exchange => decide (exchange.2 ≠ .begun)

/-- Whether a failure was noted since the last attempt began. -/
def isFailed (past : List Exchange) : Bool := (sinceStart past).any fun exchange => exchange.noted?.isSome

/-- The failure that was noted last, in whichever attempt. -/
def lastNoted? (past : List Exchange) : Option Failure := (past.filterMap noted?).getLast?

theorem noted?_of_refused {exchange : Exchange} {e : Error} (h : exchange.2 = .refused e) :
    exchange.noted? = none := by
  obtain ⟨call, reply⟩ := exchange
  cases h
  cases call <;> rfl

theorem isFailed_append (past : List Exchange) (exchange : Exchange) :
    isFailed (past ++ [exchange]) =
      (decide (exchange.2 ≠ .begun) && (exchange.noted?.isSome || isFailed past)) := by
  by_cases h : exchange.2 = .begun <;> simp [isFailed, sinceStart, h]

theorem lastNoted?_append (past : List Exchange) (exchange : Exchange) :
    lastNoted? (past ++ [exchange]) = exchange.noted?.or (lastNoted? past) := by
  cases h : exchange.noted? <;> simp [lastNoted?, h]

end Exchange

namespace RetryPolicy

variable {p : RetryPolicy} {op op' : Operation} {unit : Float} {failure : Failure}

theorem decide_of_failure (hs : op.state = .attempting) (h0 : op.attempts ≠ 0)
    (hf : op.lastFailure = some failure) : p.decide unit op = p.judge unit op failure := by
  rw [decide, if_neg (not_or.mpr ⟨not_not_intro hs, h0⟩), hf]

theorem decide_of_ne (hs : op.state ≠ .attempting) :
    p.decide unit op = (op, Action.fail (consultedEarly op)) :=
  if_pos (.inl hs)

theorem decide_of_none (p : RetryPolicy) (unit : Float) (hf : op.lastFailure = none) :
    ∃ e, p.decide unit op = (op, Action.fail e) := by
  unfold decide
  split
  · exact ⟨_, rfl⟩
  · rw [hf]
    exact ⟨_, rfl⟩

theorem Judged.lastFailure {outcome : Except Halt Decision} (h : p.Judged op op' outcome) :
    op'.lastFailure = op.lastFailure := by
  cases h <;> rfl

end RetryPolicy

namespace Operation

variable {op op' : Operation} {n : Nat} {past : List Exchange}

/-- Only noting a failure changes which failure is known. -/
theorem IsLed.lastFailure_perform (h : op.IsLed n) (call : Call) :
    (call.perform op).1.lastFailure =
      (Exchange.noted? (call, (call.perform op).2)).or op.lastFailure := by
  cases call with
  | startAttempt replica =>
    by_cases hr : op.IsReady
    · have hlt := h.lt_of_isReady hr
      rw [Call.perform, startAttempt_eq hr (by omega)]
      rfl
    · rw [Call.perform, startAttempt_of_not_isReady hr]
      rfl
  | recordSuccess elapsed =>
    by_cases hs : op.state = .attempting
    · rw [Call.perform, recordSuccess, if_pos hs]
      rfl
    · rw [Call.perform, recordSuccess, if_neg hs]
      rfl
  | recordFailure failure elapsed =>
    by_cases hs : op.state = .attempting
    · rw [Call.perform, recordFailure_eq hs]
      rfl
    · rw [Call.perform, recordFailure_of_ne hs]
      rfl
  | decide p unit =>
    obtain ⟨e, hd⟩ | ⟨failure, -, hd⟩ := p.decide_cases unit op
    · rw [Call.perform, hd]
      rfl
    · rw [Call.perform, hd]
      exact (p.judged_judge unit op failure).lastFailure
  | onFailure p unit error elapsed =>
    by_cases hs : op.state = .attempting
    · rw [Call.perform, RetryPolicy.onFailure_of_attempting hs (h.attempts_ne_zero hs)]
      have hj := p.judged_judge unit (op.failed (Classified.failure error) elapsed)
        (Classified.failure error)
      rw [Exchange.noted?, if_pos (Reply.isMove_settle hj)]
      exact hj.lastFailure
    · rw [Call.perform, RetryPolicy.onFailure, recordFailure_of_ne hs]
      rfl

/-- A retry is granted after a failure only. -/
theorem IsLed.isSome_of_retrying (h : op.IsLed n) (hs : op.state = .attempting) (call : Call)
    (hr : (call.perform op).1.state = .retrying) :
    (call.perform op).1.lastFailure.isSome = true := by
  rw [h.lastFailure_perform]
  cases call with
  | startAttempt replica =>
    rw [Call.perform, startAttempt_of_not_isReady (by simp [IsReady, hs])] at hr
    cases hs.symm.trans hr
  | recordSuccess elapsed =>
    rw [Call.perform, recordSuccess, if_pos hs] at hr
    cases hr
  | recordFailure failure elapsed =>
    rw [Call.perform, recordFailure_eq hs] at hr
    cases hs.symm.trans hr
  | decide p unit =>
    cases hf : op.lastFailure with
    | none =>
      obtain ⟨e, hd⟩ := p.decide_of_none unit hf
      rw [Call.perform, hd] at hr
      cases hs.symm.trans hr
    | some failure => rfl
  | onFailure p unit error elapsed =>
    rw [Call.perform, RetryPolicy.onFailure_of_attempting hs (h.attempts_ne_zero hs)]
    have hj := p.judged_judge unit (op.failed (Classified.failure error) elapsed)
      (Classified.failure error)
    rw [Exchange.noted?, if_pos (Reply.isMove_settle hj)]
    rfl

/-- What an operation knows of the failures in its past. The attempt that failed is forgotten: to have got
to a second attempt is as good as a failure of the one under way. -/
structure Remembers (op : Operation) (past : List Exchange) : Prop where
  lastFailure : op.lastFailure = Exchange.lastNoted? past
  none_of_notStarted : op.state = .notStarted → op.lastFailure = none
  isSome_of_retrying : op.state = .retrying → op.lastFailure.isSome = true
  isSome_iff : op.lastFailure.isSome = true ↔ 2 ≤ op.attempts.toNat ∨ Exchange.isFailed past = true

theorem remembers_fresh (readOnly : Bool) : (fresh readOnly).Remembers [] :=
  ⟨rfl, fun _ => rfl, nofun, by simp [fresh, Exchange.isFailed, Exchange.sinceStart]⟩

theorem Remembers.step (hr : op.Remembers past) (h : op.IsLed n) (call : Call) :
    (call.perform op).1.Remembers (past ++ [(call, (call.perform op).2)]) := by
  have hlast := h.lastFailure_perform call
  have hretrying := fun hs => h.isSome_of_retrying hs call
  have hsteps := h.steps_perform call
  generalize hexchange : (call, (call.perform op).2) = exchange at hlast ⊢
  have hreply : (call.perform op).2 = exchange.2 := congrArg Prod.snd hexchange
  generalize (call.perform op).1 = op' at *
  have hfailure : op'.lastFailure = Exchange.lastNoted? (past ++ [exchange]) := by
    rw [hlast, Exchange.lastNoted?_append, hr.lastFailure]
  rw [hreply] at hsteps
  generalize hbegun : exchange.2 = reply at hsteps
  cases hsteps with
  | refused e =>
    refine ⟨hfailure, hr.none_of_notStarted, hr.isSome_of_retrying, ?_⟩
    rw [Exchange.isFailed_append, Exchange.noted?_of_refused hbegun, hbegun, hr.isSome_iff]
    simp
  | begun replica hready hlt =>
    refine ⟨hfailure, nofun, nofun, ?_⟩
    rw [Exchange.isFailed_append, hbegun, attempts_started hlt]
    obtain hs | hs := hready
    · have hzero := h.attempts.trans (h.eq_zero_iff.mpr hs)
      simp [started, hr.none_of_notStarted hs, hzero]
    · have hknown := hr.isSome_of_retrying hs
      have hpos : op.attempts.toNat ≠ 0 := fun h0 => by
        cases hs.symm.trans (h.eq_zero_iff.mp (h.attempts.symm.trans h0))
      exact ⟨fun _ => .inl (by omega), fun _ => hknown⟩
  | moved hm hmove =>
    have hne : exchange.2 ≠ .begun := by
      rw [hbegun]
      rintro rfl
      cases hmove
    refine ⟨hfailure, fun hs => ?_, hretrying hm.attempting, ?_⟩
    · obtain hstate | hstate := hm.state
      · cases hs.symm.trans hstate
      · rw [hs] at hstate
        cases hstate
    · rw [Exchange.isFailed_append, hlast, Option.isSome_or, hm.attempts, decide_eq_true hne,
        Bool.true_and, Bool.or_eq_true, Bool.or_eq_true, hr.isSome_iff]
      exact or_left_comm

/-- What callers did, and what they were told. -/
def exchanges (op : Operation) (calls : List Call) : List Exchange := calls.zip (op.replies calls)

theorem Remembers.after (hr : op.Remembers past) (h : op.IsLed n) (calls : List Call) :
    (op.after calls).Remembers (past ++ op.exchanges calls) := by
  induction calls generalizing op n past with
  | nil =>
    rw [exchanges, List.zip_nil_left, List.append_nil]
    exact hr
  | cons call calls ih =>
    have hrest := ih (hr.step h call) (h.step (h.steps_perform call))
    rwa [List.append_assoc] at hrest

/-- Whether a policy judges an operation with this past: in a first attempt only once it has failed, and in
a later one at any time. -/
def IsJudged (op : Operation) (past : List Exchange) : Prop :=
  op.state = .attempting ∧ (2 ≤ op.attempts.toNat ∨ Exchange.isFailed past = true)

/-- What is judged is the failure that was noted last. If nothing is judged, nothing changes. -/
theorem decide_after (readOnly : Bool) (calls : List Call) (p : RetryPolicy) (unit : Float) :
    (((fresh readOnly).after calls).IsJudged ((fresh readOnly).exchanges calls) →
      ∃ failure, Exchange.lastNoted? ((fresh readOnly).exchanges calls) = some failure ∧
        p.decide unit ((fresh readOnly).after calls) =
          p.judge unit ((fresh readOnly).after calls) failure) ∧
    (¬ ((fresh readOnly).after calls).IsJudged ((fresh readOnly).exchanges calls) →
      ∃ e, p.decide unit ((fresh readOnly).after calls) =
        ((fresh readOnly).after calls, Action.fail e)) := by
  have hled := (isLed_fresh readOnly).after calls
  have hr := (remembers_fresh readOnly).after (isLed_fresh readOnly) calls
  rw [List.nil_append] at hr
  generalize (fresh readOnly).after calls = op at hled hr ⊢
  rw [IsJudged, ← hr.isSome_iff, ← hr.lastFailure]
  constructor
  · rintro ⟨hs, hsome⟩
    obtain ⟨failure, hf⟩ := Option.isSome_iff_exists.mp hsome
    exact ⟨failure, hf, RetryPolicy.decide_of_failure hs (hled.attempts_ne_zero hs) hf⟩
  · intro hnot
    by_cases hs : op.state = .attempting
    · have hf : op.lastFailure = none := by simpa [hs] using hnot
      exact p.decide_of_none unit hf
    · exact ⟨_, RetryPolicy.decide_of_ne hs⟩

def patientPolicy : RetryPolicy :=
  ⟨(⟨.linear, .zero, .zero, 0.0⟩ : Backoff), 3, .longest, false⟩

/-- The first attempt fails, and the second has just begun. -/
def restartedCalls : List Call :=
  [.startAttempt .primary, .recordFailure .timeout .zero, .decide patientPolicy 0.5,
    .startAttempt .primary]

/-- A policy judges an attempt that has not failed. -/
theorem decide_restartedCalls :
    ∃ d, (patientPolicy.decide 0.5 ((fresh false).after restartedCalls)).2.outcome = .ok d ∧
      Exchange.isFailed ((fresh false).exchanges restartedCalls) = false :=
  ⟨⟨true, .zero, .primary, .transient .timeout⟩, rfl, rfl⟩

end Operation

end StorageAccess
