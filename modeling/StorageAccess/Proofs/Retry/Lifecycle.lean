import StorageAccess.Proofs.Retry.Step

/-! The life of an operation. Callers may make its calls in any order and under policies that change from
call to call. What is refused changes nothing, states follow one another in a fixed way, and attempts are
counted as they begin. -/
namespace StorageAccess

namespace OperationState

/-- Which states may come next. -/
inductive LeadsTo : OperationState → OperationState → Prop
  | first : LeadsTo .notStarted .attempting
  | again : LeadsTo .retrying .attempting
  | succeed : LeadsTo .attempting .succeeded
  | retry : LeadsTo .attempting .retrying
  | exhaust : LeadsTo .attempting .exhausted
  | giveUp : LeadsTo .attempting .nonRetryable

end OperationState

/-- What callers may do with an operation. -/
inductive Call : Type 1
  | startAttempt (replica : Replica)
  | recordSuccess (elapsed : Duration)
  | recordFailure (failure : Failure) (elapsed : Duration)
  | decide (p : RetryPolicy) (unit : Float)
  | onFailure {ε : Type} [Classified ε] (p : RetryPolicy) (unit : Float) (error : ε)
    (elapsed : Duration)

/-- What callers are told. -/
inductive Reply
  /-- An attempt has begun. -/
  | begun
  | noted
  | decided (d : Decision)
  /-- The operation ends with the error of the caller. -/
  | gaveUp
  /-- The call did not fit the state. -/
  | refused (e : Error)
  | broken (f : Fault)
  deriving DecidableEq

namespace Reply

variable {α ε : Type}

def ofExcept (done : α → Reply) : Except Halt α → Reply
  | .ok x => done x
  | .error (.error e) => .refused e
  | .error (.fault f) => .broken f

def ofConclusion : Except (GivingUp ε) Decision → Reply
  | .ok d => .decided d
  | .error (.misused e) => .refused e
  | .error _ => .gaveUp

/-- Whether the call fitted an attempt under way. -/
def isMove : Reply → Bool
  | .begun => false
  | .refused _ => false
  | _ => true

end Reply

/-- The operation after a call, and what the caller is told. -/
def Call.perform (op : Operation) : Call → Operation × Reply
  | .startAttempt replica =>
    ((op.startAttempt replica).1, .ofExcept (fun _ => .begun) (op.startAttempt replica).2)
  | .recordSuccess elapsed =>
    ((op.recordSuccess elapsed).1, .ofExcept (fun _ => .noted) (op.recordSuccess elapsed).2)
  | .recordFailure failure elapsed =>
    ((op.recordFailure failure elapsed).1,
      .ofExcept (fun _ => .noted) (op.recordFailure failure elapsed).2)
  | .decide p unit =>
    ((p.decide unit op).1, .ofExcept .decided (p.decide unit op).2.outcome)
  | @Call.onFailure _ _ p unit error elapsed =>
    ((p.onFailure unit op error elapsed).1,
      .ofExcept .ofConclusion (p.onFailure unit op error elapsed).2.outcome)

namespace RetryPolicy

variable {p : RetryPolicy} {op : Operation} {unit : Float} {failure : Failure}

/-- What a policy can make of a failure. -/
inductive Judged (p : RetryPolicy) (op : Operation) : Operation → Except Halt Decision → Prop
  | broken (f : Fault) : Judged p op op (.error (.fault f))
  | nonRetryable {d : Decision} (h : d.retry = false) :
    Judged p op { op with state := .nonRetryable } (.ok d)
  | exhausted {d : Decision} (h : d.retry = false) :
    Judged p op { op with state := .exhausted } (.ok d)
  | retrying {d : Decision} (h : d.retry = true) (hlt : op.attempts < p.maxAttempts) :
    Judged p op { op with state := .retrying } (.ok d)

theorem judged_judge (p : RetryPolicy) (unit : Float) (op : Operation) (failure : Failure) :
    p.Judged op (p.judge unit op failure).1 (p.judge unit op failure).2.outcome := by
  unfold judge
  split
  · exact .nonRetryable rfl
  · split
    · exact .exhausted rfl
    · rename_i hmax
      split
      · exact .broken _
      · dsimp only
        split
        · exact .exhausted rfl
        · exact .retrying rfl (UInt32.not_le.mp hmax)

end RetryPolicy

namespace Reply

variable {p : RetryPolicy} {op op' : Operation} {outcome : Except Halt Decision}

theorem isMove_ofExcept_decided (h : p.Judged op op' outcome) :
    (ofExcept .decided outcome).isMove = true := by
  cases h <;> rfl

theorem isMove_settle {ε : Type} {error : ε} {a : Action Decision} (h : p.Judged op op' a.outcome) :
    (ofExcept .ofConclusion (RetryPolicy.settle op' error a).outcome).isMove = true := by
  obtain ⟨log, outcome⟩ := a
  cases h <;> rfl

end Reply

namespace Operation

variable {op op' : Operation} {n : Nat}

/-- How the attempt under way may go on or end. -/
structure Moves (op op' : Operation) : Prop where
  attempting : op.state = .attempting
  attempts : op'.attempts = op.attempts
  state : op'.state = .attempting ∨ OperationState.LeadsTo .attempting op'.state
  lt_of_retrying : op'.state = .retrying → op.attempts.toNat < 4_294_967_295

theorem moves_of_judged {p : RetryPolicy} {outcome : Except Halt Decision}
    (hs : op.state = .attempting) (h : p.Judged op op' outcome) : op.Moves op' := by
  cases h with
  | broken f => exact ⟨hs, rfl, .inl hs, fun hr => by cases hs.symm.trans hr⟩
  | nonRetryable => exact ⟨hs, rfl, .inr .giveUp, nofun⟩
  | exhausted => exact ⟨hs, rfl, .inr .exhaust, nofun⟩
  | retrying h hlt =>
    refine ⟨hs, rfl, .inr .retry, fun _ => ?_⟩
    have hmax := p.maxAttempts.toNat_lt
    have hless := UInt32.lt_iff_toNat_lt.mp hlt
    omega

/-- What a call can do. -/
inductive Steps (op : Operation) : Operation → Reply → Prop
  | refused (e : Error) : Steps op op (.refused e)
  | begun (replica : Replica) (h : op.IsReady) (hlt : op.attempts.toNat < 4_294_967_295) :
    Steps op (op.started replica) .begun
  | moved {op' : Operation} {reply : Reply} (h : op.Moves op') (hr : reply.isMove = true) :
    Steps op op' reply

/-- What is known of an operation once `n` attempts have begun. The bound is the policy's: a retry is
granted below its greatest number of attempts only. -/
structure IsLed (op : Operation) (n : Nat) : Prop where
  attempts : op.attempts.toNat = n
  eq_zero_iff : n = 0 ↔ op.state = .notStarted
  lt_of_retrying : op.state = .retrying → n < 4_294_967_295

theorem isLed_fresh (readOnly : Bool) : (fresh readOnly).IsLed 0 := ⟨rfl, by simp [fresh], nofun⟩

theorem IsLed.lt_of_isReady (h : op.IsLed n) (hr : op.IsReady) :
    op.attempts.toNat < 4_294_967_295 := by
  rw [h.attempts]
  obtain hs | hs := hr
  · rw [h.eq_zero_iff.mpr hs]
    decide
  · exact h.lt_of_retrying hs

theorem IsLed.attempts_ne_zero (h : op.IsLed n) (hs : op.state = .attempting) :
    op.attempts ≠ 0 := by
  intro h0
  have hn : n = 0 := by rw [← h.attempts, h0]; rfl
  cases hs.symm.trans (h.eq_zero_iff.mp hn)

theorem IsLed.steps_perform (h : op.IsLed n) (call : Call) :
    op.Steps (call.perform op).1 (call.perform op).2 := by
  cases call with
  | startAttempt replica =>
    by_cases hr : op.IsReady
    · have hlt := h.lt_of_isReady hr
      rw [Call.perform, startAttempt_eq hr (by omega)]
      exact .begun replica hr hlt
    · rw [Call.perform, startAttempt_of_not_isReady hr]
      exact .refused _
  | recordSuccess elapsed =>
    by_cases hs : op.state = .attempting
    · rw [Call.perform, recordSuccess, if_pos hs]
      exact .moved ⟨hs, rfl, .inr .succeed, nofun⟩ rfl
    · rw [Call.perform, recordSuccess, if_neg hs]
      exact .refused _
  | recordFailure failure elapsed =>
    by_cases hs : op.state = .attempting
    · rw [Call.perform, recordFailure_eq hs]
      exact .moved ⟨hs, rfl, .inl hs, fun hr => by cases hs.symm.trans hr⟩ rfl
    · rw [Call.perform, recordFailure_of_ne hs]
      exact .refused _
  | decide p unit =>
    obtain ⟨e, hd⟩ | ⟨failure, hs, hd⟩ := p.decide_cases unit op
    · rw [Call.perform, hd]
      exact .refused e
    · rw [Call.perform, hd]
      have hj := p.judged_judge unit op failure
      exact .moved (moves_of_judged hs hj) (Reply.isMove_ofExcept_decided hj)
  | onFailure p unit error elapsed =>
    by_cases hs : op.state = .attempting
    · rw [Call.perform, RetryPolicy.onFailure_of_attempting hs (h.attempts_ne_zero hs)]
      have hj := p.judged_judge unit (op.failed (Classified.failure error) elapsed)
        (Classified.failure error)
      have hm : (op.failed (Classified.failure error) elapsed).Moves _ := moves_of_judged hs hj
      exact .moved ⟨hs, hm.attempts, hm.state, hm.lt_of_retrying⟩ (Reply.isMove_settle hj)
    · rw [Call.perform, RetryPolicy.onFailure, recordFailure_of_ne hs]
      exact .refused _

theorem IsReady.leadsTo (h : op.IsReady) : op.state.LeadsTo .attempting := by
  obtain hs | hs := h
  · rw [hs]
    exact .first
  · rw [hs]
    exact .again

theorem attempts_started (hlt : op.attempts.toNat < 4_294_967_295) (replica : Replica) :
    (op.started replica).attempts.toNat = op.attempts.toNat + 1 := by
  change (op.attempts + 1).toNat = _
  have hone : (1 : UInt32).toNat = 1 := rfl
  rw [UInt32.toNat_add, hone]
  exact Nat.mod_eq_of_lt (by omega)

/-- A call counts if it begins an attempt. -/
theorem IsLed.step {reply : Reply} (h : op.IsLed n) (hs : op.Steps op' reply) :
    op'.IsLed (n + [reply].count .begun) := by
  cases hs with
  | refused e => exact h
  | begun replica hr hlt =>
    refine ⟨?_, ⟨nofun, nofun⟩, nofun⟩
    rw [attempts_started hlt, h.attempts]
    rfl
  | moved hm hr =>
    have hcount : [reply].count .begun = 0 := by
      rw [List.count_eq_zero, List.mem_singleton]
      rintro rfl
      cases hr
    have hpos : n ≠ 0 := fun h0 => by cases hm.attempting.symm.trans (h.eq_zero_iff.mp h0)
    rw [hcount]
    refine ⟨hm.attempts ▸ h.attempts, ⟨fun h0 => absurd h0 hpos, fun h0 => ?_⟩, fun hr => ?_⟩
    · obtain hstate | hstate := hm.state
      · cases h0.symm.trans hstate
      · rw [h0] at hstate
        cases hstate
    · exact h.attempts ▸ hm.lt_of_retrying hr

/-- The operation after some calls. -/
def after (op : Operation) : List Call → Operation
  | [] => op
  | call :: calls => (call.perform op).1.after calls

/-- What the caller is told, call by call. -/
def replies (op : Operation) : List Call → List Reply
  | [] => []
  | call :: calls => (call.perform op).2 :: (call.perform op).1.replies calls

theorem IsLed.after (h : op.IsLed n) (calls : List Call) :
    (op.after calls).IsLed (n + (op.replies calls).count .begun) := by
  induction calls generalizing op n with
  | nil => exact h
  | cons call calls ih =>
    have hrest := ih (h.step (h.steps_perform call))
    rw [Nat.add_assoc, ← List.count_append] at hrest
    exact hrest

/-- What callers may rely on once `begun` attempts have begun. -/
structure ObeysLifecycle (op : Operation) (begun : Nat) : Prop where
  attempts : op.attempts.toNat = begun
  attempts_eq_zero_iff : op.attempts = 0 ↔ op.state = .notStarted
  attempts_lt : op.state = .retrying → op.attempts.toNat < 4_294_967_295
  /-- The count of attempts never runs over. -/
  starts : ∀ replica, op.state = .notStarted ∨ op.state = .retrying →
    (op.startAttempt replica).2 = .ok ()
  eq_of_refused : ∀ (call : Call) (e : Error), (call.perform op).2 = .refused e →
    (call.perform op).1 = op
  state_perform : ∀ call : Call,
    (call.perform op).1.state = op.state ∨ op.state.LeadsTo (call.perform op).1.state
  refused_of_isTerminal : op.state.isTerminal = true → ∀ call : Call, ∃ e,
    (call.perform op).2 = .refused e
  retry_iff : ∀ (p : RetryPolicy) (unit : Float) (d : Decision),
    (p.decide unit op).2.outcome = .ok d →
      (d.retry = true ↔ (p.decide unit op).1.state = .retrying)

theorem Steps.state {reply : Reply} (h : op.Steps op' reply) :
    op'.state = op.state ∨ op.state.LeadsTo op'.state := by
  cases h with
  | refused e => exact .inl rfl
  | begun replica hr => exact .inr hr.leadsTo
  | moved hm =>
    rw [hm.attempting]
    exact hm.state

theorem Steps.refused_of_isTerminal {reply : Reply} (h : op.Steps op' reply)
    (ht : op.state.isTerminal = true) : ∃ e, reply = .refused e := by
  cases h with
  | refused e => exact ⟨e, rfl⟩
  | begun replica hr => obtain hs | hs := hr <;> rw [hs] at ht <;> cases ht
  | moved hm => rw [hm.attempting] at ht; cases ht

theorem Steps.eq_of_refused {e : Error} (h : op.Steps op' (.refused e)) : op' = op := by
  cases h with
  | refused e => rfl
  | moved hm hr => cases hr

theorem retry_iff_of_judged {p : RetryPolicy} {d : Decision} (h : p.Judged op op' (.ok d)) :
    d.retry = true ↔ op'.state = .retrying := by
  cases h with
  | nonRetryable hr => simp [hr]
  | exhausted hr => simp [hr]
  | retrying hr => simp [hr]

theorem retry_iff_of_decide {p : RetryPolicy} {unit : Float} {d : Decision}
    (h : (p.decide unit op).2.outcome = .ok d) :
    d.retry = true ↔ (p.decide unit op).1.state = .retrying := by
  obtain ⟨e, hd⟩ | ⟨failure, hs, hd⟩ := p.decide_cases unit op
  · rw [hd] at h
    cases h
  · have hj := p.judged_judge unit op failure
    rw [hd] at h ⊢
    rw [h] at hj
    exact retry_iff_of_judged hj

theorem IsLed.obeysLifecycle (h : op.IsLed n) : op.ObeysLifecycle n where
  attempts := h.attempts
  attempts_eq_zero_iff := by
    rw [← h.eq_zero_iff, ← h.attempts, ← UInt32.toNat_inj]
    rfl
  attempts_lt hs := h.attempts ▸ h.lt_of_retrying hs
  starts replica hr := by
    rw [startAttempt_eq hr (by have hlt := h.lt_of_isReady hr; omega)]
  eq_of_refused call e he := by
    have hs := h.steps_perform call
    rw [he] at hs
    exact hs.eq_of_refused
  state_perform call := (h.steps_perform call).state
  refused_of_isTerminal ht call := (h.steps_perform call).refused_of_isTerminal ht
  retry_iff p unit d hd := retry_iff_of_decide hd

/-- Operations live as documented, whatever calls are made. -/
theorem obeysLifecycle_after (readOnly : Bool) (calls : List Call) :
    ((fresh readOnly).after calls).ObeysLifecycle (((fresh readOnly).replies calls).count .begun) := by
  have h := ((isLed_fresh readOnly).after calls).obeysLifecycle
  rwa [Nat.zero_add] at h

end Operation

end StorageAccess
