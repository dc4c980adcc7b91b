import StorageAccess.Signing.Signer

/-! Signers in use together. Whichever of them is used, it works with the credential that was written
last, and writing is either replacing the credential or loading one. -/
namespace StorageAccess

namespace Signers

/-- What a signer is used for. -/
inductive Use
  | clone
  | rotate (c : Credential)
  | credential
  | sign (head : RequestHead) (expiresIn : Option Duration)

/-- A use of one of the signers, which are numbered from 0. -/
structure Visit where
  signer : Nat
  now : Instant
  use : Use

inductive Answer
  /-- There is no such signer. -/
  | absent
  | cloned
  | rotated (result : Action Unit)
  | given (result : Action (Option Credential))
  | signed (head : RequestHead) (result : Action Unit)

/-- What a use does and is answered. -/
def perform (setup : SignerSetup) (s : Signers) (now : Instant) : Use → Signers × Answer
  | .clone => (s.clone, .cloned)
  | .rotate c => ((s.rotate now c).1, .rotated (s.rotate now c).2)
  | .credential => ((credential setup s now).1, .given (credential setup s now).2)
  | .sign head expiresIn =>
    let (s, head, result) := sign setup s now head expiresIn
    (s, .signed head result)

def visit (setup : SignerSetup) (s : Signers) (v : Visit) : Signers × Answer :=
  if v.signer < s.count then perform setup s v.now v.use else (s, .absent)

/-- The signers after visits one after the other. -/
def after (setup : SignerSetup) (s : Signers) : List Visit → Signers
  | [] => s
  | v :: visits => after setup (visit setup s v).1 visits

def answers (setup : SignerSetup) (s : Signers) : List Visit → List Answer
  | [] => []
  | v :: visits => (visit setup s v).2 :: answers setup (visit setup s v).1 visits

/-- Where a credential is taken from. -/
inductive Source
  | cell (c : Option Credential)
  | provider (load : Action (Option Credential))

/-- The credential, as the signer gives it. -/
def Source.credential : Source → Action (Option Credential)
  | .cell c => pure c
  | .provider load => do
    let loaded ← load
    Action.debug ("signing credential loaded: " ++ if loaded.isSome then "true" else "false")
    return loaded

theorem Source.outcome_credential (load : Action (Option Credential)) :
    (Source.provider load).credential.outcome = load.outcome := by
  rw [credential, Action.outcome_bind]
  cases load.outcome <;> rfl

/-- Whether the provider is asked. -/
def Source.isLoad : Source → Bool
  | .cell _ => false
  | .provider _ => true

/-- What is put into the cell. A provider that finds nothing has it emptied, one that fails does not. -/
def Source.written? : Source → Option (Option Credential)
  | .cell _ => none
  | .provider load => load.outcome.toOption

/-- What a visit was for the credential that is shared. -/
inductive Access
  | absent
  | cloned
  | rotated (c : Credential)
  | refused (c : Credential)
  | gives (source : Source)
  | signs (now : Instant) (head : RequestHead) (expiresIn : Option Duration) (source : Source)

namespace Access

def source? : Access → Option Source
  | .gives source | .signs _ _ _ source => some source
  | _ => none

def isLoad (a : Access) : Bool := a.source?.any Source.isLoad

def isClone : Access → Bool
  | .cloned => true
  | _ => false

def written? : Access → Option (Option Credential)
  | .rotated c => some (some c)
  | .gives source | .signs _ _ _ source => source.written?
  | _ => none

theorem written?_of_source? {a : Access} {source : Source} (h : a.source? = some source) :
    a.written? = source.written? := by
  cases a with
  | gives | signs =>
    cases h
    rfl
  | absent | cloned | rotated | refused => cases h

theorem isClone_of_source? {a : Access} {source : Source} (h : a.source? = some source) :
    a.isClone = false := by
  cases a with
  | gives | signs => rfl
  | absent | cloned | rotated | refused => cases h

/-- What the visit is answered. A request is signed with the credential that was obtained, and left alone
if there was an error in that. -/
def answer (setup : SignerSetup) : Access → Answer
  | .absent => .absent
  | .cloned => .cloned
  | .rotated _ => .rotated (Action.debug "signing credential rotated")
  | .refused _ => .rotated (Action.fail invalidRotation)
  | .gives source => .given source.credential
  | .signs now head expiresIn source =>
    match source.credential.outcome with
    | .error _ => .signed head (source.credential >>= fun _ => pure ())
    | .ok c =>
      let (sent, result) := setup.authorizer.authorize now head c expiresIn
      .signed sent (source.credential >>= fun _ => result)

end Access

section history

variable (past : List Access)

/-- What was written last. -/
def held : Option Credential := (past.filterMap Access.written?).getLast?.getD none

def asked : Nat := past.countP Access.isLoad

/-- How many signers there are. -/
def present : Nat := 1 + past.countP Access.isClone

variable (setup : SignerSetup) (env : Environment)

/-- The provider is asked if nothing valid was written last. -/
def sourceAt (now : Instant) : Source :=
  if Credential.isUsable now (held past) then .cell (held past)
  else .provider (setup.provider.load env (asked past))

/-- What a visit is after what was before. It does not matter which signer is visited. -/
def accessAt (v : Visit) : Access :=
  if v.signer < present past then
    match v.use with
    | .clone => .cloned
    | .rotate c => if c.isValid v.now then .rotated c else .refused c
    | .credential => .gives (sourceAt past setup env v.now)
    | .sign head expiresIn => .signs v.now head expiresIn (sourceAt past setup env v.now)
  else .absent

def accessesFrom (past : List Access) : List Visit → List Access
  | [] => []
  | v :: visits =>
    accessAt past setup env v :: accessesFrom (past ++ [accessAt past setup env v]) visits

/-- What visits are if nothing was before. -/
def accesses : List Visit → List Access := accessesFrom setup env []

end history

section snoc

variable (past : List Access) (a : Access)

theorem held_snoc : held (past ++ [a]) = a.written?.getD (held past) := by
  rw [held, held, List.filterMap_append]
  cases hw : a.written? with
  | none => simp [hw]
  | some c => simp [hw]

theorem asked_snoc : asked (past ++ [a]) = asked past + if a.isLoad then 1 else 0 := by
  simp [asked, List.countP_append, List.countP_cons]

theorem present_snoc : present (past ++ [a]) = present past + if a.isClone then 1 else 0 := by
  simp [present, List.countP_append, List.countP_cons, Nat.add_assoc]

end snoc

variable {setup : SignerSetup} {env : Environment} {s : Signers} {past : List Access}

/-- The state agrees with what was before. -/
structure Reflects (s : Signers) (env : Environment) (past : List Access) : Prop where
  environment : s.environment = env
  cell : s.cell = held past
  loads : s.loads = asked past
  count : s.count = present past

theorem reflects_nil (env : Environment) : Reflects { environment := env } env [] :=
  ⟨rfl, rfl, rfl, rfl⟩

/-- A visit is accounted for by what it was, both its answer and what the signers keep of it. -/
structure Realises (setup : SignerSetup) (env : Environment) (past : List Access)
    (done : Signers × Answer) (a : Access) : Prop where
  answer : done.2 = a.answer setup
  reflects : Reflects done.1 env (past ++ [a])

/-- The state once a credential was taken from somewhere. -/
def take (s : Signers) : Source → Signers
  | .cell _ => s
  | .provider load => { s with cell := load.outcome.toOption.getD s.cell, loads := s.loads + 1 }

/-- Where the credential in use is taken from. -/
def source (setup : SignerSetup) (s : Signers) (now : Instant) : Source :=
  if Credential.isUsable now s.cell then .cell s.cell
  else .provider (setup.provider.load s.environment s.loads)

theorem credential_eq (setup : SignerSetup) (s : Signers) (now : Instant) :
    credential setup s now = (s.take (source setup s now), (source setup s now).credential) := by
  unfold source credential
  split
  · rfl
  · have hout := Source.outcome_credential (setup.provider.load s.environment s.loads)
    rw [Source.credential] at hout
    refine Prod.ext ?_ rfl
    simp only [take, hout]
    cases (setup.provider.load s.environment s.loads).outcome <;> rfl

namespace Reflects

theorem credential_eq (h : Reflects s env past) (now : Instant) :
    credential setup s now =
      (s.take (sourceAt past setup env now), (sourceAt past setup env now).credential) := by
  rw [sourceAt, ← h.cell, ← h.loads, ← h.environment]
  exact Signers.credential_eq setup s now

/-- What a visit was accounts for each change of the state. -/
theorem snoc {s' : Signers} {a : Access} (h : Reflects s env past)
    (henv : s'.environment = s.environment) (hcell : s'.cell = a.written?.getD s.cell)
    (hloads : s'.loads = s.loads + if a.isLoad then 1 else 0)
    (hcount : s'.count = s.count + if a.isClone then 1 else 0) : Reflects s' env (past ++ [a]) where
  environment := henv.trans h.environment
  cell := by rw [hcell, held_snoc, h.cell]
  loads := by rw [hloads, asked_snoc, h.loads]
  count := by rw [hcount, present_snoc, h.count]

theorem take {a : Access} {source : Source} (h : Reflects s env past) (ha : a.source? = some source) :
    Reflects (s.take source) env (past ++ [a]) := by
  have hload : a.isLoad = source.isLoad := by rw [Access.isLoad, ha, Option.any_some]
  have hclone : a.isClone = false := Access.isClone_of_source? ha
  apply h.snoc
  · cases source <;> rfl
  · rw [Access.written?_of_source? ha]
    cases source <;> rfl
  · rw [hload]
    cases source <;> rfl
  · rw [hclone]
    cases source <;> rfl

theorem perform_rotate (h : Reflects s env past) (now : Instant) (c : Credential) :
    Realises setup env past (perform setup s now (.rotate c))
      (if c.isValid now then .rotated c else .refused c) := by
  simp only [perform, rotate]
  split
  · exact ⟨rfl, h.snoc rfl rfl rfl rfl⟩
  · exact ⟨rfl, h.snoc rfl rfl rfl rfl⟩

theorem perform_sign (h : Reflects s env past) (now : Instant) (head : RequestHead)
    (expiresIn : Option Duration) :
    Realises setup env past (perform setup s now (.sign head expiresIn))
      (.signs now head expiresIn (sourceAt past setup env now)) := by
  simp only [perform, sign, h.credential_eq]
  cases hout : (sourceAt past setup env now).credential.outcome with
  | error halt => exact ⟨by rw [Access.answer, hout], h.take rfl⟩
  | ok c => exact ⟨by rw [Access.answer, hout], h.take rfl⟩

/-- What a visit comes to is told by what was before. -/
theorem visit (h : Reflects s env past) (v : Visit) :
    Realises setup env past (visit setup s v) (accessAt past setup env v) := by
  rw [Signers.visit, accessAt, h.count]
  split
  · cases v.use with
    | clone => exact ⟨rfl, h.snoc rfl rfl rfl rfl⟩
    | rotate c => exact h.perform_rotate v.now c
    | credential =>
      simp only [perform, h.credential_eq]
      exact ⟨rfl, h.take rfl⟩
    | sign head expiresIn => exact h.perform_sign v.now head expiresIn
  · exact ⟨rfl, h.snoc rfl rfl rfl rfl⟩

/-- So it is for visits one after the other. -/
theorem run (h : Reflects s env past) (setup : SignerSetup) (visits : List Visit) :
    answers setup s visits = (accessesFrom setup env past visits).map (Access.answer setup) ∧
      Reflects (after setup s visits) env (past ++ accessesFrom setup env past visits) := by
  induction visits generalizing s past with
  | nil => exact ⟨rfl, (List.append_nil past).symm ▸ h⟩
  | cons v visits ih =>
    obtain ⟨hanswer, hstep⟩ := h.visit v
    obtain ⟨hanswers, hafter⟩ := ih hstep
    rw [answers, accessesFrom, List.map_cons, hanswer, hanswers]
    refine ⟨rfl, ?_⟩
    rw [List.append_cons]
    exact hafter

end Reflects

/-- What a visit can be after what was before. -/
inductive Fits (setup : SignerSetup) (env : Environment) (past : List Access) (now : Instant) :
    Access → Prop
  | absent : Fits setup env past now .absent
  | cloned : Fits setup env past now .cloned
  | rotated {c : Credential} (h : c.isValid now = true) : Fits setup env past now (.rotated c)
  | refused {c : Credential} (h : ¬c.isValid now = true) : Fits setup env past now (.refused c)
  | gives : Fits setup env past now (.gives (sourceAt past setup env now))
  | signs {head : RequestHead} {expiresIn : Option Duration} :
    Fits setup env past now (.signs now head expiresIn (sourceAt past setup env now))

theorem fits_accessAt (setup : SignerSetup) (env : Environment) (past : List Access) (v : Visit) :
    Fits setup env past v.now (accessAt past setup env v) := by
  unfold accessAt
  split
  · cases v.use with
    | clone => exact .cloned
    | rotate c =>
      change Fits setup env past v.now (if c.isValid v.now then .rotated c else .refused c)
      split
      · exact .rotated ‹_›
      · exact .refused ‹_›
    | credential => exact .gives
    | sign head expiresIn => exact .signs
  · exact .absent

theorem Fits.source_eq {a : Access} {now : Instant} {source : Source} (h : Fits setup env past now a)
    (hsource : a.source? = some source) : source = sourceAt past setup env now := by
  cases h with
  | gives | signs =>
    cases hsource
    rfl
  | absent | cloned | rotated | refused => cases hsource

section rotated

variable {c : Credential}

theorem Fits.isValid {now : Instant} (h : Fits setup env past now (.rotated c)) :
    c.isValid now = true := by
  cases h
  assumption

/-- A valid credential in the cell is the one that is used. -/
theorem sourceAt_of_held {now : Instant} (hheld : held past = some c) (hvalid : c.isValid now = true) :
    sourceAt past setup env now = .cell (some c) := by
  rw [sourceAt, hheld]
  exact if_pos hvalid

theorem held_snoc_of_source {a : Access} (hheld : held past = some c) (hnot : ∀ c', a ≠ .rotated c')
    (ha : ∀ source, a.source? = some source → source = .cell (some c)) :
    held (past ++ [a]) = some c := by
  rw [held_snoc, hheld]
  cases a with
  | rotated c' => cases hnot c' rfl
  | gives source | signs _ _ _ source =>
    cases ha source rfl
    rfl
  | absent | cloned | refused => rfl

/-- As long as the credential in the cell is valid and is not replaced, it is the one that is used. -/
theorem source_of_held {visits : List Visit} {between later : List Access} (hheld : held past = some c)
    (hvalid : ∀ v ∈ visits, c.isValid v.now = true)
    (h : accessesFrom setup env past visits = between ++ later)
    (hnot : ∀ c', Access.rotated c' ∉ between) :
    ∀ a ∈ between, ∀ source, a.source? = some source → source = .cell (some c) := by
  induction between generalizing past visits with
  | nil => simp
  | cons a between ih =>
    cases visits with
    | nil => cases h
    | cons v visits =>
      obtain ⟨rfl, htail⟩ := List.cons.inj h
      have huses : ∀ source, (accessAt past setup env v).source? = some source →
          source = .cell (some c) := fun source hsource =>
        ((fits_accessAt setup env past v).source_eq hsource).trans
          (sourceAt_of_held hheld (hvalid v List.mem_cons_self))
      have hheld' := held_snoc_of_source hheld
        (fun c' hc' => hnot c' (hc' ▸ List.mem_cons_self)) huses
      have hrest := ih hheld' (fun w hw => hvalid w (List.mem_cons_of_mem v hw)) htail
        (fun c' hm => hnot c' (List.mem_cons_of_mem _ hm))
      exact List.forall_mem_cons.mpr ⟨huses, hrest⟩

theorem exists_of_accessesFrom {visits : List Visit} {earlier rest : List Access}
    (h : accessesFrom setup env past visits = earlier ++ rest) :
    ∃ before remaining, visits = before ++ remaining ∧
      accessesFrom setup env (past ++ earlier) remaining = rest := by
  induction earlier generalizing past visits with
  | nil => exact ⟨[], visits, rfl, (List.append_nil past).symm ▸ h⟩
  | cons a earlier ih =>
    cases visits with
    | nil => cases h
    | cons v visits =>
      obtain ⟨rfl, htail⟩ := List.cons.inj h
      obtain ⟨before, remaining, rfl, hrest⟩ := ih htail
      exact ⟨v :: before, remaining, rfl, (List.append_cons past _ earlier).symm ▸ hrest⟩

end rotated

/-- Visits are answered out of one cell: what is in it, how often the provider was asked and what each
visit is answered follows from what was written last, whichever signer it was that wrote it. -/
structure ShareCell (setup : SignerSetup) (env : Environment) (visits : List Visit) : Prop where
  answers : answers setup { environment := env } visits =
    (accesses setup env visits).map (Access.answer setup)
  cell : (after setup { environment := env } visits).cell = held (accesses setup env visits)
  loads : (after setup { environment := env } visits).loads = asked (accesses setup env visits)
  count : (after setup { environment := env } visits).count = present (accesses setup env visits)
  /-- A credential that was rotated in is what every signer uses until the next one is. -/
  rotated : ∀ earlier c between later,
    accesses setup env visits = earlier ++ .rotated c :: (between ++ later) →
    (∀ v ∈ visits, ∀ w ∈ visits, c.isValid v.now = c.isValid w.now) →
    (∀ c', Access.rotated c' ∉ between) →
    ∀ a ∈ between, ∀ source, a.source? = some source → source = .cell (some c)

theorem shareCell (setup : SignerSetup) (env : Environment) (visits : List Visit) :
    ShareCell setup env visits := by
  obtain ⟨hanswers, hafter⟩ := (reflects_nil env).run setup visits
  refine ⟨hanswers, hafter.cell, hafter.loads, hafter.count, ?_⟩
  intro earlier c between later h hconstant hnot
  obtain ⟨before, remaining, rfl, hrest⟩ := exists_of_accessesFrom h
  cases remaining with
  | nil => cases hrest
  | cons v remaining =>
    obtain ⟨hv, hrest⟩ := List.cons.inj hrest
    have hfits := fits_accessAt setup env ([] ++ earlier) v
    rw [hv] at hrest hfits
    have hheld : held (([] ++ earlier) ++ [.rotated c]) = some c := held_snoc _ _
    have hvalid : ∀ w ∈ remaining, c.isValid w.now = true := fun w hw =>
      (hconstant w (by simp [hw]) v (by simp)).trans hfits.isValid
    exact source_of_held hheld hvalid hrest hnot

example (setup : SignerSetup) (env : Environment) (now : Instant) :
    accesses setup env [⟨0, now, .rotate (.sasToken "t")⟩, ⟨0, now, .clone⟩, ⟨1, now, .credential⟩] =
      [.rotated (.sasToken "t"), .cloned, .gives (.cell (some (.sasToken "t")))] := rfl

end Signers

end StorageAccess
