import StorageAccess.Proofs.Retry.Step

/-! To tell what the attempts of a run meet, the world of the run is made to note something at each of
them. This changes nothing else. -/
namespace StorageAccess

variable {σ ε α β : Type}

namespace World

/-- The same world with a note for every attempt, taken of the replica, of the world before the attempt
and of what came of it. -/
def noting (w : World σ ε α) (note : Replica → σ → Except ε α → β) : World (σ × List β) ε α where
  attempt replica s :=
    ((w.attempt replica s.1).1, (w.attempt replica s.1).2,
      s.2 ++ [note replica s.1 (w.attempt replica s.1).1])
  elapsed s := w.elapsed s.1
  sleep d s := (w.sleep d s.1, s.2)
  draw s := ((w.draw s.1).1, (w.draw s.1).2, s.2)

variable {w : World σ ε α} {note : Replica → σ → Except ε α → β} {replica : Replica}
variable {outcome : Except ε α}

theorem attempt_noting {world after : σ} (h : w.attempt replica world = (outcome, after))
    (past : List β) :
    (w.noting note).attempt replica (world, past) =
      (outcome, after, past ++ [note replica world outcome]) := by
  simp only [noting, h]

theorem notes_of_attempt {world after : σ × List β}
    (h : (w.noting note).attempt replica world = (outcome, after)) :
    after.2 = world.2 ++ [note replica world.1 outcome] := by
  obtain ⟨rfl, rfl⟩ := Prod.mk.inj h
  rfl

@[simp] theorem notes_of_draw (world : σ × List β) : ((w.noting note).draw world).2.2 = world.2 := rfl

@[simp] theorem notes_of_sleep (d : Duration) (world : σ × List β) :
    ((w.noting note).sleep d world).2 = world.2 := rfl

end World

namespace RunReport

/-- The report without the notes. -/
def erased (r : RunReport (σ × List β) ε α) : RunReport σ ε α :=
  ⟨r.replicas, r.sleeps, r.result, r.world.1⟩

theorem erased_after (replica : Replica) (sleep : Duration) (log : List LogRecord)
    (r : RunReport (σ × List β) ε α) :
    (r.after replica sleep log).erased = r.erased.after replica sleep log := rfl

end RunReport

namespace RetryPolicy

variable [Classified ε] {p : RetryPolicy} {w : World σ ε α} {op : Operation} {replica : Replica}
variable {note : Replica → σ → Except ε α → β}

/-- A run goes as it would without the notes. -/
theorem Turns.erased_runFrom_noting {world : σ} {report : RunReport σ ε α}
    (h : p.Turns w op replica world report) (past : List β) :
    (p.runFrom (w.noting note) op replica (world, past)).erased = report := by
  induction h generalizing past with
  | unstarted hs =>
    rw [runFrom_of_unstarted hs]
    rfl
  | succeeded hs ha =>
    rw [runFrom_of_success hs (World.attempt_noting ha past)]
    rfl
  | broken hs ha hf =>
    rw [runFrom_of_failure hs (World.attempt_noting ha past) hf]
    rfl
  | gaveUp hs ha hf =>
    rw [runFrom_of_failure hs (World.attempt_noting ha past) hf]
    rfl
  | retried hs ha hf rest ih =>
    rw [runFrom_of_failure hs (World.attempt_noting ha past) hf]
    simp only
    rw [RunReport.erased_after]
    exact congrArg _ (ih _)

/-- Notes that name the replica go on as the report does. -/
theorem Turns.map_notes {named : β → Replica}
    (hn : ∀ replica world outcome, named (note replica world outcome) = replica) {world : σ × List β}
    {report : RunReport (σ × List β) ε α} (h : p.Turns (w.noting note) op replica world report) :
    report.world.2.map named = world.2.map named ++ report.replicas := by
  induction h with
  | unstarted hs => exact (List.append_nil _).symm
  | succeeded hs ha =>
    rw [World.notes_of_attempt ha, List.map_append, List.map_singleton, hn]
  | broken hs ha hf =>
    rw [World.notes_of_draw, World.notes_of_attempt ha, List.map_append, List.map_singleton, hn]
  | gaveUp hs ha hf =>
    rw [World.notes_of_draw, World.notes_of_attempt ha, List.map_append, List.map_singleton, hn]
  | retried hs ha hf rest ih =>
    rw [RunReport.after, ih, World.notes_of_sleep, World.notes_of_draw, World.notes_of_attempt ha,
      List.map_append, List.map_singleton, hn, List.append_assoc]
    rfl

/-- What holds before each attempt of a run tells of its notes. Two steps are to be shown: what an attempt
adds to the notes, and what a retry comes to. -/
theorem Turns.of_notes (before : Operation → Replica → σ × List β → Prop) (made : List β → Prop)
    {world : σ × List β} {report : RunReport (σ × List β) ε α}
    (hunmade : ∀ {op replica world}, before op replica world → made world.2)
    (hmade : ∀ {op replica world} (outcome : Except ε α), before op replica world →
      made (world.2 ++ [note replica world.1 outcome]))
    (hnext : ∀ {op replica world after e judged log d}, before op replica world →
      (w.noting note).attempt replica world = (.error e, after) →
      p.afterFailure (w.noting note) (op.started replica) e after = (judged, ⟨log, .ok (.ok d)⟩) →
      before judged d.replica ((w.noting note).sleep d.delay ((w.noting note).draw after).2))
    (ht : p.Turns (w.noting note) op replica world report) (h : before op replica world) :
    made report.world.2 := by
  induction ht with
  | unstarted hs => exact hunmade h
  | succeeded hs ha =>
    rw [World.notes_of_attempt ha]
    exact hmade _ h
  | broken hs ha hf =>
    rw [World.notes_of_draw, World.notes_of_attempt ha]
    exact hmade _ h
  | gaveUp hs ha hf =>
    rw [World.notes_of_draw, World.notes_of_attempt ha]
    exact hmade _ h
  | retried hs ha hf rest ih => exact ih (hnext h ha hf)

/-- The note of the first attempt stays the first. -/
theorem Turns.head?_notes {world : σ × List β} {report : RunReport (σ × List β) ε α} {b : β}
    (ht : p.Turns (w.noting note) op replica world report) (h : world.2.head? = some b) :
    report.world.2.head? = some b := by
  have hmore {notes : List β} (c : β) (h : notes.head? = some b) :
      (notes ++ [c]).head? = some b := by
    rw [List.head?_append, h, Option.some_or]
  refine Turns.of_notes (fun _ _ world => world.2.head? = some b) (·.head? = some b) id
    (fun _ h => hmore _ h) ?_ ht h
  intro op replica world after e judged log d h ha hf
  rw [World.notes_of_sleep, World.notes_of_draw, World.notes_of_attempt ha]
  exact hmore _ h

/-- A run that is allowed an attempt makes it and notes it before all others. -/
theorem Turns.head?_notes_of_start {world : σ} {report : RunReport (σ × List β) ε α}
    (ht : p.Turns (w.noting note) op replica (world, []) report)
    (hs : (op.startAttempt replica).2 = .ok ()) :
    report.world.2.head? = some (note replica world (w.attempt replica world).1) := by
  have hfirst {outcome : Except ε α} {after : σ × List β}
      (ha : (w.noting note).attempt replica (world, []) = (outcome, after)) :
      after.2.head? = some (note replica world (w.attempt replica world).1) := by
    obtain ⟨rfl, rfl⟩ := Prod.mk.inj ha
    rfl
  cases ht with
  | unstarted hstopped => cases hs.symm.trans hstopped
  | succeeded _ ha => exact hfirst ha
  | broken _ ha hf =>
    rw [World.notes_of_draw]
    exact hfirst ha
  | gaveUp _ ha hf =>
    rw [World.notes_of_draw]
    exact hfirst ha
  | retried _ ha hf rest =>
    refine rest.head?_notes ?_
    rw [World.notes_of_sleep, World.notes_of_draw]
    exact hfirst ha

end RetryPolicy

end StorageAccess
