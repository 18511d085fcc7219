import ReleaseCatalog.Proofs.Session.Runs

/-!
# Reads are inert

A step reads if it only asks the store, or if it needs the alias register and there is
one (`Session.reads`).  A read leaves the session exactly as it was, whether it gives an
answer or a failure (`step_of_reads`).  So taking reads away from a run, or putting
them in, changes no other answer (`answers_partOf`).

A script is a list of steps, each with the client that takes it.  Clients that only read
once the register is built do not notice each other: in any script each gets the
answers that it would get alone.
-/

namespace ReleaseCatalog

/-- Whether a step only asks the store, or for the policy. -/
def Step.asksStore : Step → Bool
  | .entriesByTitle .. | .entriesByStudioAndDate .. | .allStudios | .studiosByTitle ..
  | .tieBreak => true
  | _ => false

/-- Whether a step is a question, to the store or by the register. -/
def Step.asks (step : Step) : Bool := step.asksStore || step.needsRegister

namespace Session

variable {ι : Type} {s : Session} {step : Step}

/-- Whether a step only reads in a session. -/
def reads (s : Session) (step : Step) : Bool :=
  step.asksStore || step.needsRegister && s.register.isSome

/-- A read changes nothing. -/
theorem step_of_reads (reads : s.reads step = true) : (s.step step).1 = s := by
  unfold Session.reads at reads
  rw [Bool.or_eq_true, Bool.and_eq_true] at reads
  rcases reads with asks | ⟨needs, built⟩
  · cases step with
    | entriesByTitle | entriesByStudioAndDate | allStudios | studiosByTitle | tieBreak => rfl
    | _ => cases asks
  · obtain ⟨table, built⟩ := Option.isSome_iff_exists.mp built
    rw [step_of_built built needs]

/-- Once there is a register, a question is a read. -/
theorem reads_of_asks (built : s.register.isSome = true) (asks : step.asks = true) :
    s.reads step = true := by
  unfold Session.reads
  rw [built, Bool.and_true]
  exact asks

/-! ## Scripts -/

/-- The steps of a script. -/
def stepsOf (script : List (ι × Step)) : List Step := script.map Prod.snd

/-- The outcomes of a script, each with the client that gets it. -/
def answers (s : Session) (script : List (ι × Step)) : List (ι × Outcome) :=
  (script.map Prod.fst).zip (s.run (stepsOf script))

/-- The part of a script that some clients take. -/
def partOf {α : Type} (mine : ι → Bool) (script : List (ι × α)) : List (ι × α) :=
  script.filter fun p => mine p.1

variable {mine : ι → Bool} {client : ι} {script : List (ι × Step)}

theorem partOf_cons_of_own {α : Type} {a : α} {script : List (ι × α)} (own : mine client = true) :
    partOf mine ((client, a) :: script) = (client, a) :: partOf mine script :=
  List.filter_cons_of_pos own

theorem partOf_cons_of_other {α : Type} {a : α} {script : List (ι × α)}
    (other : mine client = false) : partOf mine ((client, a) :: script) = partOf mine script :=
  List.filter_cons_of_neg (Bool.eq_false_iff.mp other)

/-- Wherever other clients take a step, it only reads: in the session as it is with their steps or
as it is without them. -/
def OthersRead (mine : ι → Bool) (s : Session) (script : List (ι × Step)) : Prop :=
  ∀ i (h : i < script.length), mine script[i].1 = false →
    (s.after (stepsOf (script.take i))).reads script[i].2 = true ∨
      (s.after (stepsOf (partOf mine (script.take i)))).reads script[i].2 = true

/-- Behind a step of one's own, others still only read. -/
theorem OthersRead.behind_own (h : OthersRead mine s ((client, step) :: script))
    (own : mine client = true) : OthersRead mine (s.step step).1 script := by
  intro i inside other
  have reads := h (i + 1) (Nat.succ_lt_succ inside) other
  rw [List.take_succ_cons, partOf_cons_of_own own] at reads
  exact reads

/-- A step of another client changes nothing, and behind it others still only read. -/
theorem OthersRead.behind_other (h : OthersRead mine s ((client, step) :: script))
    (other : mine client = false) : (s.step step).1 = s ∧ OthersRead mine s script := by
  have unchanged : (s.step step).1 = s := by
    rcases h 0 (Nat.succ_pos _) other with reads | reads
    · exact step_of_reads reads
    · exact step_of_reads reads
  refine ⟨unchanged, fun i inside other' => ?_⟩
  have reads := h (i + 1) (Nat.succ_lt_succ inside) other'
  rw [List.take_succ_cons, partOf_cons_of_other other] at reads
  have skipped : s.after (stepsOf ((client, step) :: script.take i)) =
      s.after (stepsOf (script.take i)) := congrArg (after · _) unchanged
  rw [skipped] at reads
  exact reads

/-- What others read can be taken away or put in: all other steps are answered as before, and
behind the script the session is the same. -/
theorem answers_partOf (inert : OthersRead mine s script) :
    partOf mine (s.answers script) = s.answers (partOf mine script) ∧
      s.after (stepsOf script) = s.after (stepsOf (partOf mine script)) := by
  induction script generalizing s with
  | nil => exact ⟨rfl, rfl⟩
  | cons p rest ih =>
      obtain ⟨client, step⟩ := p
      show partOf mine ((client, (s.step step).2) :: (s.step step).1.answers rest) = _ ∧
        (s.step step).1.after (stepsOf rest) = _
      cases whose : mine client with
      | true =>
          rw [partOf_cons_of_own whose, partOf_cons_of_own whose]
          obtain ⟨same, behind⟩ := ih (inert.behind_own whose)
          exact ⟨congrArg _ same, behind⟩
      | false =>
          rw [partOf_cons_of_other whose, partOf_cons_of_other whose]
          -- The rest of the script goes on in the same session, so its answers are those it had.
          obtain ⟨unchanged, inert'⟩ := inert.behind_other whose
          rw [unchanged]
          exact ih inert'

/-! ## Clients that only read -/

/-- Once there is a register, questions leave the session as it is. -/
theorem after_of_asks (built : s.register.isSome = true) {steps : List Step}
    (asks : ∀ step ∈ steps, step.asks = true) : s.after steps = s := by
  induction steps with
  | nil => rfl
  | cons step rest ih =>
      have unchanged : (s.step step).1 = s :=
        step_of_reads (reads_of_asks built (asks step List.mem_cons_self))
      exact (congrArg (after · rest) unchanged).trans
        (ih fun later member => asks later (List.mem_cons_of_mem step member))

/-- Once there is a register, clients that only ask read wherever they take a step. -/
theorem othersRead_of_asks (built : s.register.isSome = true)
    (asks : ∀ step ∈ stepsOf script, step.asks = true) : OthersRead mine s script := by
  intro i inside _
  have before : s.after (stepsOf (script.take i)) = s :=
    after_of_asks built fun step member =>
      asks step (List.map_subset Prod.snd (List.take_subset i script) member)
  rw [before]
  exact .inl (reads_of_asks built (asks _ (List.mem_map_of_mem (List.getElem_mem inside))))

theorem length_run (s : Session) (steps : List Step) : (s.run steps).length = steps.length := by
  induction steps generalizing s with
  | nil => rfl
  | cons step rest ih => exact congrArg (· + 1) (ih (s.step step).1)

/-- The outcomes of a script are those of its steps. -/
theorem map_snd_answers (s : Session) (script : List (ι × Step)) :
    (s.answers script).map Prod.snd = s.run (stepsOf script) := by
  unfold answers
  refine List.map_snd_zip (Nat.le_of_eq ?_)
  rw [length_run, stepsOf, List.length_map, List.length_map]

/-- Steps of others that only read where they stand, with a result or with a failure, can be put
into a script or taken away.  All other steps are answered as before, and behind the script the
session is the same.  Clients that only ask once there is a register get the answers that each
would get alone, however their steps are interleaved. -/
theorem reads_inert (s : Session) (script : List (ι × Step)) :
    (∀ mine : ι → Bool, OthersRead mine s script →
      partOf mine (s.answers script) = s.answers (partOf mine script) ∧
        s.after (stepsOf script) = s.after (stepsOf (partOf mine script))) ∧
    (s.register.isSome = true → (∀ step ∈ stepsOf script, step.asks = true) →
      ∀ mine : ι → Bool,
        (partOf mine (s.answers script)).map Prod.snd = s.run (stepsOf (partOf mine script))) := by
  refine ⟨fun _ inert => answers_partOf inert, fun built asks mine => ?_⟩
  have inert : OthersRead mine s script := othersRead_of_asks built asks
  obtain ⟨same, -⟩ := answers_partOf inert
  rw [same, map_snd_answers]

/-- A client that changes the studios and lets the store fail, and one that reads between these
steps, at last with a failure. -/
theorem reads_inert_night :
    let s := (empty.step .aliases).1
    let night : Studio := { id := 1, foreignId := "a".toList, title := "Night".toList }
    let script : List (Bool × Step) :=
      [(false, .related "Night".toList), (true, .insertStudio night),
       (false, .studiosNamed "night".toList), (true, .fail .allStudios ⟨.timeout, "slow".toList⟩),
       (false, .allStudios), (true, .studiosByTitle "Night".toList)]
    let questions : List (Bool × Step) :=
      [(true, .aliases), (false, .allStudios), (true, .identify "Night.2010".toList [])]
    OthersRead id s script ∧
      partOf id (s.answers script) = s.answers (partOf id script) ∧
      s.register.isSome = true ∧ (∀ step ∈ stepsOf questions, step.asks = true) ∧
      (partOf id (s.answers questions)).map Prod.snd = s.run (stepsOf (partOf id questions)) := by
  intro s night script questions
  have inert : OthersRead id s script := by
    unfold OthersRead
    decide +kernel
  have built : s.register.isSome = true := by decide +kernel
  have asks : ∀ step ∈ stepsOf questions, step.asks = true := by
    intro step member
    simp only [stepsOf, questions, List.map_cons, List.map_nil, List.mem_cons, List.not_mem_nil,
      or_false] at member
    rcases member with rfl | rfl | rfl
    · rfl
    · rfl
    · rfl
  refine ⟨inert, ((reads_inert s script).1 id inert).1, built, asks, ?_⟩
  exact (reads_inert s questions).2 built asks id

end Session

end ReleaseCatalog
