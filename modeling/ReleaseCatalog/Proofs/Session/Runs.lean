import ReleaseCatalog.Session

/-!
# Steps and runs of a session

Seven steps need the alias register, for themselves or for the engine
(`Step.needsRegister`).  They all do the same thing: they take the register in use or
build one, ask something by it, and leave a session with that register behind
(`exists_ask`).  So there are three cases: a register is in use
(`step_of_built`), it is built by the step (`step_of_building`), or it cannot be
built (`step_of_failing`).

Other steps leave the register alone, but for a rebuild with settings that are
accepted, which drops it (`register_step`, `register_step_of_renews`).
-/

namespace ReleaseCatalog

open Journal (Traced Event)

/-- Whether a step needs the alias register, for itself or for the engine. -/
def Step.needsRegister : Step → Bool
  | .identify .. | .parse .. | .nearestByTitle .. | .findScene .. | .studiosNamed ..
  | .aliases | .related .. => true
  | _ => false

namespace Session

/-- The session after steps one after the other. -/
def after (s : Session) : List Step → Session
  | [] => s
  | step :: rest => after (s.step step).1 rest
termination_by structural steps => steps

/-- The session that is opened over an empty library without settings. -/
def empty : Session where
  library := {}
  undated := false
  detector := .off
  home := none
  failures := []
  given := []
  settings := {}
  register := none

theorem start_empty : start {} false .off none [] = .ok empty := rfl

/-- Whether a step starts the session afresh: a rebuild from values that are accepted. -/
def renews (s : Session) : Step → Bool
  | .rebuild given => (Settings.build [] s.home (given.getD s.given)).isOk
  | _ => false

theorem renews_rebuild (s : Session) (given : Option Settings.Given) :
    s.renews (.rebuild given) = (Settings.build [] s.home (given.getD s.given)).isOk := rfl

/-- What a step answers by a register, from the library as it stands. -/
def answerBy (s : Session) (table : AliasRegister) : Step → Outcome
  | .identify raw excluded => ofLookup ((s.engine table).identify raw excluded) .entry
  | .parse raw => ofLookup ((s.engine table).parse raw) .reading
  | .nearestByTitle titles year excluded pool =>
      ofLookup (Engine.nearestByTitle titles year excluded (pool.getD s.library.entries)) .entry
  | .findScene studio date words => ofLookup ((s.engine table).findScene studio date words) .entry
  | .studiosNamed title => ofLookup ((s.engine table).studiosNamed title) .studios
  | .aliases => ofOutcome (.ok (.aliases table.pairs))
  | .related title => ofOutcome (.ok (.titles (table.related title)))
  | step => (s.step step).2

/-! ## Building the register -/

/-- The store answers with all studios unless it fails on that question. -/
theorem allStudios_store (s : Session) :
    s.store.allStudios =
      match s.failures.lookup .allStudios with
      | some failure => .error failure
      | none => .ok s.library.studios := by
  unfold store Store.failing
  cases s.undated with
  | true => rfl
  | false => rfl

/-- The store answers with the studios of a title unless it fails on that question. -/
theorem studiosByTitle_store (s : Session) (title : Text) :
    s.store.studiosByTitle title =
      match s.failures.lookup .studiosByTitle with
      | some failure => .error failure
      | none => .ok (s.library.studiosByTitle title) := by
  unfold store Store.failing
  cases s.undated with
  | true => rfl
  | false => rfl

/-- The studios that the store answers with are those of the library. -/
theorem eq_studios_of_allStudios {s : Session} {studios : List Studio}
    (answered : s.store.allStudios = .ok studios) : studios = s.library.studios := by
  rw [allStudios_store] at answered
  split at answered
  · cases answered
  · exact (Except.ok.inj answered).symm

/-- The register is built from the studios that the store answers with, and the journal notes
what is ignored and how many pairs it has. -/
theorem buildRegister_of_ok {s : Session} {studios : List Studio}
    (answered : s.store.allStudios = .ok studios) :
    s.buildRegister =
      ⟨.ok (.ofStudios studios s.settings.aliases),
        AliasRegister.buildEvents studios s.settings.aliases⟩ := by
  unfold buildRegister
  rw [answered]
  show (⟨.ok _, [] ++ (AliasRegister.buildEvents studios s.settings.aliases ++ [])⟩ :
    Engine.Lookup AliasRegister) = _
  rw [List.append_nil, List.nil_append]

/-- If the store fails, so does the building, with the failure of the store and without a note. -/
theorem buildRegister_of_error {s : Session} {failure : StoreFailure}
    (failed : s.store.allStudios = .error failure) : s.buildRegister = ⟨.error failure, []⟩ := by
  unfold buildRegister
  rw [failed]
  rfl

/-! ## Steps that need the register -/

/-- A step that needs the register asks something by it. -/
theorem exists_ask {s : Session} {step : Step} (needs : step.needsRegister = true) :
    ∃ (α : Type) (ask : AliasRegister → Engine.Lookup α) (answer : α → Answer),
      s.step step = (s.withRegister, s.ofRegister ask answer) ∧
        ∀ table, s.answerBy table step = ofLookup (ask table) answer := by
  cases step with
  | identify raw excluded => exact ⟨_, _, _, rfl, fun _ => rfl⟩
  | parse raw => exact ⟨_, _, _, rfl, fun _ => rfl⟩
  | nearestByTitle titles year excluded pool => exact ⟨_, _, _, rfl, fun _ => rfl⟩
  | findScene studio date words => exact ⟨_, _, _, rfl, fun _ => rfl⟩
  | studiosNamed title => exact ⟨_, _, _, rfl, fun _ => rfl⟩
  | aliases => exact ⟨_, _, _, rfl, fun _ => rfl⟩
  | related title => exact ⟨_, _, _, rfl, fun _ => rfl⟩
  | _ => cases needs

variable {s : Session} {step : Step} {table : AliasRegister}

/-- With a register in use, the step asks by it and changes nothing. -/
theorem step_of_built (built : s.register = some table) (needs : step.needsRegister = true) :
    s.step step = (s, s.answerBy table step) := by
  obtain ⟨α, ask, answer, stepped, asked⟩ := exists_ask (s := s) needs
  have taken : s.needRegister = pure table := by
    unfold needRegister
    rw [built]
  have same : s.withRegister = s := by
    unfold withRegister
    rw [taken]
    show { s with register := some table } = s
    rw [← built]
  rw [stepped, same, asked]
  unfold ofRegister
  rw [taken]
  rfl

/-- Without a register in use, the step builds one, asks by it and leaves it in use. -/
theorem step_of_building {studios : List Studio} (unbuilt : s.register = none)
    (answered : s.store.allStudios = .ok studios) (needs : step.needsRegister = true) :
    let table := AliasRegister.ofStudios studios s.settings.aliases
    s.step step =
      ({ s with register := some table },
        ⟨(s.answerBy table step).outcome,
          AliasRegister.buildEvents studios s.settings.aliases ++
            (s.answerBy table step).events⟩) := by
  intro table
  obtain ⟨α, ask, answer, stepped, asked⟩ := exists_ask (s := s) needs
  have taken : s.needRegister =
      ⟨.ok table, AliasRegister.buildEvents studios s.settings.aliases⟩ := by
    unfold needRegister
    rw [unbuilt]
    exact buildRegister_of_ok answered
  rw [stepped, asked]
  unfold withRegister ofRegister
  rw [taken]
  rfl

/-- If the register cannot be built, the step answers with the failure and changes nothing. -/
theorem step_of_failing {failure : StoreFailure} (unbuilt : s.register = none)
    (failed : s.store.allStudios = .error failure) (needs : step.needsRegister = true) :
    s.step step = (s, ⟨.error (.store failure), []⟩) := by
  obtain ⟨α, ask, answer, stepped, -⟩ := exists_ask (s := s) needs
  have taken : s.needRegister = ⟨.error failure, []⟩ := by
    unfold needRegister
    rw [unbuilt]
    exact buildRegister_of_error failed
  rw [stepped]
  unfold withRegister ofRegister
  rw [taken]
  rfl

/-! ## Other steps -/

/-- Other steps leave the register alone unless they start the session afresh. -/
theorem register_step (needless : step.needsRegister = false) (same : s.renews step = false) :
    (s.step step).1.register = s.register := by
  cases step with
  | setEntry position change =>
      simp only [Session.step]
      split
      · rfl
      · rfl
  | setStudio position change =>
      simp only [Session.step]
      split
      · rfl
      · rfl
  | rebuild given =>
      simp only [Session.step, restart]
      cases made : Settings.build [] s.home (given.getD s.given) with
      | ok settings =>
          rw [renews_rebuild, made] at same
          cases same
      | error refusal => rfl
  | entriesByTitle | entriesByStudioAndDate | allStudios | studiosByTitle | tieBreak
  | insertEntry | insertStudio | fail | heal => rfl
  | _ => cases needless

/-- A session that is started afresh has the same library and no register. -/
theorem register_step_of_renews (renewed : s.renews step = true) :
    (s.step step).1.register = none ∧ (s.step step).1.library = s.library := by
  cases step with
  | rebuild given =>
      simp only [Session.step, restart]
      cases made : Settings.build [] s.home (given.getD s.given) with
      | ok settings => exact ⟨rfl, rfl⟩
      | error refusal =>
          rw [renews_rebuild, made] at renewed
          cases renewed
  | _ => cases renewed

end Session

end ReleaseCatalog
