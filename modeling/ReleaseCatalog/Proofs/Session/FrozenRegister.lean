import ReleaseCatalog.Proofs.Engine.SceneLookup
import ReleaseCatalog.Proofs.Session.Runs
import ReleaseCatalog.Proofs.Title.NormalForm

/-!
# The alias register is frozen once it is built

What a run keeps follows from what its steps keep (`holds_after`).  Two properties of a
session are kept.  As long as the store fails on the question for all studios
whenever the register is needed, there is no register (`unbuilt_after`), and each step
that needs it answers with the failure and changes nothing (`Refuses`).  Once there
is a register it stays, until the session is started afresh (`register_step_of_built`),
and each step that needs it answers by it (`Uses`).  The two are put together at the
step between them, which is the only one that builds a register (`BuildsOnce`).

So a title is resolved by a register of one moment and by the studios of
another.  The studios with the title itself are always those of the library as it
stands (`studiosNamed_engine`), and only if there are none does the register matter.
-/

namespace ReleaseCatalog.Session

variable {s : Session} {steps : List Step}

/-- A property of each step of a run and of the session in which the step is taken. -/
def Throughout (holds : Session → Step → Prop) (s : Session) : List Step → Prop
  | [] => True
  | step :: rest => holds s step ∧ Throughout holds (s.step step).1 rest
termination_by structural steps => steps

/-- What every step of a run keeps is kept by the run. -/
theorem holds_after {invariant : Session → Prop} {holds : Session → Step → Prop}
    (kept : ∀ u step, invariant u → holds u step → invariant (u.step step).1)
    (begins : invariant s) (through : Throughout holds s steps) : invariant (s.after steps) := by
  induction steps generalizing s with
  | nil => exact begins
  | cons step rest ih => exact ih (kept s step begins through.1) through.2

/-- What an invariant gives for one step it gives throughout. -/
theorem Throughout.of_invariant {invariant : Session → Prop} {holds gives : Session → Step → Prop}
    (kept : ∀ u step, invariant u → holds u step → invariant (u.step step).1)
    (given : ∀ u step, invariant u → holds u step → gives u step)
    (begins : invariant s) (through : Throughout holds s steps) : Throughout gives s steps := by
  induction steps generalizing s with
  | nil => trivial
  | cons step rest ih =>
      exact ⟨given s step begins through.1, ih (kept s step begins through.1) through.2⟩

/-! ## Before the register is built -/

/-- The store answers with all studios, so that a register can be built. -/
def CanBuild (s : Session) : Prop := ∃ studios, s.store.allStudios = .ok studios

/-- The step builds no register: it needs none, or none can be built. -/
def BuildsNone (s : Session) (step : Step) : Prop := step.needsRegister = true → ¬ s.CanBuild

theorem exists_failure (stuck : ¬ s.CanBuild) : ∃ failure, s.store.allStudios = .error failure := by
  cases asked : s.store.allStudios with
  | ok studios => exact absurd ⟨studios, asked⟩ stuck
  | error failure => exact ⟨failure, rfl⟩

/-- A step that finds no register and cannot build one leaves none. -/
theorem register_step_of_buildsNone {step : Step} (unbuilt : s.register = none)
    (stuck : s.BuildsNone step) : (s.step step).1.register = none := by
  cases needs : step.needsRegister with
  | true =>
      obtain ⟨failure, failed⟩ := exists_failure (stuck needs)
      rw [step_of_failing unbuilt failed needs]
      exact unbuilt
  | false =>
      cases renewed : s.renews step with
      | true => exact (register_step_of_renews renewed).1
      | false => exact (register_step needs renewed).trans unbuilt

theorem unbuilt_after (unbuilt : s.register = none) (failing : Throughout BuildsNone s steps) :
    (s.after steps).register = none :=
  holds_after (fun _ _ => register_step_of_buildsNone) unbuilt failing

/-! ## After it is built -/

/-- A step leaves the register in use, unless it starts the session afresh. -/
theorem register_step_of_built {table : AliasRegister} {step : Step}
    (built : s.register = some table) (same : s.renews step = false) :
    (s.step step).1.register = some table := by
  cases needs : step.needsRegister with
  | true =>
      rw [step_of_built built needs]
      exact built
  | false => exact (register_step needs same).trans built

/-! ## Resolving a title -/

/-- Unless the store fails on the question for a title, a title resolves to the studios that the
library has now, by the register that is in use. -/
theorem studiosNamed_engine (s : Session) (table : AliasRegister) (title : Text)
    (healthy : s.failures.lookup .studiosByTitle = none) :
    ((s.engine table).studiosNamed title).outcome = .ok (s.library.studiosNamed table title) := by
  refine s.library.studiosNamed_of_answered (fun asked => ?_) title
  refine (s.studiosByTitle_store asked).trans ?_
  rw [healthy]

/-- The studios with a title are resolved first, and the register only if there are none. -/
theorem studiosNamed_eq (l : Library) (table : AliasRegister) {title : Text}
    (titled : Title.key title ≠ []) :
    l.studiosNamed table title =
      distinctBy Studio.foreignId
        (if l.studiosByTitle title = [] then (table.related title).flatMap l.studiosByTitle
        else l.studiosByTitle title) := by
  -- The engine asks by keys, and a key is its own key.
  have keyed : ∀ t, l.studiosByTitle (Title.key t) = l.studiosByTitle t := by
    intro t
    unfold Library.studiosByTitle
    rw [Title.key_key]
  unfold Library.studiosNamed
  simp only [if_neg titled, keyed]

/-! ## The first building -/

/-- The register of the studios as they stand. -/
def registerNow (s : Session) : AliasRegister :=
  .ofStudios s.library.studios s.settings.aliases

/-- The step does not need the register, or it answers with the failure of the store to list the
studios and leaves the session as it was. -/
def Refuses (s : Session) (step : Step) : Prop :=
  step.needsRegister = true →
    (s.step step).1 = s ∧ ∃ failure, s.store.allStudios = .error failure ∧
      (s.step step).2.outcome = .error (.store failure)

/-- The step does not need the register, or it answers by a given one and leaves the session as it
was. -/
def Uses (table : AliasRegister) (s : Session) (step : Step) : Prop :=
  step.needsRegister = true → s.step step = (s, s.answerBy table step)

/-- The step does not start the session afresh. -/
def GoesOn (s : Session) (step : Step) : Prop := s.renews step = false

/-- The step answers by the register of the studios as they stand, and all later steps go on with
this register, whatever becomes of the studios, until the session is started afresh. -/
structure Freezes (s : Session) (first : Step) : Prop where
  answered : (s.step first).2.outcome = (s.answerBy s.registerNow first).outcome
  kept : ∀ rest, Throughout GoesOn (s.step first).1 rest →
    Throughout (Uses s.registerNow) (s.step first).1 rest

/-- The steps before the first building are refused, if they need a register, and the first step
behind them that can build one freezes it. -/
structure BuildsOnce (s : Session) (before : List Step) : Prop where
  refused : Throughout Refuses s before
  frozen : ∀ first, first.needsRegister = true → (s.after before).CanBuild →
    (s.after before).Freezes first

/-- A title resolves to the studios that have it now, and only if there are none to those of the
titles that a register relates to it. -/
def Resolves (s : Session) (table : AliasRegister) (title : Text) : Prop :=
  ((s.engine table).studiosNamed title).outcome =
    .ok (distinctBy Studio.foreignId
      (if s.library.studiosByTitle title = [] then
        (table.related title).flatMap s.library.studiosByTitle
      else s.library.studiosByTitle title))

theorem start_unbuilt {library : Library} {undated : Bool} {detector : Release.Detector}
    {home : Option Text} {given : Settings.Given} {s : Session}
    (opened : start library undated detector home given = .ok s) :
    s.register = none ∧ s.library = library ∧ s.failures = [] := by
  unfold start at opened
  cases made : Settings.build [] home given with
  | error refusal =>
      rw [made] at opened
      cases opened
  | ok settings =>
      rw [made] at opened
      cases opened
      exact ⟨rfl, rfl, rfl⟩

/-- Nothing was built before, so the first step that can build does, and its register is in use
behind it. -/
theorem freezes_of_unbuilt {first : Step} (unbuilt : s.register = none)
    (needs : first.needsRegister = true) (canBuild : s.CanBuild) : s.Freezes first := by
  obtain ⟨studios, answered⟩ := canBuild
  obtain rfl := eq_studios_of_allStudios answered
  have stepped := step_of_building unbuilt answered needs
  have built : (s.step first).1.register = some s.registerNow := congrArg (·.1.register) stepped
  refine ⟨congrArg (·.2.outcome) stepped, fun rest onward => ?_⟩
  exact Throughout.of_invariant (fun _ _ => register_step_of_built)
    (fun _ _ built' _ needs' => step_of_built built' needs') built onward

theorem buildsOnce {before : List Step} (unbuilt : s.register = none)
    (failing : Throughout BuildsNone s before) : s.BuildsOnce before where
  refused := by
    refine Throughout.of_invariant (fun _ _ => register_step_of_buildsNone) ?_ unbuilt failing
    intro u step unbuilt' fails needs
    obtain ⟨failure, failed⟩ := exists_failure (fails needs)
    rw [step_of_failing unbuilt' failed needs]
    exact ⟨rfl, failure, failed, rfl⟩
  frozen _ needs canBuild := freezes_of_unbuilt (unbuilt_after unbuilt failing) needs canBuild

/-- A session that is opened, or started afresh, has no register.  Until one can be built, each
step that needs it answers with the failure of the store and changes nothing.  The first step
that can build one does so from the studios as they stand, and answers by it.  From then on, until
the session is started afresh, every step that needs the register answers by this one, whatever
becomes of the studios.  A title is resolved to the studios that have it now, and by the register
only if there are none. -/
theorem register_frozen :
    (∀ library undated detector home given s,
      start library undated detector home given = .ok s →
        s.register = none ∧ s.library = library ∧ s.failures = []) ∧
    (∀ (s : Session) (step : Step), s.renews step = true →
      (s.step step).1.register = none ∧ (s.step step).1.library = s.library) ∧
    (∀ (s : Session) (before : List Step), s.register = none → Throughout BuildsNone s before →
      s.BuildsOnce before) ∧
    (∀ (s : Session) (table : AliasRegister) (title : Text),
      s.failures.lookup .studiosByTitle = none → Title.key title ≠ [] →
        s.Resolves table title) := by
  refine ⟨fun _ _ _ _ _ _ => start_unbuilt, fun _ _ => register_step_of_renews,
    fun _ _ => buildsOnce, fun s table title healthy titled => ?_⟩
  unfold Resolves
  rw [studiosNamed_engine s table title healthy, studiosNamed_eq s.library table titled]

/-- A studio with a network. -/
def networkStudio : Studio :=
  { id := 1, foreignId := "a".toList, title := "Night".toList, network := some "N".toList }

/-- The alias pairs that a step answers with. -/
def aliasAnswer? (o : Outcome) : Option (List AliasPair) :=
  match o.outcome with
  | .ok (.aliases pairs) => some pairs
  | _ => none

/-- A rebuild ends the use of a register: a studio that was added since then has its network in
the next one. -/
theorem register_dropped_by_rebuild :
    start {} false .off none [] = .ok empty ∧
      (empty.run [.aliases, .insertStudio networkStudio, .rebuild none, .aliases]).map
          aliasAnswer? =
        [some (AliasRegister.ofStudios [] []).pairs, none, none,
          some (AliasRegister.ofStudios [networkStudio] []).pairs] ∧
      (AliasRegister.ofStudios [networkStudio] []).pairs ≠ (AliasRegister.ofStudios [] []).pairs :=
  ⟨start_empty, by decide +kernel, by decide +kernel⟩

/-- The store fails at first.  The register is built when it does no more, and a studio that is
added then is found by its title and not by its network. -/
theorem register_frozen_night :
    let before : List Step := [.fail .allStudios ⟨.timeout, "slow".toList⟩, .aliases, .heal]
    let rest : List Step := [.insertStudio networkStudio, .studiosNamed "N".toList]
    let u := empty.after before
    let v := (u.step .aliases).1.after rest
    empty.register = none ∧ Throughout BuildsNone empty before ∧ Throughout Refuses empty before ∧
      u.CanBuild ∧ u.registerNow = .ofStudios [] [] ∧
      (u.step .aliases).2.outcome = (u.answerBy u.registerNow .aliases).outcome ∧
      Throughout GoesOn (u.step .aliases).1 rest ∧
      Throughout (Uses u.registerNow) (u.step .aliases).1 rest ∧
      ((v.engine u.registerNow).studiosNamed "N".toList).outcome = .ok [] ∧
      ((v.engine u.registerNow).studiosNamed "night".toList).outcome = .ok [networkStudio] := by
  intro before rest u v
  obtain ⟨opened, -, buildsOnce, resolved⟩ := register_frozen
  obtain ⟨unbuilt, -, -⟩ := opened _ _ _ _ _ _ start_empty
  have failing : Throughout BuildsNone empty before := by
    refine ⟨fun needs => ?_, fun _ => ?_, fun needs => ?_, trivial⟩
    · cases needs
    · rintro ⟨studios, answered⟩
      cases answered
    · cases needs
  obtain ⟨refused, frozen⟩ := buildsOnce empty before unbuilt failing
  have canBuild : u.CanBuild := ⟨[], rfl⟩
  obtain ⟨answered, kept⟩ := frozen .aliases rfl canBuild
  have onward : Throughout GoesOn (u.step .aliases).1 rest := ⟨rfl, rfl, trivial⟩
  refine ⟨unbuilt, failing, refused, canBuild, rfl, answered, onward, kept rest onward, ?_, ?_⟩
  · exact (resolved v u.registerNow _ rfl (by decide +kernel)).trans (by decide +kernel)
  · exact (resolved v u.registerNow _ rfl (by decide +kernel)).trans (by decide +kernel)

end ReleaseCatalog.Session
