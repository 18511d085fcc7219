import ReleaseCatalog.Engine
import ReleaseCatalog.Holdings.Library
import ReleaseCatalog.Proofs.Matching.BestScene

/-!
# Looking a scene up in a library

The engine asks the store about one studio after the other and drops the
repetitions of studios and entries.  Over the store of a library nothing can
fail, so each step has a plain answer (`studiosNamed_outcome`,
`entriesOf_outcome`, `findSceneOn_outcome`).  The store may answer with more
entries than those of the day it is asked for (`OverAnswers`).  If no two
entries have the same number, dropping repetitions loses no entry, and the
candidates of the day are exactly the entries of the studios on the day
(`mem_scenesOn_candidates`).  So the answer is the best scene among all entries
of the library that are published on the day by a studio that the title
resolves to (`isBestScene_answering`), and a name that is read as a scene is
identified as that one.
-/

namespace ReleaseCatalog

open Journal (Traced)
open Matching (IsBestScene TieBreak chosenScene scenesOn wordTokens)

/-! ## Repetitions -/

/-- Nothing is lost with the repetitions if no two elements have the same key. -/
theorem mem_distinctBy_iff {α β : Type} [DecidableEq β] {key : α → β} {list : List α}
    (injective : ∀ a ∈ list, ∀ b ∈ list, key a = key b → a = b) {a : α} :
    a ∈ distinctBy key list ↔ a ∈ list := by
  constructor
  · exact fun h => (distinctBy_sublist key list).mem h
  · intro h
    obtain ⟨b, hb, same⟩ : ∃ b ∈ distinctBy key list, key b = key a := exists_mem_distinctBy h
    rw [← injective b ((distinctBy_sublist key list).mem hb) a h same]
    exact hb

namespace Library

variable (l : Library)

/-- The engine over the store of the library. -/
def engine (parser : Release.Parser) (detector : Release.Detector) (aliases : AliasRegister)
    (policy : TieBreak) : Engine where
  parser := parser
  detector := detector
  store := l.store
  aliases := aliases
  tieBreak := policy

/-- The entries of several studios published on a day. -/
def scenesOf (foreignIds : List Text) (date : Text) : List Entry :=
  l.entries.filter fun e =>
    e.studioForeignId.any foreignIds.contains && e.releaseDate = some date

theorem mem_scenesOf {foreignIds : List Text} {date : Text} {e : Entry} :
    e ∈ l.scenesOf foreignIds date ↔
      e ∈ l.entries ∧ (∃ id ∈ foreignIds, e.studioForeignId = some id) ∧
        e.releaseDate = some date := by
  unfold scenesOf
  rw [List.mem_filter, Bool.and_eq_true, decide_eq_true_eq, Option.any_eq_true]
  constructor
  · rintro ⟨member, ⟨id, studio, listed⟩, day⟩
    exact ⟨member, ⟨id, List.contains_iff_mem.mp listed, studio⟩, day⟩
  · rintro ⟨member, ⟨id, listed, studio⟩, day⟩
    exact ⟨member, ⟨id, studio, List.contains_iff_mem.mpr listed⟩, day⟩

/-- The studios that a title resolves to. -/
def studiosNamed (aliases : AliasRegister) (title : Text) : List Studio :=
  if Title.key title = [] then []
  else distinctBy Studio.foreignId <|
    if l.studiosByTitle (Title.key title) = [] then
      (aliases.related title).flatMap fun alternate => l.studiosByTitle (Title.key alternate)
    else l.studiosByTitle (Title.key title)

/-- The store of the library with other answers to the question for a day of a studio. -/
def storeAnswering (answers : Text → Text → List Entry) : Store :=
  { l.store with entriesByStudioAndDate := fun foreignId date => .ok (answers foreignId date) }

/-- The engine over the store with other answers to the question for a day of a studio. -/
def engineAnswering (answers : Text → Text → List Entry) (parser : Release.Parser)
    (detector : Release.Detector) (aliases : AliasRegister) (policy : TieBreak) : Engine :=
  { l.engine parser detector aliases policy with store := l.storeAnswering answers }

/-- The entries that are answered for a day of several studios, each once. -/
def candidates (answers : Text → Text → List Entry) (date : Text) (studios : List Studio) :
    List Entry :=
  distinctBy Entry.id (studios.flatMap fun s => answers s.foreignId date)

/-- Alternate titles are looked up one after the other in a store that answers with the studios
of the library. -/
theorem findByAliases_outcome {store : Store}
    (answered : ∀ title, store.studiosByTitle title = .ok (l.studiosByTitle title)) (title : Text)
    (alternates : List Text) :
    (Engine.findByAliases store title alternates).outcome =
      .ok (alternates.flatMap fun alternate => l.studiosByTitle (Title.key alternate)) := by
  induction alternates with
  | nil => rfl
  | cons alternate rest ih =>
      unfold Engine.findByAliases
      refine (Traced.outcome_bind_of_ok rfl).trans ?_
      refine (Traced.outcome_bind_of_ok (answered (Title.key alternate))).trans ?_
      exact Traced.outcome_bind_of_ok ih

/-- Which studios a title resolves to depends only on what the store answers about titles. -/
theorem studiosNamed_of_answered {engine : Engine}
    (answered : ∀ title, engine.store.studiosByTitle title = .ok (l.studiosByTitle title))
    (title : Text) :
    (engine.studiosNamed title).outcome = .ok (l.studiosNamed engine.aliases title) := by
  unfold Engine.studiosNamed studiosNamed
  by_cases blank : Title.key title = []
  · simp only [blank, if_true]
    rfl
  · simp only [blank, if_false]
    refine (Traced.outcome_bind_of_ok (answered (Title.key title))).trans ?_
    by_cases unknown : l.studiosByTitle (Title.key title) = []
    · simp only [unknown, if_true]
      exact Traced.outcome_bind_of_ok (l.findByAliases_outcome answered title _)
    · simp only [unknown, if_false]
      rfl

variable (answers : Text → Text → List Entry)

theorem entriesOf_outcome (date : Text) (studios : List Studio) :
    (Engine.entriesOf (l.storeAnswering answers) date studios).outcome =
      .ok (studios.flatMap fun s => answers s.foreignId date) := by
  induction studios with
  | nil => rfl
  | cons studio rest ih =>
      unfold Engine.entriesOf
      refine (Traced.outcome_bind_of_ok rfl).trans ?_
      exact Traced.outcome_bind_of_ok ih

variable (parser : Release.Parser) (detector : Release.Detector) (aliases : AliasRegister)
  (policy : TieBreak)

/-- Which studios a title resolves to does not depend on what is answered about entries. -/
theorem studiosNamed_answering (title : Text) :
    ((l.engineAnswering answers parser detector aliases policy).studiosNamed title).outcome =
      .ok (l.studiosNamed aliases title) :=
  l.studiosNamed_of_answered (fun _ => rfl) title

theorem studiosNamed_outcome (title : Text) :
    ((l.engine parser detector aliases policy).studiosNamed title).outcome =
      .ok (l.studiosNamed aliases title) :=
  l.studiosNamed_answering l.entriesByStudioAndDate parser detector aliases policy title

theorem findSceneOn_outcome (title date : Text) (words : List Text) :
    ((l.engineAnswering answers parser detector aliases policy).findSceneOn title date
        words).outcome =
      .ok (chosenScene policy (candidates answers date (l.studiosNamed aliases title)) date
        words) := by
  unfold Engine.findSceneOn
  have named := l.studiosNamed_answering answers parser detector aliases policy title
  refine (Traced.outcome_bind_of_ok named).trans ?_
  by_cases unknown : l.studiosNamed aliases title = []
  · simp only [unknown, if_true]
    rfl
  · simp only [unknown, if_false]
    refine (Traced.outcome_bind_of_ok (l.entriesOf_outcome answers date _)).trans ?_
    refine (Traced.outcome_bind_of_ok rfl).trans ?_
    show (if (chosenScene policy (candidates answers date _) date words).isNone then _ else _ :
      Engine.Lookup _).outcome = _
    split
    · rfl
    · rfl

/-! ## The candidates -/

/-- The answers for a day of a studio have every entry that is asked for, in whatever order and
however often, and beyond these only entries of the library that are not of the day. -/
structure OverAnswers : Prop where
  complete : ∀ foreignId date, ∀ e ∈ l.entriesByStudioAndDate foreignId date,
    e ∈ answers foreignId date
  sound : ∀ foreignId date, ∀ e ∈ answers foreignId date,
    e ∈ l.entriesByStudioAndDate foreignId date ∨ e ∈ l.entries ∧ e.releaseDate ≠ some date

/-- The library itself answers with what is asked for. -/
theorem overAnswers_entriesByStudioAndDate : l.OverAnswers l.entriesByStudioAndDate where
  complete _ _ _ he := he
  sound _ _ _ he := .inl he

variable {l answers}

theorem mem_entriesByStudioAndDate {foreignId date : Text} {e : Entry} :
    e ∈ l.entriesByStudioAndDate foreignId date ↔
      e ∈ l.entries ∧ e.studioForeignId = some foreignId ∧ e.releaseDate = some date := by
  unfold entriesByStudioAndDate
  rw [List.mem_filter, Bool.and_eq_true, decide_eq_true_eq, decide_eq_true_eq]

theorem entry_eq_of_id_eq (distinct : (l.entries.map Entry.id).Nodup) :
    ∀ e ∈ l.entries, ∀ other ∈ l.entries, e.id = other.id → e = other :=
  fun _ he _ ho same => List.inj_on_of_nodup_map distinct he ho same

/-- Only entries of the library are answered. -/
theorem OverAnswers.mem_entries (wide : l.OverAnswers answers) {foreignId date : Text} {e : Entry}
    (answered : e ∈ answers foreignId date) : e ∈ l.entries := by
  rcases wide.sound foreignId date e answered with asked | other
  · exact (mem_entriesByStudioAndDate.mp asked).1
  · exact other.1

/-- Of the answers, those of the day are the entries asked for. -/
theorem OverAnswers.mem_iff_of_day (wide : l.OverAnswers answers) {foreignId date : Text}
    {e : Entry} (day : e.releaseDate = some date) :
    e ∈ answers foreignId date ↔ e ∈ l.entries ∧ e.studioForeignId = some foreignId := by
  constructor
  · intro answered
    rcases wide.sound foreignId date e answered with asked | other
    · obtain ⟨stored, published, -⟩ := mem_entriesByStudioAndDate.mp asked
      exact ⟨stored, published⟩
    · exact absurd day other.2
  · rintro ⟨stored, published⟩
    exact wide.complete foreignId date e (mem_entriesByStudioAndDate.mpr ⟨stored, published, day⟩)

/-- If the entries have different numbers, every answer is a candidate. -/
theorem mem_candidates (distinct : (l.entries.map Entry.id).Nodup) (wide : l.OverAnswers answers)
    {date : Text} {studios : List Studio} {e : Entry} :
    e ∈ candidates answers date studios ↔ ∃ s ∈ studios, e ∈ answers s.foreignId date := by
  have injective : ∀ a ∈ studios.flatMap (fun s => answers s.foreignId date),
      ∀ b ∈ studios.flatMap (fun s => answers s.foreignId date), a.id = b.id → a = b := by
    intro a ha b hb
    obtain ⟨s, -, answered⟩ := List.mem_flatMap.mp ha
    obtain ⟨s', -, answered'⟩ := List.mem_flatMap.mp hb
    exact entry_eq_of_id_eq distinct a (wide.mem_entries answered) b (wide.mem_entries answered')
  unfold candidates
  rw [mem_distinctBy_iff injective, List.mem_flatMap]

theorem candidate_eq_of_id_eq (distinct : (l.entries.map Entry.id).Nodup)
    (wide : l.OverAnswers answers) {date : Text} {studios : List Studio} :
    ∀ e ∈ candidates answers date studios, ∀ other ∈ candidates answers date studios,
      e.id = other.id → e = other := by
  intro e he other ho
  obtain ⟨s, -, answered⟩ := (mem_candidates distinct wide).mp he
  obtain ⟨s', -, answered'⟩ := (mem_candidates distinct wide).mp ho
  exact entry_eq_of_id_eq distinct e (wide.mem_entries answered) other (wide.mem_entries answered')

/-- The candidates of a day are the entries of the studios on that day. -/
theorem mem_scenesOn_candidates (distinct : (l.entries.map Entry.id).Nodup)
    (wide : l.OverAnswers answers) {date : Text} {studios : List Studio} {e : Entry} :
    e ∈ scenesOn date (candidates answers date studios) ↔
      e ∈ l.scenesOf (studios.map Studio.foreignId) date := by
  unfold scenesOn
  rw [List.mem_filter, decide_eq_true_eq, mem_candidates distinct wide, mem_scenesOf]
  constructor
  · rintro ⟨⟨s, known, answered⟩, day⟩
    obtain ⟨stored, published⟩ := (wide.mem_iff_of_day day).mp answered
    exact ⟨stored, ⟨s.foreignId, List.mem_map_of_mem known, published⟩, day⟩
  · rintro ⟨stored, ⟨id, listed, published⟩, day⟩
    obtain ⟨s, known, rfl⟩ := List.mem_map.mp listed
    exact ⟨⟨s, known, (wide.mem_iff_of_day day).mpr ⟨stored, published⟩⟩, day⟩

/-! ## The answer -/

/-- For a studio and a day the answer is the best of the entries of the day, also if the store
answers with more than that. -/
theorem isBestScene_answering (distinct : (l.entries.map Entry.id).Nodup)
    (wide : l.OverAnswers answers) (title date : Text) (words : List Text) :
    ∃ answer, ((l.engineAnswering answers parser detector aliases policy).findSceneOn title date
        words).outcome = .ok answer ∧
      IsBestScene policy (wordTokens words).toFinset
        (l.scenesOf ((l.studiosNamed aliases title).map Studio.foreignId) date) answer := by
  refine ⟨_, l.findSceneOn_outcome answers parser detector aliases policy title date words, ?_⟩
  refine IsBestScene.congr (Matching.isBestScene_chosenScene ?_) fun e => ?_
  · exact candidate_eq_of_id_eq distinct wide
  · exact mem_scenesOn_candidates distinct wide

theorem isBestScene_findSceneOn (distinct : (l.entries.map Entry.id).Nodup) (title date : Text)
    (words : List Text) :
    ∃ answer, ((l.engine parser detector aliases policy).findSceneOn title date words).outcome =
        .ok answer ∧
      IsBestScene policy (wordTokens words).toFinset
        (l.scenesOf ((l.studiosNamed aliases title).map Studio.foreignId) date) answer :=
  isBestScene_answering parser detector aliases policy distinct
    l.overAnswers_entriesByStudioAndDate title date words

end Library

namespace Engine

theorem findScene_of_missing (engine : Engine) {studio date : Option Text} (words : List Text)
    (missing : studio = none ∨ studio = some [] ∨ date = none ∨ date = some []) :
    engine.findScene studio date words = pure none := by
  unfold findScene
  rcases missing with rfl | rfl | rfl | rfl
  · rfl
  · rfl
  · cases studio.filter (· ≠ [])
    · rfl
    · rfl
  · cases studio.filter (· ≠ [])
    · rfl
    · rfl

theorem findScene_of_given (engine : Engine) {studio date : Text} (words : List Text)
    (named : studio ≠ []) (dated : date ≠ []) :
    engine.findScene (some studio) (some date) words = engine.findSceneOn studio date words := by
  simp [findScene, Option.filter, named, dated]

/-- A name that is read as a scene is looked up by what it says. -/
theorem identify_outcome_of_isScene (engine : Engine) (raw : Text) (excluded : List Int)
    (scene : (engine.parser.parse (engine.detector raw) raw).isScene = true) :
    (engine.identify raw excluded).outcome =
      (engine.findScene (engine.parser.parse (engine.detector raw) raw).studioTitle
        (engine.parser.parse (engine.detector raw) raw).releaseDate
        (engine.parser.parse (engine.detector raw) raw).tokens).outcome := by
  have parsed : (engine.parse raw).outcome =
      .ok (engine.parser.parse (engine.detector raw) raw) := rfl
  unfold identify
  refine (Traced.outcome_bind_of_ok parsed).trans ?_
  rw [if_pos scene]

end Engine

namespace Library

variable {l : Library} (parser : Release.Parser) (detector : Release.Detector)
  (aliases : AliasRegister) (policy : TieBreak)

/-- In what order and how often the words of a release are given does not matter. -/
theorem findScene_congr (distinct : (l.entries.map Entry.id).Nodup) (studio date : Option Text)
    {words words' : List Text} (same : ∀ w, w ∈ words ↔ w ∈ words') :
    ((l.engine parser detector aliases policy).findScene studio date words).outcome =
      ((l.engine parser detector aliases policy).findScene studio date words').outcome := by
  by_cases missing : studio = none ∨ studio = some [] ∨ date = none ∨ date = some []
  · rw [Engine.findScene_of_missing _ words missing, Engine.findScene_of_missing _ words' missing]
  · cases studio with
    | none => exact absurd (.inl rfl) missing
    | some title =>
        cases date with
        | none => exact absurd (.inr (.inr (.inl rfl))) missing
        | some day =>
            have named : title ≠ [] := fun empty => missing (.inr (.inl (congrArg some empty)))
            have dated : day ≠ [] := fun empty =>
              missing (.inr (.inr (.inr (congrArg some empty))))
            rw [Engine.findScene_of_given _ words named dated,
              Engine.findScene_of_given _ words' named dated]
            obtain ⟨answer, found, best⟩ :=
              isBestScene_findSceneOn parser detector aliases policy distinct title day words
            obtain ⟨answer', found', best'⟩ :=
              isBestScene_findSceneOn parser detector aliases policy distinct title day words'
            have tokens : (wordTokens words).toFinset = (wordTokens words').toFinset :=
              Title.toFinset_tokens_unwords same
            rw [tokens] at best
            rw [found, found', best.unique best']

/-- Looking a scene up in a library whose entries have different numbers.  Without
a studio or a day there is no answer.  Otherwise the answer is the best scene
among the entries published on the day by the studios that the title resolves
to.  A name that is read as a scene is looked up in this way by what it says,
whichever entries are excluded and however its tokens are listed. -/
theorem findScene_isBestScene (distinct : (l.entries.map Entry.id).Nodup) :
    (∀ (studio date : Option Text) (words : List Text),
      (studio = none ∨ studio = some [] ∨ date = none ∨ date = some []) →
        ((l.engine parser detector aliases policy).findScene studio date words).outcome =
          .ok none) ∧
    (∀ (studio date : Text) (words : List Text), studio ≠ [] → date ≠ [] →
      ∃ (studios : List Studio) (answer : Option Entry),
        ((l.engine parser detector aliases policy).studiosNamed studio).outcome = .ok studios ∧
        ((l.engine parser detector aliases policy).findScene (some studio) (some date)
          words).outcome = .ok answer ∧
        IsBestScene policy (Title.tokens (Text.unwords words)).toFinset
          (l.scenesOf (studios.map Studio.foreignId) date) answer) ∧
    (∀ (raw : Text) (excluded : List Int) (words : List Text),
      (parser.parse (detector raw) raw).isScene = true →
      (∀ w, w ∈ words ↔ w ∈ (parser.parse (detector raw) raw).tokens) →
        ((l.engine parser detector aliases policy).identify raw excluded).outcome =
          ((l.engine parser detector aliases policy).findScene
            (parser.parse (detector raw) raw).studioTitle
            (parser.parse (detector raw) raw).releaseDate words).outcome) := by
  refine ⟨?_, ?_, ?_⟩
  · intro studio date words missing
    rw [Engine.findScene_of_missing _ words missing]
    rfl
  · intro studio date words named dated
    obtain ⟨answer, found, best⟩ :=
      isBestScene_findSceneOn parser detector aliases policy distinct studio date words
    refine ⟨l.studiosNamed aliases studio, answer, ?_, ?_, best⟩
    · exact l.studiosNamed_outcome parser detector aliases policy studio
    · rw [Engine.findScene_of_given _ words named dated]
      exact found
  · intro raw excluded words scene listing
    have identified := Engine.identify_outcome_of_isScene
      (l.engine parser detector aliases policy) raw excluded scene
    refine identified.trans ?_
    exact findScene_congr parser detector aliases policy distinct _ _ fun w => (listing w).symm

/-- Two scenes of one studio on one day. -/
def twoScenes : Library where
  entries :=
    [{ id := 1, title := "Night".toList, studioForeignId := some "s".toList,
       releaseDate := some "2021-01-08".toList },
     { id := 2, title := "Day".toList, studioForeignId := some "s".toList,
       releaseDate := some "2021-01-08".toList,
       credits := [{ performerName := "Quinn Waters".toList }] }]
  studios := [{ id := 1, foreignId := "s".toList, title := "Studio".toList }]

theorem identify_quinn :
    ((twoScenes.engine {} .off (.ofPairs []) .fewestPerformers).identify
        "Studio.21.01.08.Quinn.mp4".toList [2]).outcome =
      ((twoScenes.engine {} .off (.ofPairs []) .fewestPerformers).findScene
        (some "Studio".toList) (some "2021-01-08".toList) ["quinn".toList]).outcome ∧
    ∃ (studios : List Studio) (answer : Option Entry),
      ((twoScenes.engine {} .off (.ofPairs []) .fewestPerformers).studiosNamed
        "Studio".toList).outcome = .ok studios ∧
      ((twoScenes.engine {} .off (.ofPairs []) .fewestPerformers).findScene
        (some "Studio".toList) (some "2021-01-08".toList) ["quinn".toList]).outcome =
          .ok answer ∧
      IsBestScene .fewestPerformers (Title.tokens (Text.unwords ["quinn".toList])).toFinset
        (twoScenes.scenesOf (studios.map Studio.foreignId) "2021-01-08".toList) answer := by
  obtain ⟨-, given, scenes⟩ :=
    findScene_isBestScene {} .off (.ofPairs []) .fewestPerformers (l := twoScenes) (by decide)
  constructor
  · have reading : (({} : Release.Parser).parse
        (Release.Detector.off "Studio.21.01.08.Quinn.mp4".toList)
        "Studio.21.01.08.Quinn.mp4".toList) =
        { rawName := "Studio.21.01.08.Quinn.mp4".toList, title := "Quinn".toList,
          studioTitle := some "Studio".toList, releaseDate := some "2021-01-08".toList,
          isScene := true, tokens := ["quinn".toList] } := by
      decide +kernel
    have same := scenes "Studio.21.01.08.Quinn.mp4".toList [2] ["quinn".toList]
    rw [reading] at same
    exact same rfl fun w => Iff.rfl
  · exact given "Studio".toList "2021-01-08".toList ["quinn".toList] (by decide) (by decide)

end Library

end ReleaseCatalog
