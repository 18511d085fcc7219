import ReleaseCatalog.Proofs.Engine.SceneLookup

/-!
# Stores that answer with too much

Some sources disregard the day they are asked for, repeat entries, or give them in an
order of their own.  An answer of this kind has every entry that is asked for, and what
else it has is of other days (`Library.OverAnswers`).  Candidates are told apart by
their numbers before those of the day are selected, so an entry of another day could
hide one of the day if both had one number.  In a library whose entries have different
numbers this cannot happen: the candidates of the day are the same entries as before,
and which of them is the best depends on nothing else.
-/

namespace ReleaseCatalog

namespace Library

open Matching (IsBestScene TieBreak)

variable {l : Library} {answers : Text → Text → List Entry}

theorem mem_entriesByStudio {foreignId : Text} {e : Entry} :
    e ∈ l.entriesByStudio foreignId ↔ e ∈ l.entries ∧ e.studioForeignId = some foreignId := by
  unfold entriesByStudio
  rw [List.mem_filter, decide_eq_true_eq]

/-- All entries of a studio are an answer that has too much. -/
theorem overAnswers_entriesByStudio :
    l.OverAnswers fun foreignId _ => l.entriesByStudio foreignId where
  complete foreignId date e asked := by
    obtain ⟨stored, published, -⟩ := mem_entriesByStudioAndDate.mp asked
    exact mem_entriesByStudio.mpr ⟨stored, published⟩
  sound foreignId date e answered := by
    obtain ⟨stored, published⟩ := mem_entriesByStudio.mp answered
    by_cases day : e.releaseDate = some date
    · exact .inl (mem_entriesByStudioAndDate.mpr ⟨stored, published, day⟩)
    · exact .inr ⟨stored, day⟩

/-- In what order and how often the answers are given does not matter. -/
theorem OverAnswers.congr {answers' : Text → Text → List Entry} (wide : l.OverAnswers answers)
    (same : ∀ foreignId date e, e ∈ answers' foreignId date ↔ e ∈ answers foreignId date) :
    l.OverAnswers answers' where
  complete foreignId date e asked :=
    (same foreignId date e).mpr (wide.complete foreignId date e asked)
  sound foreignId date e answered :=
    wide.sound foreignId date e ((same foreignId date e).mp answered)

variable (parser : Release.Parser) (detector : Release.Detector) (aliases : AliasRegister)
  (policy : TieBreak)

/-- For a studio and a day the answer is the same entry, whatever else the store answers with. -/
theorem findSceneOn_answering (distinct : (l.entries.map Entry.id).Nodup)
    (wide : l.OverAnswers answers) (title date : Text) (words : List Text) :
    ∃ answer,
      ((l.engine parser detector aliases policy).findSceneOn title date words).outcome =
        .ok answer ∧
      ((l.engineAnswering answers parser detector aliases policy).findSceneOn title date
        words).outcome = .ok answer := by
  obtain ⟨answer, found, best⟩ :=
    isBestScene_findSceneOn parser detector aliases policy distinct title date words
  obtain ⟨answer', found', best'⟩ :=
    isBestScene_answering parser detector aliases policy distinct wide title date words
  rw [best'.unique best] at found'
  exact ⟨answer, found, found'⟩

theorem findScene_answering (distinct : (l.entries.map Entry.id).Nodup)
    (wide : l.OverAnswers answers) (studio date : Option Text) (words : List Text) :
    ∃ answer,
      ((l.engine parser detector aliases policy).findScene studio date words).outcome = .ok answer ∧
      ((l.engineAnswering answers parser detector aliases policy).findScene studio date
        words).outcome = .ok answer := by
  unfold Engine.findScene
  split
  · exact findSceneOn_answering parser detector aliases policy distinct wide _ _ words
  · exact ⟨none, rfl, rfl⟩

/-- A library whose entries have different numbers finds the same scene whatever its store
answers with beyond the entries of the studio and the day that is asked for, as long as that is
of other days.  So it identifies a name that is read as a scene as the same entry.  A store that
disregards the day is such a store. -/
theorem findScene_overAnswering (distinct : (l.entries.map Entry.id).Nodup) :
    (∀ answers, l.OverAnswers answers →
      (∀ (studio date : Option Text) (words : List Text), ∃ answer,
        ((l.engine parser detector aliases policy).findScene studio date words).outcome =
          .ok answer ∧
        ((l.engineAnswering answers parser detector aliases policy).findScene studio date
          words).outcome = .ok answer) ∧
      (∀ (raw : Text) (excluded : List Int),
        (parser.parse (detector raw) raw).isScene = true → ∃ answer,
        ((l.engine parser detector aliases policy).identify raw excluded).outcome = .ok answer ∧
        ((l.engineAnswering answers parser detector aliases policy).identify raw excluded).outcome =
          .ok answer)) ∧
    ∃ answers, l.OverAnswers answers ∧ l.storeAnswering answers = l.undatedStore := by
  refine ⟨fun answers wide => ⟨?_, ?_⟩, _, overAnswers_entriesByStudio, rfl⟩
  · exact findScene_answering parser detector aliases policy distinct wide
  · intro raw excluded scene
    have honest := Engine.identify_outcome_of_isScene (l.engine parser detector aliases policy) raw
      excluded scene
    have answering := Engine.identify_outcome_of_isScene
      (l.engineAnswering answers parser detector aliases policy) raw excluded scene
    let reading := parser.parse (detector raw) raw
    obtain ⟨answer, found, found'⟩ := findScene_answering parser detector aliases policy distinct
      wide reading.studioTitle reading.releaseDate reading.tokens
    exact ⟨answer, honest.trans found, answering.trans found'⟩

/-- A scene without performers, and one of the next day with the performers of a release. -/
def twoDays : Library where
  entries :=
    [{ id := 1, title := "Night".toList, studioForeignId := some "s".toList,
       releaseDate := some "2021-01-08".toList },
     { id := 2, title := "Day".toList, studioForeignId := some "s".toList,
       releaseDate := some "2021-01-09".toList,
       credits := [{ performerName := "Quinn Waters".toList }] }]
  studios := [{ id := 1, foreignId := "s".toList, title := "Studio".toList }]

/-- The scene of the day is found among all scenes of the studio, given twice and from the end. -/
theorem identify_among_all_days :
    let answers := fun (foreignId _ : Text) =>
      (twoDays.entriesByStudio foreignId ++ twoDays.entriesByStudio foreignId).reverse
    let raw := "Studio.21.01.08.Quinn.Waters.mp4".toList
    twoDays.OverAnswers answers ∧ (({} : Release.Parser).parse .off raw).isScene = true ∧
      ((twoDays.engine {} .off (.ofPairs []) .fewestPerformers).identify raw []).outcome =
        .ok twoDays.entries.head? ∧
      ((twoDays.engineAnswering answers {} .off (.ofPairs []) .fewestPerformers).identify raw
        []).outcome = .ok twoDays.entries.head? := by
  intro answers raw
  have wide : twoDays.OverAnswers answers := by
    refine overAnswers_entriesByStudio.congr fun foreignId _ e => ?_
    show e ∈ (twoDays.entriesByStudio foreignId ++ _).reverse ↔ _
    rw [List.mem_reverse, List.mem_append, or_self]
  have scene : (({} : Release.Parser).parse .off raw).isScene = true := by decide +kernel
  obtain ⟨sameScene, -⟩ :=
    findScene_overAnswering {} .off (.ofPairs []) .fewestPerformers (l := twoDays) (by decide)
  obtain ⟨answer, found, found'⟩ := (sameScene answers wide).2 raw [] scene
  have honest : ((twoDays.engine {} .off (.ofPairs []) .fewestPerformers).identify raw []).outcome =
      .ok twoDays.entries.head? := by decide +kernel
  rw [found] at honest
  rw [found, found', honest]
  exact ⟨wide, scene, rfl, rfl⟩

end Library

end ReleaseCatalog
