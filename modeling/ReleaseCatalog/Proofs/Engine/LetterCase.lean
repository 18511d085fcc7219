import ReleaseCatalog.Proofs.Engine.SceneLookup
import ReleaseCatalog.Proofs.Engine.StudioLookup
import ReleaseCatalog.Proofs.Release.LetterCase

/-!
# Letter case and outer blanks make no difference

Two names that differ only in the case of ASCII letters and in the blanks around
them are read alike: the one is a scene if the other is, with the same day, year
and tokens, and their studios and titles differ at most in the case of letters.
Hence no engine tells the two names apart.  Every question that it asks the store,
and every comparison of its own, goes through the key of a title or of a studio, and
a key forgets letter case (`Title.key_eq_of_sameLetters`).  This needs nothing of
the store: the answers of an arbitrary one, failures included, are the same
(`Engine.identify_sameLetters`).
-/

namespace ReleaseCatalog

open Journal (Traced)

/-- Two texts differ at most in the case of ASCII letters. -/
def SameLetters (s t : Text) : Prop := s.map Char.toLower = t.map Char.toLower

instance (s t : Text) : Decidable (SameLetters s t) := by
  unfold SameLetters; infer_instance

theorem SameLetters.eq_nil_iff {s t : Text} (h : SameLetters s t) : s = [] ↔ t = [] := by
  have empty := congrArg (· = []) h
  simpa only [List.map_eq_nil_iff, eq_iff_iff] using empty

/-! ## Keys and tokens -/

namespace Title

open Unicode (foldCase foldChar)

/-- Folding does not see whether letters are made small first, nor does what is done to ampersands
before. -/
theorem foldCase_flatMap_toLower {ampersand : Text} (t : Text) :
    foldCase ((t.map Char.toLower).flatMap fun c => if c = '&' then ampersand else [c]) =
      foldCase (t.flatMap fun c => if c = '&' then ampersand else [c]) := by
  have fixed : Fixes Char.toLower '&' := fixes_toLower (by decide)
  unfold foldCase
  rw [List.flatMap_map, List.flatMap_assoc, List.flatMap_assoc]
  refine List.flatMap_congr fun c _ => ?_
  by_cases h : c = '&'
  · rw [h, fixed.eq]
  · rw [if_neg h, if_neg (mt (fixed c).mp h), List.flatMap_singleton, List.flatMap_singleton,
      foldChar_toLower]

theorem key_toLower (title : Text) : key (title.map Char.toLower) = key title := by
  unfold key spellAmpersands
  rw [foldCase_flatMap_toLower]

theorem tokens_toLower (title : Text) : tokens (title.map Char.toLower) = tokens title := by
  unfold tokens bareWords isolateAmpersands
  rw [foldCase_flatMap_toLower]

/-- A key forgets the case of letters. -/
theorem key_eq_of_sameLetters {s t : Text} (h : SameLetters s t) : key s = key t := by
  rw [← key_toLower s, h, key_toLower]

end Title

/-! ## Reading -/

namespace Release

/-- Two readings differ at most in the raw name, in the quality and in the case of the letters of
the studio and of the title. -/
structure NameReading.Alike (r r' : NameReading) : Prop where
  isScene : r.isScene = r'.isScene
  releaseDate : r.releaseDate = r'.releaseDate
  year : r.year = r'.year
  tokens : r.tokens = r'.tokens
  studioTitle : Option.Rel SameLetters r.studioTitle r'.studioTitle
  title : SameLetters r.title r'.title

/-- Recognitions with the same small letters give readings that are alike. -/
theorem Recognition.alike_of_toLower_eq {x y : Recognition} (h : x.toLower = y.toLower)
    (raw raw' : Text) (quality quality' : Quality) :
    (x.toReading raw quality).Alike (y.toReading raw' quality') := by
  have tokens : ∀ {s t : Text}, SameLetters s t → Title.tokens s = Title.tokens t := by
    intro s t same
    rw [← Title.tokens_toLower s, same, Title.tokens_toLower]
  cases x with
  | scene studio date title =>
      cases y with
      | scene studio' date' title' =>
          obtain ⟨studios, rfl, titles⟩ := Recognition.scene.inj h
          refine ⟨rfl, rfl, rfl, tokens titles, ?_, titles⟩
          cases studio with
          | none =>
              cases studio' with
              | none => exact .none
              | some s' => cases studios
          | some s =>
              cases studio' with
              | none => cases studios
              | some s' => exact .some (Option.some.inj studios)
      | film | malformedDate | plain => cases h
  | film title year =>
      cases y with
      | film title' year' =>
          obtain ⟨titles, rfl⟩ := Recognition.film.inj h
          exact ⟨rfl, rfl, rfl, tokens titles, .none, titles⟩
      | scene | malformedDate | plain => cases h
  | malformedDate title =>
      cases y with
      | malformedDate title' =>
          have titles := Recognition.malformedDate.inj h
          exact ⟨rfl, rfl, rfl, tokens titles, .none, titles⟩
      | scene | film | plain => cases h
  | plain title =>
      cases y with
      | plain title' =>
          have titles := Recognition.plain.inj h
          exact ⟨rfl, rfl, rfl, tokens titles, .none, titles⟩
      | scene | film | malformedDate => cases h

/-- Names with the same letters, blanks around them and letter case apart, are read alike, whatever
is detected in them. -/
theorem Parser.parse_alike (parser : Parser) (detection detection' : Detection) {raw raw' : Text}
    (same : SameLetters (Text.trimBlank raw) (Text.trimBlank raw')) :
    (parser.parse detection raw).Alike (parser.parse detection' raw') := by
  have recognised : (parser.recognise raw).toLower = (parser.recognise raw').toLower := by
    rw [← parser.recognise_trimBlank raw, ← parser.recognise_trimBlank raw',
      ← parser.recognise_toLower, ← parser.recognise_toLower, same]
  exact Recognition.alike_of_toLower_eq recognised raw raw' _ _

end Release

/-! ## Looking up -/

namespace Engine

variable (engine : Engine)

theorem findSceneOn_outcome_congr {title title' : Text} (date : Text) (words : List Text)
    (same : Title.key title = Title.key title') :
    (engine.findSceneOn title date words).outcome =
      (engine.findSceneOn title' date words).outcome := by
  unfold findSceneOn
  rw [Traced.outcome_bind, Traced.outcome_bind, engine.studiosNamed_outcome_congr same]
  refine congrArg _ (funext fun studios => ?_)
  by_cases unknown : studios = []
  · simp only [unknown, if_true]
    rfl
  · simp only [unknown, if_false, Traced.outcome_bind]
    refine congrArg _ (funext fun entries => congrArg _ (funext fun _ => ?_))
    split
    · rfl
    · rfl

theorem findScene_outcome_congr {studio studio' : Option Text} (date : Option Text)
    (words : List Text) (same : Option.Rel SameLetters studio studio') :
    (engine.findScene studio date words).outcome =
      (engine.findScene studio' date words).outcome := by
  cases same with
  | none => rfl
  | @some s s' same =>
      by_cases empty : s = []
      · rw [empty, same.eq_nil_iff.mp empty]
      · by_cases undated : date = none ∨ date = some []
        · rw [engine.findScene_of_missing words (.inr (.inr undated)),
            engine.findScene_of_missing words (.inr (.inr undated))]
        · cases date with
          | none => exact absurd (.inl rfl) undated
          | some day =>
              have dated : day ≠ [] := fun h => undated (.inr (congrArg some h))
              rw [engine.findScene_of_given words empty dated,
                engine.findScene_of_given words (mt same.eq_nil_iff.mpr empty) dated]
              exact engine.findSceneOn_outcome_congr day words (Title.key_eq_of_sameLetters same)

/-- Two names that differ only in the case of ASCII letters and in the blanks around them are read
alike by every parser, whatever is detected in each, and every engine identifies them as the same
entry. -/
theorem identify_sameLetters {raw raw' : Text}
    (same : SameLetters (Text.trimBlank raw) (Text.trimBlank raw')) :
    (∀ (parser : Release.Parser) (detection detection' : Release.Detection),
        (parser.parse detection raw).Alike (parser.parse detection' raw')) ∧
      ∀ (engine : Engine) (excluded : List Int),
        (engine.identify raw excluded).outcome = (engine.identify raw' excluded).outcome := by
  refine ⟨fun parser _ _ => parser.parse_alike _ _ same, fun engine excluded => ?_⟩
  have alike := engine.parser.parse_alike (engine.detector raw) (engine.detector raw') same
  have parsed : ∀ t, (engine.parse t).outcome =
      .ok (engine.parser.parse (engine.detector t) t) := fun t => rfl
  unfold identify
  rw [Traced.outcome_bind, Traced.outcome_bind, parsed, parsed]
  show Traced.outcome _ = Traced.outcome _
  rw [alike.isScene]
  by_cases scene : (engine.parser.parse (engine.detector raw') raw').isScene = true
  · rw [if_pos scene, if_pos scene, alike.releaseDate, alike.tokens]
    exact engine.findScene_outcome_congr _ _ alike.studioTitle
  · rw [if_neg scene, if_neg scene]
    simp only [Title.key_eq_of_sameLetters alike.title, alike.year]

/-- A scene's name in small letters, and in capitals between blanks. -/
theorem identify_quinn_in_capitals :
    let raw := "studio.21.01.08.quinn.waters.mp4".toList
    let raw' := "\t STUDIO.21.01.08.QUINN.WATERS.MP4\n".toList
    let library := Library.twoScenes.engine {} .off (.ofPairs []) .fewestPerformers
    SameLetters (Text.trimBlank raw) (Text.trimBlank raw') ∧
      (library.parser.parse .off raw).Alike (library.parser.parse .off raw') ∧
      (library.identify raw' []).outcome = (library.identify raw []).outcome := by
  intro raw raw' library
  have same : SameLetters (Text.trimBlank raw) (Text.trimBlank raw') := by decide
  obtain ⟨alike, identified⟩ := identify_sameLetters same
  exact ⟨same, alike library.parser .off .off, (identified library []).symm⟩

end Engine

end ReleaseCatalog
