import ReleaseCatalog.Proofs.Engine.SceneLookup
import ReleaseCatalog.Proofs.Matching.Retries
import ReleaseCatalog.Proofs.Title.NormalForm

/-!
# Looking a title up in a library

A name that is read as no scene is looked up by the key of its title.  The store
is asked for the entries with that key, and of those the ones with the key are
selected once more.  So the key is taken of a key, twice over, where a plain scan
of the library takes it of the title.  Since a key is its own key, the two leave
the same entries in the same order (`accepted_entriesByTitle`), and with them the
same first nearest entry.  `identify_scans_library` says so, and what it means for
an answer and for the lack of one.
-/

namespace ReleaseCatalog

open Journal (Traced)
open Matching (accepted TieBreak)

/-- Selecting an entry gives the selected one, whatever the journal notes. -/
theorem Engine.nearestByTitle_outcome (titles : List Text) (year : Option Int)
    (excluded : List Int) (pool : List Entry) :
    (Engine.nearestByTitle titles year excluded pool).outcome =
      .ok (Matching.nearestByTitle titles year excluded pool) := by
  unfold Engine.nearestByTitle
  show (if (Matching.nearestByTitle titles year excluded pool).isNone then _ else _ :
    Engine.Lookup _).outcome = _
  split
  · rfl
  · rfl

namespace Library

open Matching (nearestByTitle)

variable (l : Library)

/-- Asking the store for a key first makes no difference to which entries are accepted. -/
theorem accepted_entriesByTitle (title : Text) (excluded : List Int) :
    accepted [Title.key title] excluded (l.entriesByTitle [Title.key title]) =
      accepted [title] excluded l.entries := by
  unfold accepted entriesByTitle
  rw [List.filter_filter]
  refine List.filter_congr fun e _ => ?_
  simp only [List.map_cons, List.map_nil, Title.key_key]
  cases [Title.key title].contains e.key with
  | true => rw [Bool.and_true]
  | false => rfl

variable {l}

theorem isOpen_singleton {title : Text} {excluded : List Int} {e : Entry} :
    Matching.IsOpen [title] excluded e ↔ e.key = Title.key title ∧ e.id ∉ excluded := by
  unfold Matching.IsOpen
  rw [List.map_singleton, List.mem_singleton]

/-- What is selected is an accepted entry. -/
theorem of_nearestByTitle {title : Text} {year : Option Int} {excluded : List Int} {e : Entry}
    (h : nearestByTitle [title] year excluded l.entries = some e) :
    e ∈ l.entries ∧ e.key = Title.key title ∧ e.id ∉ excluded := by
  rw [Matching.nearestByTitle_eq_minOn?] at h
  obtain ⟨stored, isOpen⟩ := Matching.mem_accepted_iff.mp (List.minOn?_mem h)
  exact ⟨stored, isOpen_singleton.mp isOpen⟩

/-- Nothing is selected only if every entry with the title is excluded. -/
theorem nearestByTitle_eq_none_iff {title : Text} {year : Option Int} {excluded : List Int} :
    nearestByTitle [title] year excluded l.entries = none ↔
      ∀ e ∈ l.entries, e.key = Title.key title → e.id ∈ excluded := by
  rw [Matching.nearestByTitle_eq_none_iff]
  simp only [isOpen_singleton, not_and, not_not]

variable (parser : Release.Parser) (detector : Release.Detector) (aliases : AliasRegister)
  (policy : TieBreak)

/-- A name that is no scene is identified by selecting among all entries of the library. -/
theorem identify_outcome_of_not_isScene {raw : Text} (excluded : List Int)
    (noScene : (parser.parse (detector raw) raw).isScene = false) :
    ((l.engine parser detector aliases policy).identify raw excluded).outcome =
      .ok (if Title.key (parser.parse (detector raw) raw).title = [] then none
        else nearestByTitle [(parser.parse (detector raw) raw).title]
          (parser.parse (detector raw) raw).year excluded l.entries) := by
  have parsed : ((l.engine parser detector aliases policy).parse raw).outcome =
      .ok (parser.parse (detector raw) raw) := rfl
  unfold Engine.identify
  refine (Traced.outcome_bind_of_ok parsed).trans ?_
  rw [noScene, if_neg Bool.false_ne_true]
  by_cases untitled : Title.key (parser.parse (detector raw) raw).title = []
  · simp only [untitled, if_true]
    rfl
  · simp only [untitled, if_false]
    have asked : (Traced.ofExcept ((l.engine parser detector aliases policy).store.entriesByTitle
        [Title.key (parser.parse (detector raw) raw).title]) : Engine.Lookup _).outcome =
          .ok (l.entriesByTitle [Title.key (parser.parse (detector raw) raw).title]) := rfl
    refine (Traced.outcome_bind_of_ok asked).trans ?_
    rw [Engine.nearestByTitle_outcome]
    unfold nearestByTitle
    rw [l.accepted_entriesByTitle]

/-- A name that is no scene is identified as nothing if its title has no key, and
otherwise as the entry that a scan of the whole library for its title and year
selects.  An entry that is found has the key of the title and is not excluded, and
none is found only if the library has no such entry. -/
theorem identify_scans_library (raw : Text) (excluded : List Int)
    (noScene : (parser.parse (detector raw) raw).isScene = false) :
    (Title.key (parser.parse (detector raw) raw).title = [] →
      ((l.engine parser detector aliases policy).identify raw excluded).outcome = .ok none) ∧
    (Title.key (parser.parse (detector raw) raw).title ≠ [] →
      ((l.engine parser detector aliases policy).identify raw excluded).outcome =
        .ok (nearestByTitle [(parser.parse (detector raw) raw).title]
          (parser.parse (detector raw) raw).year excluded l.entries)) ∧
    (∀ e, ((l.engine parser detector aliases policy).identify raw excluded).outcome = .ok (some e) →
      e ∈ l.entries ∧ e.key = Title.key (parser.parse (detector raw) raw).title ∧ e.id ∉ excluded) ∧
    (((l.engine parser detector aliases policy).identify raw excluded).outcome = .ok none ↔
      Title.key (parser.parse (detector raw) raw).title = [] ∨
        ¬ ∃ e ∈ l.entries,
          e.key = Title.key (parser.parse (detector raw) raw).title ∧ e.id ∉ excluded) := by
  rw [identify_outcome_of_not_isScene parser detector aliases policy excluded noScene]
  by_cases untitled : Title.key (parser.parse (detector raw) raw).title = []
  · rw [if_pos untitled]
    refine ⟨fun _ => rfl, fun titled => absurd untitled titled, fun e found => ?_, ?_⟩
    · cases found
    · exact ⟨fun _ => .inl untitled, fun _ => rfl⟩
  · rw [if_neg untitled]
    refine ⟨fun empty => absurd empty untitled, fun _ => rfl, fun e found => ?_, ?_⟩
    · exact of_nearestByTitle (Except.ok.inj found)
    · rw [Except.ok.injEq, nearestByTitle_eq_none_iff]
      constructor
      · intro excluding
        exact .inr fun ⟨e, stored, titled, free⟩ => free (excluding e stored titled)
      · rintro (empty | missing) e stored titled
        · exact absurd empty untitled
        · by_contra free
          exact missing ⟨e, stored, titled, free⟩

/-- Three films of one title, two of them with one number. -/
def threeFilms : Library where
  entries :=
    [{ id := 7, title := "Milk & Honey".toList, year := some 2001 },
     { id := 5, title := "Milk and Honey!".toList, year := some 2010 },
     { id := 5, title := "milk AND honey".toList, year := some 2008 }]

/-- The first of the two films that are nearest to the year is found. -/
theorem identify_milk_and_honey :
    (({} : Release.Parser).parse .off "Milk.&.Honey.(2009).mkv".toList).isScene = false ∧
      ((threeFilms.engine {} .off (.ofPairs []) .lowestId).identify
          "Milk.&.Honey.(2009).mkv".toList [7]).outcome =
        .ok (some { id := 5, title := "Milk and Honey!".toList, year := some 2010 }) := by
  have noScene : (({} : Release.Parser).parse .off "Milk.&.Honey.(2009).mkv".toList).isScene =
      false := by decide +kernel
  obtain ⟨-, scanned, -, -⟩ := identify_scans_library (l := threeFilms) {} .off (.ofPairs [])
    .lowestId "Milk.&.Honey.(2009).mkv".toList [7] noScene
  refine ⟨noScene, (scanned (by decide +kernel)).trans ?_⟩
  decide +kernel

end Library

end ReleaseCatalog
