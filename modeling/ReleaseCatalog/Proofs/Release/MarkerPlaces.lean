import ReleaseCatalog.Proofs.Text.Needs
import ReleaseCatalog.Proofs.Text.ReadFragments
import ReleaseCatalog.Release.EpisodeMarker

/-!
# What stands beside an episode marker

A marker begins at the edge of a word, and it ends at one too, or with a colon
(`marker_edges`).  So a word stands beside a marker only if there is a colon between them.
When the markers of a text are replaced by spaces, each word that is left stood in the text
before, beside the same characters, or behind the colon of a marker
(`exists_place_of_blankMarkers`).
-/

namespace ReleaseCatalog.Release

open Unicode (isWordChar)

/-! ## The edges of a marker -/

section

open Reader

theorem shortens_anyNumber : Shortens anyNumber := (shortens_one _).seq (shortens_many _)

/-- A marker is read from the front, whichever kind it is. -/
theorem shortens_marker : Shortens (choice [volumeMarker, seasonMarker, episodeMarker]) := by
  have episode : ∀ words : List String, Shortens (choice (words.map word)) := by
    intro words
    refine .choice fun r hr => ?_
    obtain ⟨w, -, rfl⟩ := List.mem_map.mp hr
    exact shortens_word w
  have blanks : Shortens blanks := shortens_many _
  refine .choice ?_
  simp only [List.forall_mem_cons, List.not_mem_nil, false_imp_iff, implies_true, and_true]
  refine ⟨.all ?_, .all ?_, .all ?_⟩
  all_goals
    simp only [List.forall_mem_cons, List.not_mem_nil, false_imp_iff, implies_true, and_true]
  · refine ⟨shortens_word _, (shortens_word _).optional, blanks, shortens_anyNumber, .optional ?_⟩
    refine .all ?_
    simp only [List.forall_mem_cons, List.not_mem_nil, false_imp_iff, implies_true, and_true]
    exact ⟨blanks, episode ["e", "ep", "episode"], blanks, shortens_anyNumber⟩
  · exact ⟨shortens_word _, shortens_between _ _ _, blanks, shortens_word _,
      shortens_between _ _ _⟩
  · exact ⟨episode ["episode", "ep", "e"], blanks, shortens_anyNumber⟩

/-- A marker begins at the edge of a word and ends at one or with a colon. -/
theorem marker_edges {t : Text} {o : Occurrence Unit} (h : o ∈ markerFinder.occurrences t) :
    isWordEdge o.before.getLast? = true ∧
      (isWordEdge o.after.head? = true ∨ o.fragment.getLast? = some ':') := by
  have shortens := shortens_marker.seq ((shortens_before isWordEdge).seq
    ((shortens_one fun c => c == ':').optional.seq shortens_nothing))
  obtain ⟨opens, left⟩ := shortens.of_mem_occurrences h
  refine ⟨opens, ?_⟩
  obtain ⟨behind, read, left⟩ := List.mem_flatMap.mp left
  obtain ⟨behind', ahead, left⟩ := List.mem_flatMap.mp left
  obtain ⟨rest, colon, last⟩ := List.mem_flatMap.mp left
  obtain rfl := List.mem_singleton.mp last
  obtain ⟨front, whole⟩ := shortens_marker _ _ read
  unfold before at ahead
  split at ahead
  · next edge =>
      obtain rfl := List.mem_singleton.mp ahead
      cases List.mem_append.mp colon with
      | inr none =>
          obtain rfl := List.mem_singleton.mp none
          exact .inl edge
      | inl read =>
          obtain ⟨fragment, rfl, reads⟩ := (local_one _ _ _).mp read
          obtain ⟨c, rfl, hc⟩ := reads_one.mp reads
          obtain rfl := beq_iff_eq.mp hc
          rw [← List.append_assoc] at whole
          rw [← List.append_cancel_right whole, List.getLast?_concat]
          exact .inr rfl
  · cases ahead

end

/-! ## Texts without their markers -/

/-- What is shown of a segment when markers are blanked. -/
def shown : Segment Unit → Char
  | .plain c => c
  | .hit _ _ => ' '

theorem blankMarkers_eq_map (t : Text) :
    blankMarkers t = (markerFinder.segments t).map shown := by
  unfold blankMarkers Finder.replaceAll
  rw [List.map_eq_flatMap]
  refine List.flatMap_congr fun s _ => ?_
  cases s with
  | plain | hit => rfl

/-- A text without its markers has spaces and characters of the text. -/
theorem eq_space_or_mem_of_mem_blankMarkers {t : Text} {c : Char} (h : c ∈ blankMarkers t) :
    c = ' ' ∨ c ∈ t := by
  rw [blankMarkers_eq_map] at h
  obtain ⟨s, hs, rfl⟩ := List.mem_map.mp h
  cases s with
  | hit => exact .inl rfl
  | plain c =>
      rw [← Finder.text_segments markerFinder t]
      exact .inr (List.mem_flatMap.mpr ⟨_, hs, List.mem_singleton_self c⟩)

theorem text_append (front back : List (Segment Unit)) :
    Segment.text (front ++ back) = Segment.text front ++ Segment.text back :=
  List.flatMap_append

/-- Segments that show no space are characters of the text. -/
theorem text_eq_map_shown {segments : List (Segment Unit)} (h : ' ' ∉ segments.map shown) :
    Segment.text segments = segments.map shown := by
  induction segments with
  | nil => rfl
  | cons s segments ih =>
      rw [List.map_cons, List.mem_cons, not_or] at h
      cases s with
      | hit => exact absurd rfl h.1
      | plain c =>
          rw [Segment.text, List.flatMap_cons, ← Segment.text, ih h.2]
          rfl

/-- A word that begins and ends inside words of a text without its markers stands in the text too.
Behind it stands the same character, and before it the same or the colon of a marker. -/
theorem exists_place_of_blankMarkers {t x w y : Text} (blanked : blankMarkers t = x ++ w ++ y)
    (solid : ' ' ∉ w) (head : w.head?.any isWordChar = true)
    (last : w.getLast?.any isWordChar = true) :
    ∃ x' y', t = x' ++ w ++ y' ∧ (x'.getLast? = x.getLast? ∨ x'.getLast? = some ':') ∧
      y'.head? = y.head? := by
  rw [blankMarkers_eq_map] at blanked
  obtain ⟨both, back, segments, shownBoth, rfl⟩ := List.map_eq_append_iff.mp blanked
  obtain ⟨front, middle, rfl, rfl, rfl⟩ := List.map_eq_append_iff.mp shownBoth
  have nonempty : middle.map shown ≠ [] := by
    intro empty
    rw [empty] at head
    cases head
  have middleText := text_eq_map_shown solid
  have text : t = Segment.text front ++ middle.map shown ++ Segment.text back := by
    rw [← Finder.text_segments markerFinder t, segments, text_append, text_append, middleText]
  refine ⟨Segment.text front, Segment.text back, text, ?_, ?_⟩
  · cases front using List.reverseRecOn with
    | nil => exact .inl rfl
    | append_singleton front s =>
        cases s with
        | plain c =>
            left
            rw [text_append, List.map_append]
            exact List.getLast?_concat.trans List.getLast?_concat.symm
        | hit fragment value =>
            right
            rw [List.append_assoc, List.append_assoc, List.singleton_append] at segments
            have edges := (marker_edges (Finder.mem_occurrences_of_segments segments)).2
            rw [text_append, middleText, List.head?_append_of_ne_nil _ nonempty] at edges
            have colon := edges.resolve_left (by rw [isWordEdge, head]; decide)
            rw [text_append, List.getLast?_append, Segment.text, List.flatMap_singleton]
            simp [Segment.chars, colon]
  · cases back with
    | nil => rfl
    | cons s back =>
        cases s with
        | plain c => rfl
        | hit fragment value =>
            have edge := (marker_edges (Finder.mem_occurrences_of_segments segments)).1
            rw [text_append, middleText, List.getLast?_append_of_ne_nil _ nonempty] at edge
            rw [isWordEdge, last] at edge
            cases edge

end ReleaseCatalog.Release
