import ReleaseCatalog.Text.Reader

/-!
# Cutting a text at fragments

A *finder* looks for a fragment at one place of a text.  It sees the character
before the place, if there is one, and the text from there on.  It answers
with what the fragment says and with its length.

Scanning tries the finder from left to right and goes on behind each fragment,
so the fragments found never overlap.  The result is a list of *segments*:
single characters that belong to no fragment, and fragments.  Put together
again they are the text (`Segment.text_segments`).  The occurrences of the
fragments, with the text before and after each, and the text with every
fragment replaced are both read off the segments.
-/

namespace ReleaseCatalog

/-- Looks for a fragment at the front of a text, given the character before it. -/
abbrev Finder (α : Type) := Option Char → Text → Option (α × Nat)

/-- A piece of a scanned text. -/
inductive Segment (α : Type) where
  /-- A character outside every fragment. -/
  | plain (c : Char)
  /-- A fragment and what it says. -/
  | hit (fragment : Text) (value : α)

/-- A fragment in its place. -/
structure Occurrence (α : Type) where
  before : Text
  fragment : Text
  after : Text
  /-- What the fragment says. -/
  value : α

namespace Segment

variable {α : Type}

/-- The characters of a segment. -/
def chars : Segment α → Text
  | plain c => [c]
  | hit fragment _ => fragment

/-- The text that segments make up. -/
def text (segments : List (Segment α)) : Text := segments.flatMap chars

end Segment

namespace Finder

variable {α : Type}

/-- The segments of a text whose first `skip` characters belong to a fragment
already found.  An empty fragment counts as none. -/
def segmentsFrom (find : Finder α) : Option Char → Nat → Text → List (Segment α)
  | _, _, [] => []
  | _, skip + 1, c :: rest => segmentsFrom find (some c) skip rest
  | previous, 0, c :: rest =>
      match find previous (c :: rest) with
      | some (value, length + 1) =>
          .hit ((c :: rest).take (length + 1)) value :: segmentsFrom find (some c) length rest
      | _ => .plain c :: segmentsFrom find (some c) 0 rest
termination_by structural _ _ t => t

/-- The segments of a text. -/
def segments (find : Finder α) (t : Text) : List (Segment α) := segmentsFrom find none 0 t

/-- The fragments among segments, in their places.  `passed` is the text ahead of
them all, backwards. -/
def occurrencesFrom (passed : Text) : List (Segment α) → List (Occurrence α)
  | [] => []
  | .plain c :: rest => occurrencesFrom (c :: passed) rest
  | .hit fragment value :: rest =>
      ⟨passed.reverse, fragment, Segment.text rest, value⟩ ::
        occurrencesFrom (fragment.reverse ++ passed) rest
termination_by structural segments => segments

/-- The fragments of a text from left to right, none overlapping another. -/
def occurrences (find : Finder α) (t : Text) : List (Occurrence α) :=
  occurrencesFrom [] (find.segments t)

/-- The first fragment of a text. -/
def first? (find : Finder α) (t : Text) : Option (Occurrence α) := (find.occurrences t).head?

/-- The text with every fragment replaced. -/
def replaceAll (find : Finder α) (replacement : Text → α → Text) (t : Text) : Text :=
  (find.segments t).flatMap fun
    | .plain c => [c]
    | .hit fragment value => replacement fragment value

/-- The finder of fragments that a reader reads, where the character before satisfies `boundary`. -/
def ofReader (boundary : Option Char → Bool) (r : Reader) : Finder Unit := fun previous t =>
  if boundary previous then (r t).head?.map fun rest => ((), t.length - rest.length) else none

/-! ## Scanning loses nothing -/

theorem text_segmentsFrom (find : Finder α) (t : Text) :
    ∀ (previous : Option Char) (skip : Nat),
      Segment.text (segmentsFrom find previous skip t) = t.drop skip := by
  induction t with
  | nil => intro previous skip; simp [segmentsFrom, Segment.text]
  | cons c rest ih =>
      intro previous skip
      cases skip with
      | succ skip => simpa [segmentsFrom] using ih (some c) skip
      | zero =>
          have plain : Segment.text (.plain c :: segmentsFrom find (some c) 0 rest) = c :: rest := by
            have h := ih (some c) 0
            simp only [Segment.text, List.drop_zero] at h
            simp [Segment.text, Segment.chars, h]
          unfold segmentsFrom
          split
          · rename_i value length _
            have h := ih (some c) length
            simp only [Segment.text] at h
            simp [Segment.text, Segment.chars, h]
          · simpa using plain

/-- The segments of a text make up the text. -/
theorem text_segments (find : Finder α) (t : Text) : Segment.text (find.segments t) = t := by
  simpa [segments] using text_segmentsFrom find t none 0

/-- Each occurrence stands in the text between what is before and after it. -/
theorem mem_occurrencesFrom {segments : List (Segment α)} :
    ∀ {passed : Text} {o : Occurrence α}, o ∈ occurrencesFrom passed segments →
      o.before ++ o.fragment ++ o.after = passed.reverse ++ Segment.text segments := by
  induction segments with
  | nil => intro passed o h; cases h
  | cons s rest ih =>
      intro passed o h
      cases s with
      | plain c =>
          have := ih h
          simpa [Segment.text, Segment.chars] using this
      | hit fragment value =>
          cases List.mem_cons.mp h with
          | inl he => subst he; simp [Segment.text, Segment.chars]
          | inr h' =>
              have := ih h'
              simpa [Segment.text, Segment.chars] using this

/-- Each occurrence of a text splits it. -/
theorem split_of_mem_occurrences {find : Finder α} {t : Text} {o : Occurrence α}
    (h : o ∈ find.occurrences t) : o.before ++ o.fragment ++ o.after = t := by
  simpa [text_segments] using mem_occurrencesFrom h

end Finder

end ReleaseCatalog
