import Mathlib.Data.List.Basic
import ReleaseCatalog.Text.Segments
import ReleaseCatalog.Text.Words

/-!
# Renaming the characters of a text

A *renaming* replaces the characters of a text one by one.  A class of characters
is *kept* by it if a character is in the class exactly when its new name is.  If
the class of the separators is kept, a renamed text has the renamed words, and
the same goes for trimming.  A reader or a finder *follows* the renaming if it
reads the renamed fragments from a renamed text.  Readers follow it if all the
classes they ask for are kept, and what a scan finds with a finder that follows
it, or replaces, is renamed with the text (`Finder.Follows.occurrences_map`,
`Finder.Follows.replaceAll_map`).
-/

namespace ReleaseCatalog

variable {f : Char → Char} {p : Char → Bool}

/-- A character and its new name are both in the class or both outside it. -/
def Keeps (f : Char → Char) (p : Char → Bool) : Prop := ∀ c, p (f c) = p c

theorem Keeps.comp (h : Keeps f p) : p ∘ f = p := funext h

/-- The character keeps its name, and no other character gets it. -/
def Fixes (f : Char → Char) (d : Char) : Prop := ∀ c, f c = d ↔ c = d

theorem Fixes.eq {d : Char} (h : Fixes f d) : f d = d := (h d).mpr rfl

theorem Fixes.keeps_beq {d : Char} (h : Fixes f d) : Keeps f (· == d) := by
  intro c
  rw [Bool.eq_iff_iff, beq_iff_eq, beq_iff_eq, h c]

theorem Fixes.keeps_bne {d : Char} (h : Fixes f d) : Keeps f (· != d) := by
  intro c
  simp only [bne, h.keeps_beq c]

theorem Fixes.map_eq_some_iff {d : Char} (h : Fixes f d) {c : Option Char} :
    c.map f = some d ↔ c = some d := by
  cases c with
  | none => simp
  | some c => rw [Option.map_some, Option.some.injEq, Option.some.injEq, h c]

/-- A text of characters that keep their names is the renamed text of itself only. -/
theorem map_eq_iff_of_fixes {s t : Text} (h : ∀ d ∈ s, Fixes f d) : t.map f = s ↔ t = s := by
  induction s generalizing t with
  | nil => exact List.map_eq_nil_iff
  | cons d s ih =>
      cases t with
      | nil => simp
      | cons c t =>
          rw [List.map_cons, List.cons.injEq, List.cons.injEq, h d List.mem_cons_self c,
            ih fun d' hd => h d' (List.mem_cons_of_mem _ hd)]

theorem any_map (h : Keeps f p) (previous : Option Char) : (previous.map f).any p = previous.any p := by
  cases previous with
  | none => rfl
  | some c => exact h c

theorem all_map (h : Keeps f p) (previous : Option Char) : (previous.map f).all p = previous.all p := by
  cases previous with
  | none => rfl
  | some c => exact h c

/-! ## Words and ends -/

namespace Text

theorem all_map (h : Keeps f p) (t : Text) : (t.map f).all p = t.all p := by
  rw [List.all_map, h.comp]

theorem takeWhile_map (h : Keeps f p) (t : Text) : (t.map f).takeWhile p = (t.takeWhile p).map f := by
  rw [List.takeWhile_map, h.comp]

theorem dropWhile_map (h : Keeps f p) (t : Text) : (t.map f).dropWhile p = (t.dropWhile p).map f := by
  rw [List.dropWhile_map, h.comp]

theorem trim_map (h : Keeps f p) (t : Text) : trim p (t.map f) = (trim p t).map f := by
  unfold trim
  rw [dropWhile_map h, ← List.map_reverse, dropWhile_map h, ← List.map_reverse]

theorem splitOnP_map (h : Keeps f p) (t : Text) :
    (t.map f).splitOnP p = (t.splitOnP p).map (List.map f) := by
  induction t with
  | nil => rfl
  | cons c rest ih =>
      rw [List.map_cons, List.splitOnP_cons_eq_if_modifyHead, List.splitOnP_cons_eq_if_modifyHead,
        h c, ih]
      split
      · rfl
      · cases rest.splitOnP p with
        | nil => rfl
        | cons first pieces => rfl

theorem words_map (h : Keeps f p) (t : Text) : words p (t.map f) = (words p t).map (List.map f) := by
  unfold words
  rw [splitOnP_map h, List.filter_map]
  refine congrArg (List.map (List.map f)) (List.filter_congr fun w _ => ?_)
  simp

theorem unwords_map (space : f ' ' = ' ') (ws : List Text) :
    unwords (ws.map (List.map f)) = (unwords ws).map f := by
  unfold unwords join
  induction ws with
  | nil => rfl
  | cons w rest ih =>
      cases rest with
      | nil => simp
      | cons w' rest =>
          rw [List.map_cons, List.map_cons, List.intercalate_cons_cons, ← List.map_cons, ih,
            List.intercalate_cons_cons, List.map_append, List.map_append, List.map_singleton, space]

theorem collapse_map (h : Keeps f p) (space : f ' ' = ' ') (t : Text) :
    collapse p (t.map f) = (collapse p t).map f := by
  unfold collapse
  rw [words_map h, unwords_map space]

end Text

/-! ## Readers -/

namespace Reader

variable {r first second : Reader} {readers : List Reader}

/-- From a renamed text the reader reads what it reads from the text, renamed. -/
def Follows (f : Char → Char) (r : Reader) : Prop := ∀ t, r (t.map f) = (r t).map (List.map f)

theorem follows_nothing : Follows f nothing := fun _ => rfl

theorem follows_one (h : Keeps f p) : Follows f (one p) := by
  intro t
  cases t with
  | nil => rfl
  | cons c rest =>
      show (if p (f c) then [rest.map f] else []) = (if p c then [rest] else []).map (List.map f)
      rw [h c]
      split
      · rfl
      · rfl

theorem Follows.seq (h : Follows f first) (h' : Follows f second) :
    Follows f (seq first second) := by
  intro t
  unfold Reader.seq
  rw [h t, List.flatMap_map, List.map_flatMap]
  exact List.flatMap_congr fun rest _ => h' rest

theorem Follows.all (h : ∀ r ∈ readers, Follows f r) : Follows f (all readers) := by
  induction readers with
  | nil => exact follows_nothing
  | cons r rest ih =>
      exact (h r List.mem_cons_self).seq (ih fun r' hr => h r' (List.mem_cons_of_mem _ hr))

theorem Follows.choice (h : ∀ r ∈ readers, Follows f r) : Follows f (choice readers) := by
  intro t
  unfold Reader.choice
  rw [List.map_flatMap]
  exact List.flatMap_congr fun r hr => h r hr t

theorem Follows.optional (h : Follows f r) : Follows f (optional r) := by
  intro t
  unfold Reader.optional
  rw [h t, List.map_append, List.map_singleton]

theorem follows_many (h : Keeps f p) : Follows f (many p) := by
  intro t
  induction t with
  | nil => rfl
  | cons c rest ih =>
      rw [List.map_cons]
      unfold many
      rw [h c]
      split
      · rw [ih, List.map_append, List.map_singleton, List.map_cons]
      · rfl

theorem follows_many1 (h : Keeps f p) : Follows f (many1 p) := (follows_one h).seq (follows_many h)

theorem follows_exactly (h : Keeps f p) (n : Nat) : Follows f (exactly p n) := by
  induction n with
  | zero => exact follows_nothing
  | succ n ih => exact (follows_one h).seq ih

theorem follows_upTo (h : Keeps f p) (n : Nat) : Follows f (upTo p n) := by
  induction n with
  | zero => exact follows_nothing
  | succ n ih => exact ((follows_one h).seq ih).optional

theorem follows_between (h : Keeps f p) (lo hi : Nat) : Follows f (between p lo hi) :=
  (follows_exactly h lo).seq (follows_upTo h (hi - lo))

/-- A word is read without regard to the names that count as one letter. -/
theorem follows_word (h : ∀ c, caselessLetter (f c) = caselessLetter c) (w : String) :
    Follows f (word w) := by
  refine Follows.all fun r hr => ?_
  obtain ⟨l, -, rfl⟩ := List.mem_map.mp hr
  exact follows_one fun c => by rw [h c]

theorem follows_before {q : Option Char → Bool} (h : ∀ next : Option Char, q (next.map f) = q next) :
    Follows f (before q) := by
  intro t
  unfold before
  rw [List.head?_map, h]
  split
  · rfl
  · rfl

theorem Follows.readsAll_map (h : Follows f r) (t : Text) : r.readsAll (t.map f) = r.readsAll t := by
  unfold readsAll
  rw [h t, Bool.eq_iff_iff, List.contains_iff_mem, List.contains_iff_mem, List.mem_map]
  simp

end Reader

/-! ## Finders -/

variable {α : Type} {g : α → α}

/-- A piece of a renamed text, its value changed by `g`. -/
def Segment.map (f : Char → Char) (g : α → α) : Segment α → Segment α
  | .plain c => .plain (f c)
  | .hit fragment value => .hit (fragment.map f) (g value)

/-- A fragment of a renamed text in its place, its value changed by `g`. -/
def Occurrence.map (f : Char → Char) (g : α → α) (o : Occurrence α) : Occurrence α where
  before := o.before.map f
  fragment := o.fragment.map f
  after := o.after.map f
  value := g o.value

namespace Finder

variable {find : Finder α}

/-- In a renamed text the finder finds what it finds in the text, with values changed by `g`. -/
def Follows (f : Char → Char) (g : α → α) (find : Finder α) : Prop :=
  ∀ (previous : Option Char) (t : Text),
    find (previous.map f) (t.map f) = (find previous t).map fun found => (g found.1, found.2)

theorem follows_ofReader {boundary : Option Char → Bool} {r : Reader}
    (h : ∀ previous : Option Char, boundary (previous.map f) = boundary previous)
    (h' : r.Follows f) : Follows f id (ofReader boundary r) := by
  intro previous t
  unfold ofReader
  rw [h, h' t, List.head?_map]
  split
  · cases (r t).head? with
    | none => rfl
    | some rest => simp
  · rfl

theorem Follows.segmentsFrom_map (h : Follows f g find) (t : Text) :
    ∀ (previous : Option Char) (skip : Nat),
      segmentsFrom find (previous.map f) skip (t.map f) =
        (segmentsFrom find previous skip t).map (Segment.map f g) := by
  induction t with
  | nil => intro previous skip; cases skip <;> rfl
  | cons c rest ih =>
      intro previous skip
      rw [List.map_cons]
      cases skip with
      | succ skip => exact ih (some c) skip
      | zero =>
          have found := h previous (c :: rest)
          rw [List.map_cons] at found
          unfold segmentsFrom
          rw [found]
          cases find previous (c :: rest) with
          | none => exact congrArg _ (ih (some c) 0)
          | some hit =>
              obtain ⟨value, length⟩ := hit
              cases length with
              | zero => exact congrArg _ (ih (some c) 0)
              | succ length =>
                  refine congrArg₂ List.cons ?_ (ih (some c) length)
                  simp [Segment.map]

theorem Follows.segments_map (h : Follows f g find) (t : Text) :
    find.segments (t.map f) = (find.segments t).map (Segment.map f g) :=
  h.segmentsFrom_map t none 0

theorem text_map (segments : List (Segment α)) :
    Segment.text (segments.map (Segment.map f g)) = (Segment.text segments).map f := by
  unfold Segment.text
  rw [List.flatMap_map, List.map_flatMap]
  refine List.flatMap_congr fun s _ => ?_
  cases s with
  | plain c => rfl
  | hit fragment value => rfl

theorem occurrencesFrom_map (segments : List (Segment α)) :
    ∀ passed : Text, occurrencesFrom (passed.map f) (segments.map (Segment.map f g)) =
      (occurrencesFrom passed segments).map (Occurrence.map f g) := by
  induction segments with
  | nil => intro passed; rfl
  | cons s rest ih =>
      intro passed
      cases s with
      | plain c => exact ih (c :: passed)
      | hit fragment value =>
          have later := ih (fragment.reverse ++ passed)
          rw [List.map_append, List.map_reverse] at later
          rw [List.map_cons]
          simp only [Segment.map, occurrencesFrom, List.map_cons, later, text_map, Occurrence.map,
            List.map_reverse]

/-- The fragments of a renamed text are the renamed fragments. -/
theorem Follows.occurrences_map (h : Follows f g find) (t : Text) :
    find.occurrences (t.map f) = (find.occurrences t).map (Occurrence.map f g) := by
  unfold occurrences
  rw [h.segments_map]
  exact occurrencesFrom_map _ []

/-- Replacing the fragments of a renamed text renames the text with its fragments replaced. -/
theorem Follows.replaceAll_map (h : Follows f g find) {replacement : Text → α → Text}
    (renamed : ∀ fragment value,
      replacement (fragment.map f) (g value) = (replacement fragment value).map f) (t : Text) :
    find.replaceAll replacement (t.map f) = (find.replaceAll replacement t).map f := by
  unfold replaceAll
  rw [h.segments_map, List.flatMap_map, List.map_flatMap]
  refine List.flatMap_congr fun s _ => ?_
  cases s with
  | plain c => rfl
  | hit fragment value => exact renamed fragment value

end Finder

end ReleaseCatalog
