import Mathlib.Data.List.Infix
import ReleaseCatalog.Proofs.Text.Joining
import ReleaseCatalog.Text.Segments

/-!
# What cleaning keeps of a text

Cleaning a text removes characters and puts spaces in.  Blanks apart, it adds nothing
and changes no order.  `solid t` is what a text has besides blanks, and `DrawnFrom s t`
says that the solid characters of `s` stand in `t` in the same order.  The relation is
transitive and is kept by joining texts, so each step of a cleaning is treated by
itself: trimming, collapsing separators and replacing fragments by spaces all draw
their result from the text.

Collapsing keeps exactly the characters that are no separators (`solid_collapse`).
-/

namespace ReleaseCatalog

open Unicode (isBlank)

namespace Text

/-- The characters of a text that are not blank. -/
def solid (t : Text) : Text := t.filter fun c => !isBlank c

@[simp] theorem solid_append (s t : Text) : solid (s ++ t) = solid s ++ solid t :=
  List.filter_append ..

@[simp] theorem solid_space : solid [' '] = [] := rfl

theorem solid_eq_nil_iff {t : Text} : solid t = [] ↔ ∀ c ∈ t, isBlank c = true := by
  unfold solid
  rw [List.filter_eq_nil_iff]
  simp

/-- The solid characters of a text are a part of it. -/
theorem solid_sublist (t : Text) : (solid t).Sublist t := List.filter_sublist

/-- The characters of a text that are not blank stand in another text, in the same order. -/
def DrawnFrom (s t : Text) : Prop := (solid s).Sublist (solid t)

variable {s t u : Text}

theorem DrawnFrom.refl (t : Text) : DrawnFrom t t := List.Sublist.refl _

theorem DrawnFrom.trans (h : DrawnFrom s t) (h' : DrawnFrom t u) : DrawnFrom s u :=
  List.Sublist.trans h h'

theorem drawnFrom_of_sublist (h : s.Sublist t) : DrawnFrom s t := h.filter _

theorem drawnFrom_of_isBlank (h : ∀ c ∈ s, isBlank c = true) : DrawnFrom s t := by
  unfold DrawnFrom
  rw [solid_eq_nil_iff.mpr h]
  exact List.nil_sublist _

theorem drawnFrom_space (t : Text) : DrawnFrom [' '] t := by
  unfold DrawnFrom
  rw [solid_space]
  exact List.nil_sublist _

theorem DrawnFrom.append {s' t' : Text} (h : DrawnFrom s t) (h' : DrawnFrom s' t') :
    DrawnFrom (s ++ s') (t ++ t') := by
  unfold DrawnFrom
  rw [solid_append, solid_append]
  exact List.Sublist.append h h'

/-- What is drawn piece by piece is drawn from the whole. -/
theorem drawnFrom_flatMap {α : Type} {f g : α → Text} (h : ∀ x, DrawnFrom (f x) (g x))
    (xs : List α) : DrawnFrom (xs.flatMap f) (xs.flatMap g) := by
  induction xs with
  | nil => exact .refl []
  | cons x rest ih => exact (h x).append ih

/-- What is drawn from a text is a part of it. -/
theorem DrawnFrom.solid_sublist (h : DrawnFrom s t) : (solid s).Sublist t :=
  List.Sublist.trans h (Text.solid_sublist t)

/-- What is drawn from two texts is drawn from the first and then from the second. -/
theorem DrawnFrom.exists_append {x y : Text} (h : DrawnFrom s (x ++ y)) :
    ∃ a b, solid s = a ++ b ∧ a.Sublist (solid x) ∧ b.Sublist (solid y) := by
  unfold DrawnFrom at h
  rw [solid_append] at h
  exact List.sublist_append_iff.mp h

/-! ## Trimming and renaming -/

theorem drawnFrom_trim (p : Char → Bool) (t : Text) : DrawnFrom (trim p t) t :=
  drawnFrom_of_sublist (trim_isInfix p t).sublist

/-- Trimming blanks keeps every solid character. -/
theorem solid_trimBlank (t : Text) : solid (trimBlank t) = solid t := by
  obtain ⟨front, back, split, hfront, hback⟩ := exists_trim_split isBlank t
  conv => rhs; rw [split]
  rw [solid_append, solid_append, solid_eq_nil_iff.mpr hfront, solid_eq_nil_iff.mpr hback,
    List.nil_append, List.append_nil]
  rfl

/-- A text in which some characters are made blank is drawn from it. -/
theorem drawnFrom_map {f : Char → Char} (h : ∀ c, f c = c ∨ isBlank (f c) = true) (t : Text) :
    DrawnFrom (t.map f) t := by
  have pieces : DrawnFrom (t.flatMap fun c => [f c]) (t.flatMap fun c => [c]) := by
    refine drawnFrom_flatMap (fun c => ?_) t
    rcases h c with same | blank
    · rw [same]
      exact .refl [c]
    · exact drawnFrom_of_isBlank fun d hd => by rw [List.mem_singleton.mp hd]; exact blank
  rwa [← List.map_eq_flatMap, List.flatMap_singleton'] at pieces

/-! ## Words -/

variable {separator : Char → Bool}

/-- The words of a text have every character that is no separator. -/
theorem flatten_words (t : Text) :
    (words separator t).flatten = t.filter fun c => !separator c := by
  unfold words
  rw [List.flatten_filter_ne_nil]
  induction t with
  | nil => rfl
  | cons c rest ih =>
      rw [List.splitOnP_cons_eq_if_modifyHead]
      cases hc : separator c with
      | true => simpa [hc] using ih
      | false =>
          cases pieces : rest.splitOnP separator with
          | nil => exact absurd pieces (List.splitOnP_ne_nil separator rest)
          | cons piece pieces' =>
              rw [pieces] at ih
              simpa [hc] using ih

/-- A character of a word is one of the text and no separator. -/
theorem of_mem_word {w : Text} {c : Char} (hw : w ∈ words separator t) (hc : c ∈ w) :
    c ∈ t ∧ separator c = false := by
  have member : c ∈ (words separator t).flatten := List.mem_flatten.mpr ⟨w, hw, hc⟩
  rw [flatten_words, List.mem_filter, Bool.not_eq_true'] at member
  exact member

/-- Spaces between words are not solid. -/
theorem solid_unwords (ws : List Text) : solid (unwords ws) = solid ws.flatten := by
  unfold unwords join
  induction ws with
  | nil => rfl
  | cons w rest ih =>
      cases rest with
      | nil => simp
      | cons w' rest =>
          rw [List.intercalate_cons_cons, solid_append, solid_append, ih, solid_space,
            List.append_nil, ← solid_append, ← List.flatten_cons]

/-- Collapsing keeps the solid characters that are no separators. -/
theorem solid_collapse (t : Text) :
    solid (collapse separator t) = solid (t.filter fun c => !separator c) := by
  unfold collapse
  rw [solid_unwords, flatten_words]

theorem drawnFrom_collapse (t : Text) : DrawnFrom (collapse separator t) t := by
  unfold DrawnFrom
  rw [solid_collapse]
  exact drawnFrom_of_sublist List.filter_sublist

/-- A collapsed text has no separator but spaces. -/
theorem of_mem_collapse {c : Char} (h : c ∈ collapse separator t) :
    c = ' ' ∨ separator c = false := by
  unfold collapse at h
  by_cases none : words separator t = []
  · rw [none] at h
    cases h
  · rcases (joinedBy_unwords none).mem_word_or_mem_gaps h with ⟨w, hw, hc⟩ | gap
    · exact .inr (of_mem_word hw hc).2
    · exact .inl (List.mem_singleton.mp gap)

/-- A text has no words exactly if it has nothing but separators. -/
theorem words_eq_nil_iff : words separator t = [] ↔ ∀ c ∈ t, separator c = true := by
  have flat : words separator t = [] ↔ (words separator t).flatten = [] := by
    rw [List.flatten_eq_nil_iff]
    constructor
    · intro none w hw
      rw [none] at hw
      cases hw
    · intro empty
      by_contra some
      obtain ⟨w, hw⟩ := List.exists_mem_of_ne_nil _ some
      exact ne_nil_of_mem_words hw (empty w hw)
  rw [flat, flatten_words, List.filter_eq_nil_iff]
  simp

/-- A text collapses to nothing exactly if it has nothing but separators. -/
theorem collapse_eq_nil_iff : collapse separator t = [] ↔ ∀ c ∈ t, separator c = true := by
  rw [← words_eq_nil_iff]
  unfold collapse
  constructor
  · intro empty
    by_contra some
    exact (joinedBy_unwords some).ne_nil (fun w hw => ne_nil_of_mem_words hw) empty
  · intro none
    rw [none]
    rfl

/-- A text that collapses to nothing but blanks collapses to nothing, if blanks are separators. -/
theorem collapse_eq_nil_of_isBlank (separates : ∀ c, isBlank c = true → separator c = true)
    (blank : ∀ c ∈ collapse separator t, isBlank c = true) : collapse separator t = [] := by
  rw [← solid_eq_nil_iff, solid_collapse, solid_eq_nil_iff] at blank
  rw [collapse_eq_nil_iff]
  intro c hc
  by_contra other
  rw [Bool.not_eq_true] at other
  have kept : c ∈ t.filter fun c => !separator c := List.mem_filter.mpr ⟨hc, by rw [other]; rfl⟩
  rw [separates c (blank c kept)] at other
  cases other

end Text

/-! ## Replacing fragments -/

/-- If every replacement is drawn from its fragment, the result is drawn from the text. -/
theorem Finder.drawnFrom_replaceAll {α : Type} (find : Finder α) {replacement : Text → α → Text}
    (h : ∀ fragment value, Text.DrawnFrom (replacement fragment value) fragment) (t : Text) :
    Text.DrawnFrom (find.replaceAll replacement t) t := by
  have pieces : Text.DrawnFrom (find.replaceAll replacement t) (Segment.text (find.segments t)) := by
    refine Text.drawnFrom_flatMap (fun s => ?_) (find.segments t)
    cases s with
    | plain c => exact .refl [c]
    | hit fragment value => exact h fragment value
  rwa [text_segments] at pieces

end ReleaseCatalog
