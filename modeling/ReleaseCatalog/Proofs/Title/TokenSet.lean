import Mathlib.Data.Finset.Basic
import Mathlib.Data.Finset.Card
import Mathlib.Tactic.Tauto
import ReleaseCatalog.Proofs.Text.Joining
import ReleaseCatalog.Proofs.Title.NormalForm
import ReleaseCatalog.Proofs.Unicode.FoldedClasses
import ReleaseCatalog.Title.Tokens

/-!
# Tokens as a set

The tokens of a title are a list without repetition, so a count of them is the
size of a set (`countP_contains_eq_card`).

Names are *linked* in a line by blanks, ampersands or joiners between spaces.  An
ampersand is set off by spaces and case is folded character by character, so neither
step sees beyond a link, words are cut at blanks, and a joiner is no token.  So the tokens
of a line are the tokens of its names together (`Linked.mem_tokens_iff`), and they do not
depend on the order of the names, nor on repetitions.  A line of words is the case of
single spaces.
-/

namespace ReleaseCatalog

/-! ## Lists without repetition -/

theorem mem_distinctBy_id {α : Type} [DecidableEq α] {list : List α} {a : α} :
    a ∈ distinctBy id list ↔ a ∈ list := by
  constructor
  · exact fun h => (distinctBy_sublist id list).mem h
  · intro h
    obtain ⟨b, hb, rfl⟩ : ∃ b ∈ distinctBy id list, b = a := exists_mem_distinctBy h
    exact hb

theorem nodup_distinctBy_id {α : Type} [DecidableEq α] (list : List α) :
    (distinctBy id list).Nodup :=
  (pairwise_distinctBy id list).imp fun ne same => ne same

namespace Title

open Unicode (foldCase isBlank)

/-- Counting the tokens of a list that are among others is counting a set. -/
theorem countP_contains_eq_card {tokens release : List Text} (distinct : tokens.Nodup) :
    tokens.countP release.contains = (tokens.toFinset ∩ release.toFinset).card := by
  rw [List.countP_eq_length_filter, ← List.toFinset_card_of_nodup (distinct.filter _)]
  refine congrArg Finset.card (Finset.ext fun token => ?_)
  simp [List.mem_toFinset]

theorem nodup_tokens (title : Text) : (tokens title).Nodup := nodup_distinctBy_id _

theorem mem_tokens {title token : Text} :
    token ∈ tokens title ↔ token ∈ bareWords title ∧ isToken token = true := by
  unfold tokens
  rw [mem_distinctBy_id, List.mem_filter]

/-! ## Links between names -/

/-- A title with its ampersands set apart and its letter case folded, as it is cut into words. -/
def foldedLine (title : Text) : Text := foldCase (isolateAmpersands title)

theorem foldedLine_append (s t : Text) : foldedLine (s ++ t) = foldedLine s ++ foldedLine t := by
  simp [foldedLine, isolateAmpersands]

/-- Without ampersands there is nothing to set apart. -/
theorem foldedLine_eq_foldCase {t : Text} (h : '&' ∉ t) : foldedLine t = foldCase t :=
  congrArg foldCase (replaced_eq_self h)

theorem tokens_congr {s t : Text} (same : foldedLine s = foldedLine t) : tokens s = tokens t := by
  unfold foldedLine at same
  unfold tokens bareWords
  rw [same]

/-- A text without tokens that keeps what is before it apart from what is behind it. -/
structure Separates (gap : Text) : Prop where
  nonempty : foldedLine gap ≠ []
  opens : (foldedLine gap).head?.all isBlank = true
  closes : (foldedLine gap).getLast?.all isBlank = true
  silent : tokens gap = []

theorem Separates.congr {gap gap' : Text} (same : foldedLine gap = foldedLine gap')
    (separates : Separates gap) : Separates gap' where
  nonempty := same ▸ separates.nonempty
  opens := same ▸ separates.opens
  closes := same ▸ separates.closes
  silent := tokens_congr same ▸ separates.silent

/-- The tokens on both sides of such a text are the tokens of the whole. -/
theorem Separates.mem_tokens_append {gap s t token : Text} (separates : Separates gap) :
    token ∈ tokens (s ++ gap ++ t) ↔ token ∈ tokens s ∨ token ∈ tokens t := by
  have cut : bareWords (s ++ gap ++ t) = bareWords s ++ bareWords gap ++ bareWords t := by
    have closes := separates.closes
    rw [← List.getLast?_append_of_ne_nil (foldedLine s) separates.nonempty] at closes
    have words : Text.words isBlank (foldedLine (s ++ gap ++ t)) =
        Text.words isBlank (foldedLine s) ++ Text.words isBlank (foldedLine gap) ++
          Text.words isBlank (foldedLine t) := by
      rw [foldedLine_append, foldedLine_append, Text.words_append_of_getLast closes,
        Text.words_append_of_head separates.opens]
    unfold foldedLine at words
    unfold bareWords
    rw [words, List.map_append, List.map_append]
  have silent : ¬ (token ∈ bareWords gap ∧ isToken token = true) := by
    rw [← mem_tokens, separates.silent]
    exact List.not_mem_nil
  rw [mem_tokens, mem_tokens, mem_tokens, cut, List.mem_append, List.mem_append]
  tauto

/-- What links two names: a blank, an ampersand, or a joiner between spaces. -/
inductive IsLink : Text → Prop where
  | blank {c : Char} : isBlank c = true → IsLink [c]
  | ampersand : IsLink ['&']
  | spacedAmpersand : IsLink " & ".toList
  | spacedPlus : IsLink " + ".toList
  /-- The word "and" between spaces, in any letter case. -/
  | spacedAnd {w : Text} : foldCase w = "and".toList → IsLink ([' '] ++ w ++ [' '])

theorem IsLink.separates {link : Text} (isLink : IsLink link) : Separates link := by
  cases isLink with
  | @blank c blank =>
      have other : c ≠ '&' := by
        rintro rfl
        cases blank
      have line : foldedLine [c] = [c] := by
        rw [foldedLine_eq_foldCase fun member => other (List.mem_singleton.mp member).symm, foldCase,
          List.flatMap_singleton, Unicode.foldChar_of_isBlank blank]
      have none : Text.words isBlank [c] = [] := by
        rw [← List.append_nil [c], Text.words_run_append, Text.words_nil]
        exact fun d hd => List.mem_singleton.mp hd ▸ blank
      constructor
      · rw [line]
        exact List.cons_ne_nil c []
      · rw [line]
        exact blank
      · rw [line]
        exact blank
      · unfold foldedLine at line
        unfold tokens bareWords
        rw [line, none]
        rfl
  | ampersand => constructor <;> decide
  | spacedAmpersand => constructor <;> decide
  | spacedPlus => constructor <;> decide
  | @spacedAnd w folded =>
      have unmarked : '&' ∉ w := by
        intro member
        have kept : '&' ∈ foldCase w := List.mem_flatMap.mpr ⟨'&', member, by decide⟩
        rw [folded] at kept
        revert kept
        decide
      have spoken : Separates " and ".toList := by constructor <;> decide
      refine spoken.congr ?_
      rw [foldedLine_append, foldedLine_append, foldedLine_eq_foldCase unmarked, folded]
      decide

/-- A name stands in a title between blanks or ends of it. -/
def StandsIn (name title : Text) : Prop :=
  ∃ x y, title = x ++ name ++ y ∧ x.getLast?.all isBlank = true ∧ y.head?.all isBlank = true

/-- The tokens of a name that stands in a title are tokens of the title. -/
theorem StandsIn.mem_tokens {name title token : Text} (stands : StandsIn name title)
    (member : token ∈ tokens name) : token ∈ tokens title := by
  obtain ⟨x, y, rfl, opens, closes⟩ := stands
  have behind : token ∈ tokens (x ++ name) := by
    cases x using List.reverseRecOn with
    | nil => exact member
    | append_singleton x c =>
        rw [List.getLast?_concat] at opens
        exact (IsLink.blank opens).separates.mem_tokens_append.mpr (.inr member)
  cases y with
  | nil => rwa [List.append_nil]
  | cons c y =>
      rw [List.append_cons]
      exact (IsLink.blank closes).separates.mem_tokens_append.mpr (.inl behind)

/-- A line of names with links between them. -/
inductive Linked : List Text → Text → Prop where
  | none : Linked [] []
  | one (name : Text) : Linked [name] name
  | more (name : Text) {link next line : Text} {names : List Text} :
      IsLink link → Linked (next :: names) line → Linked (name :: next :: names) (name ++ link ++ line)

/-- The tokens of a line of names are the tokens of the names together. -/
theorem Linked.mem_tokens_iff {names : List Text} {line token : Text} (linked : Linked names line) :
    token ∈ tokens line ↔ ∃ name ∈ names, token ∈ tokens name := by
  induction linked with
  | none => simp [tokens, bareWords, isolateAmpersands, foldCase, Text.words_nil, distinctBy]
  | one name => simp only [List.mem_singleton, exists_eq_left]
  | more name isLink linked ih => rw [isLink.separates.mem_tokens_append, List.exists_mem_cons_iff, ih]

theorem linked_join {c : Char} (isLink : IsLink [c]) (names : List Text) :
    Linked names (Text.join [c] names) := by
  unfold Text.join
  induction names with
  | nil => exact .none
  | cons name rest ih =>
      cases rest with
      | nil =>
          rw [List.intercalate_singleton]
          exact .one name
      | cons next rest =>
          rw [List.intercalate_cons_cons]
          exact .more name isLink ih

/-! ## Lines of words -/

/-- The tokens of a line are the tokens of its words together. -/
theorem mem_tokens_unwords {ws : List Text} {token : Text} :
    token ∈ tokens (Text.unwords ws) ↔ ∃ w ∈ ws, token ∈ tokens w :=
  (linked_join (.blank (by decide)) ws).mem_tokens_iff

/-- The tokens of a text are those of its pieces between characters that are links. -/
theorem mem_tokens_iff_exists_piece {c : Char} {t token : Text} (isLink : IsLink [c]) :
    token ∈ tokens t ↔ ∃ w ∈ Text.words (· == c) t, token ∈ tokens w := by
  have linked := linked_join isLink (t.splitOnP (· == c))
  have line : Text.join [c] (t.splitOnP (· == c)) = t := List.intercalate_splitOn c
  rw [line] at linked
  rw [linked.mem_tokens_iff]
  constructor
  · rintro ⟨w, piece, member⟩
    have nonempty : w ≠ [] := by
      rintro rfl
      exact absurd member List.not_mem_nil
    exact ⟨w, List.mem_filter.mpr ⟨piece, decide_eq_true nonempty⟩, member⟩
  · rintro ⟨w, word, member⟩
    exact ⟨w, (List.mem_filter.mp word).1, member⟩

/-- The tokens of a text are those of its words between spaces. -/
theorem mem_tokens_iff_exists_word {t token : Text} :
    token ∈ tokens t ↔ ∃ w ∈ Text.words (· == ' ') t, token ∈ tokens w :=
  mem_tokens_iff_exists_piece (.blank (by decide))

/-- Lines with the same words, in whatever order and however often, have the same tokens. -/
theorem toFinset_tokens_unwords {ws ws' : List Text} (same : ∀ w, w ∈ ws ↔ w ∈ ws') :
    (tokens (Text.unwords ws)).toFinset = (tokens (Text.unwords ws')).toFinset := by
  ext token
  rw [List.mem_toFinset, List.mem_toFinset, mem_tokens_unwords, mem_tokens_unwords]
  simp only [same]

end Title

end ReleaseCatalog
