import Mathlib.Data.List.DropRight
import Mathlib.Data.List.Induction
import Mathlib.Data.List.Infix
import Mathlib.Data.List.TakeWhile
import ReleaseCatalog.Text.Words

/-!
# Words and the texts they are joined to

`JoinedBy gaps ws t` says that `t` is the words `ws` with a run of characters
of `gaps` between each two.  Many texts join the same words, and splitting any
of them gives the words back (`JoinedBy.words_eq`).  All of it follows from one
equation: a separator cuts the words of a text into those before it and those
after it (`words_append_separator`).

Trimming leaves a text alone if neither end has a character to trim
(`trim_eq_self`), and so it leaves joined words alone.  Of two parts that both keep
something it trims the outer ends, whatever stands between them (`trim_append`).
-/

namespace ReleaseCatalog

namespace Text

variable {separator : Char → Bool}

/-! ## Splitting -/

/-- A character of a text is behind a fragment of the text, before it, or inside it. -/
theorem place_cases {x y before fragment after : Text} {c : Char}
    (h : x ++ c :: y = before ++ fragment ++ after) :
    (∃ back, x = before ++ fragment ++ back ∧ after = back ++ c :: y) ∨
      (∃ front, y = front ++ fragment ++ after ∧ before = x ++ c :: front) ∨
      ∃ front back, fragment = front ++ c :: back ∧ x = before ++ front ∧ y = back ++ after := by
  rcases List.append_eq_append_iff.mp h with ⟨shared, split, rest⟩ | ⟨shared, split, rest⟩
  · cases shared with
    | nil =>
        rw [List.append_nil] at split
        exact .inl ⟨[], by rw [split, List.append_nil], rest.symm⟩
    | cons d shared =>
        obtain ⟨rfl, rfl⟩ := List.cons.inj rest
        rcases List.append_eq_append_iff.mp split with ⟨gap, rfl, inside⟩ | ⟨gap, rfl, inside⟩
        · exact .inr (.inr ⟨gap, shared, inside, rfl, rfl⟩)
        · cases gap with
          | nil => exact .inr (.inr ⟨[], shared, inside.symm, by simp, rfl⟩)
          | cons e gap =>
              obtain ⟨rfl, rfl⟩ := List.cons.inj inside
              exact .inr (.inl ⟨gap, rfl, rfl⟩)
  · exact .inl ⟨shared, split, rest⟩

/-- A separator cuts the words of a text in two. -/
theorem words_append_separator {c : Char} (h : separator c = true) (x y : Text) :
    words separator (x ++ c :: y) = words separator x ++ words separator y := by
  unfold words
  rw [List.splitOnP_append_cons x y h, List.filter_append]

theorem words_nil : words separator [] = [] := by
  unfold words
  rw [List.splitOnP_nil]
  rfl

/-- Separators in front of a text belong to no word. -/
theorem words_run_append {run : Text} (h : ∀ c ∈ run, separator c = true) (t : Text) :
    words separator (run ++ t) = words separator t := by
  induction run with
  | nil => rfl
  | cons c run ih =>
      have cut := words_append_separator (h c List.mem_cons_self) [] (run ++ t)
      rw [words_nil, List.nil_append, List.nil_append] at cut
      rw [List.cons_append, cut]
      exact ih fun d hd => h d (List.mem_cons_of_mem _ hd)

/-- A run of separators cuts the words of a text in two. -/
theorem words_append_run_append {run : Text} (nonempty : run ≠ [])
    (h : ∀ c ∈ run, separator c = true) (x y : Text) :
    words separator (x ++ run ++ y) = words separator x ++ words separator y := by
  cases run with
  | nil => exact absurd rfl nonempty
  | cons c run =>
      rw [List.append_assoc, List.cons_append, words_append_separator (h c List.mem_cons_self),
        words_run_append fun d hd => h d (List.mem_cons_of_mem _ hd)]

/-- Separators at the end of a text belong to no word. -/
theorem words_append_run {run : Text} (h : ∀ c ∈ run, separator c = true) (t : Text) :
    words separator (t ++ run) = words separator t := by
  by_cases nonempty : run = []
  · rw [nonempty, List.append_nil]
  · have cut := words_append_run_append nonempty h t []
    rwa [List.append_nil, words_nil, List.append_nil] at cut

/-- If the second of two texts begins with a separator, no word reaches over both. -/
theorem words_append_of_head {x y : Text} (h : y.head?.all separator = true) :
    words separator (x ++ y) = words separator x ++ words separator y := by
  cases y with
  | nil => rw [words_nil, List.append_nil, List.append_nil]
  | cons c y =>
      have alone := words_append_separator h [] y
      rw [words_nil, List.nil_append, List.nil_append] at alone
      rw [words_append_separator h, alone]

/-- If the first of two texts ends in a separator, no word reaches over both. -/
theorem words_append_of_getLast {x y : Text} (h : x.getLast?.all separator = true) :
    words separator (x ++ y) = words separator x ++ words separator y := by
  cases x using List.reverseRecOn with
  | nil => rw [words_nil, List.nil_append, List.nil_append]
  | append_singleton x c =>
      rw [List.getLast?_concat] at h
      rw [List.append_assoc, List.singleton_append, words_append_separator h,
        words_append_separator h, words_nil, List.append_nil]

/-- A text that is not empty and has no separator. -/
def IsWord (separator : Char → Bool) (w : Text) : Prop := w ≠ [] ∧ ∀ c ∈ w, separator c = false

theorem words_of_isWord {w : Text} (h : IsWord separator w) : words separator w = [w] := by
  unfold words
  rw [List.splitOnP_eq_singleton h.2]
  simp [h.1]

/-! ## Joining -/

/-- A text of one or more characters of a list. -/
def IsRun (gaps run : Text) : Prop := run ≠ [] ∧ ∀ c ∈ run, c ∈ gaps

/-- Words with a run of characters between each two. -/
inductive JoinedBy (gaps : Text) : List Text → Text → Prop where
  | one (w : Text) : JoinedBy gaps [w] w
  | more (w : Text) {run : Text} {ws : List Text} {t : Text} :
      IsRun gaps run → JoinedBy gaps ws t → JoinedBy gaps (w :: ws) (w ++ run ++ t)

theorem joinedBy_join (c : Char) {ws : List Text} (h : ws ≠ []) :
    JoinedBy [c] ws (join [c] ws) := by
  induction ws with
  | nil => exact absurd rfl h
  | cons w rest ih =>
      cases rest with
      | nil =>
          rw [join, List.intercalate_singleton]
          exact .one w
      | cons w' rest =>
          have run : IsRun [c] [c] := ⟨List.cons_ne_nil _ _, fun _ hd => hd⟩
          have joined := JoinedBy.more w run (ih (List.cons_ne_nil _ _))
          rwa [join, List.intercalate_cons_cons]

/-- The words of a line are joined by spaces. -/
theorem joinedBy_unwords {ws : List Text} (h : ws ≠ []) : JoinedBy [' '] ws (unwords ws) :=
  joinedBy_join ' ' h

/-- Behind the first word of a line, each word stands behind a space. -/
theorem unwords_cons (w : Text) (ws : List Text) :
    unwords (w :: ws) = w ++ ws.flatMap (' ' :: ·) := by
  induction ws generalizing w with
  | nil => simp [unwords, join]
  | cons v ws ih =>
      rw [unwords, join, List.intercalate_cons_cons, ← join, ← unwords, ih, List.flatMap_cons]
      simp

/-- The words of two lines make one line with a space between them. -/
theorem unwords_append {ws vs : List Text} (hw : ws ≠ []) (hv : vs ≠ []) :
    unwords (ws ++ vs) = unwords ws ++ ' ' :: unwords vs := by
  obtain ⟨w, ws, rfl⟩ := List.exists_cons_of_ne_nil hw
  obtain ⟨v, vs, rfl⟩ := List.exists_cons_of_ne_nil hv
  rw [List.cons_append, unwords_cons, unwords_cons, unwords_cons, List.flatMap_append,
    List.flatMap_cons, List.append_assoc, List.cons_append]

namespace JoinedBy

variable {gaps : Text} {ws : List Text} {t : Text}

theorem mono {gaps' : Text} (joined : JoinedBy gaps ws t) (h : gaps ⊆ gaps') :
    JoinedBy gaps' ws t := by
  induction joined with
  | one w => exact .one w
  | more w isRun joined ih => exact .more w ⟨isRun.1, fun c hc => h (isRun.2 c hc)⟩ ih

/-- Splitting gives back the words, however they were joined. -/
theorem words_eq (joined : JoinedBy gaps ws t) (gap : ∀ c ∈ gaps, separator c = true)
    (word : ∀ w ∈ ws, IsWord separator w) : words separator t = ws := by
  induction joined with
  | one w => exact words_of_isWord (word w List.mem_cons_self)
  | @more w run ws t isRun joined ih =>
      rw [words_append_run_append isRun.1 fun c hc => gap c (isRun.2 c hc),
        words_of_isWord (word w List.mem_cons_self),
        ih fun w' hw' => word w' (List.mem_cons_of_mem _ hw'), List.singleton_append]

/-- Every character is one of a word or of the gaps. -/
theorem mem_word_or_mem_gaps (joined : JoinedBy gaps ws t) {c : Char} (h : c ∈ t) :
    (∃ w ∈ ws, c ∈ w) ∨ c ∈ gaps := by
  induction joined with
  | one w => exact .inl ⟨w, List.mem_cons_self, h⟩
  | @more w run ws t isRun joined ih =>
      rcases List.mem_append.mp h with h | h
      · rcases List.mem_append.mp h with h | h
        · exact .inl ⟨w, List.mem_cons_self, h⟩
        · exact .inr (isRun.2 c h)
      · rcases ih h with ⟨w', hw', hc⟩ | hc
        · exact .inl ⟨w', List.mem_cons_of_mem _ hw', hc⟩
        · exact .inr hc

theorem exists_isPrefix (joined : JoinedBy gaps ws t) : ∃ w ∈ ws, w <+: t := by
  cases joined with
  | one => exact ⟨t, List.mem_cons_self, List.prefix_rfl⟩
  | more w isRun joined =>
      refine ⟨w, List.mem_cons_self, ?_⟩
      rw [List.append_assoc]
      exact List.prefix_append w _

theorem exists_isSuffix (joined : JoinedBy gaps ws t) : ∃ w ∈ ws, w <:+ t := by
  induction joined with
  | one w => exact ⟨w, List.mem_cons_self, List.suffix_rfl⟩
  | @more w run ws t isRun joined ih =>
      obtain ⟨w', hw', suffix⟩ := ih
      exact ⟨w', List.mem_cons_of_mem _ hw', suffix.trans (List.suffix_append _ _)⟩

theorem ne_nil (joined : JoinedBy gaps ws t) (word : ∀ w ∈ ws, w ≠ []) : t ≠ [] := by
  obtain ⟨w, hw, rest, rfl⟩ := joined.exists_isPrefix
  exact List.append_ne_nil_of_left_ne_nil (word w hw) rest

end JoinedBy

/-! ## Ends -/

/-- The first character of a text and the last do not satisfy `p`. -/
def EndsWithout (p : Char → Bool) (t : Text) : Prop :=
  (∀ c ∈ t.head?, p c = false) ∧ ∀ c ∈ t.getLast?, p c = false

theorem dropWhile_eq_self {p : Char → Bool} {t : Text} (h : ∀ c ∈ t.head?, p c = false) :
    t.dropWhile p = t := by
  cases t with
  | nil => rfl
  | cons c rest => rw [List.dropWhile_cons_of_neg (Bool.eq_false_iff.mp (h c rfl))]

/-- Trimming drops from the front, and then from the end. -/
theorem trim_eq_rdropWhile (p : Char → Bool) (t : Text) :
    trim p t = (t.dropWhile p).rdropWhile p := rfl

/-- What is left after trimming is an infix of the text. -/
theorem trim_isInfix (p : Char → Bool) (t : Text) : trim p t <:+: t :=
  (List.rdropWhile_prefix p _).isInfix.trans (List.dropWhile_suffix p).isInfix

/-- Trimming leaves a text alone if neither end has a character to trim. -/
theorem trim_eq_self {p : Char → Bool} {t : Text} (h : EndsWithout p t) : trim p t = t := by
  unfold trim
  rw [dropWhile_eq_self h.1, dropWhile_eq_self, List.reverse_reverse]
  rw [List.head?_reverse]
  exact h.2

theorem eq_false_of_head?_dropWhile {p : Char → Bool} {t : Text} {c : Char}
    (h : (t.dropWhile p).head? = some c) : p c = false := by
  have first := List.head?_dropWhile_not p t
  rwa [h] at first

/-- Trimming leaves no character to trim at the ends. -/
theorem endsWithout_trim (p : Char → Bool) (t : Text) : EndsWithout p (trim p t) := by
  constructor
  · intro c hc
    obtain ⟨back, split⟩ := List.rdropWhile_prefix p (t.dropWhile p)
    refine eq_false_of_head?_dropWhile (t := t) ?_
    rw [← split, List.head?_append]
    exact congrArg (Option.or · back.head?) hc
  · intro c hc
    unfold trim at hc
    rw [List.getLast?_reverse] at hc
    exact eq_false_of_head?_dropWhile hc

theorem trim_trim (p : Char → Bool) (t : Text) : trim p (trim p t) = trim p t :=
  trim_eq_self (endsWithout_trim p t)

/-- Around what trimming leaves of a text stand the characters it takes. -/
theorem exists_trim_split (p : Char → Bool) (t : Text) :
    ∃ front back, t = front ++ trim p t ++ back ∧ (∀ c ∈ front, p c = true) ∧
      ∀ c ∈ back, p c = true := by
  refine ⟨t.takeWhile p, (t.dropWhile p).rtakeWhile p, ?_, ?_, fun c => List.mem_rtakeWhile_imp⟩
  · rw [trim_eq_rdropWhile, List.append_assoc, List.rdropWhile_append_rtakeWhile,
      List.takeWhile_append_dropWhile]
  · exact List.all_eq_true.mp List.all_takeWhile

/-- Of characters to trim nothing is left. -/
theorem trim_eq_nil {p : Char → Bool} {t : Text} (h : ∀ c ∈ t, p c = true) : trim p t = [] := by
  unfold trim
  rw [List.dropWhile_eq_nil_iff.mpr h]
  rfl

/-- Trimming leaves what stands between characters to trim. -/
theorem trim_eq_of_split {p : Char → Bool} {front middle back : Text}
    (hf : ∀ c ∈ front, p c = true) (hb : ∀ c ∈ back, p c = true) (nonempty : middle ≠ [])
    (ends : EndsWithout p middle) : trim p (front ++ middle ++ back) = middle := by
  have first : (front ++ middle ++ back).dropWhile p = middle ++ back := by
    rw [List.append_assoc, List.dropWhile_append_of_pos hf, dropWhile_eq_self]
    rw [List.head?_append_of_ne_nil _ nonempty]
    exact ends.1
  unfold trim
  rw [first, List.reverse_append, List.dropWhile_append_of_pos, dropWhile_eq_self,
    List.reverse_reverse]
  · rw [List.head?_reverse]
    exact ends.2
  · exact fun c hc => hb c (List.mem_reverse.mp hc)

/-- Trimming separators takes nothing from the words. -/
theorem words_trim {p : Char → Bool} (h : ∀ c, p c = true → separator c = true) (t : Text) :
    words separator (trim p t) = words separator t := by
  obtain ⟨front, back, split, hfront, hback⟩ := exists_trim_split p t
  conv => rhs; rw [split]
  rw [words_append_run fun c hc => h c (hback c hc), words_run_append fun c hc => h c (hfront c hc)]

/-- Of a text with a character that is not dropped, such a character is left. -/
theorem exists_mem_dropWhile {p : Char → Bool} {t : Text} (h : ∃ c ∈ t, p c = false) :
    ∃ c ∈ t.dropWhile p, p c = false := by
  cases left : t.dropWhile p with
  | nil =>
      obtain ⟨c, hc, other⟩ := h
      rw [List.dropWhile_eq_nil_iff.mp left c hc] at other
      cases other
  | cons d rest =>
      exact ⟨d, List.mem_cons_self, eq_false_of_head?_dropWhile (t := t) (by rw [left]; rfl)⟩

/-- A text with a character that is not dropped has a first one. -/
theorem exists_split_of_exists {p : Char → Bool} {t : Text} (h : ∃ c ∈ t, p c = false) :
    ∃ front rest, t = front ++ rest ∧ (∀ c ∈ front, p c = true) ∧ rest ≠ [] ∧
      ∀ c ∈ rest.head?, p c = false := by
  obtain ⟨c, member, -⟩ := exists_mem_dropWhile h
  exact ⟨t.takeWhile p, t.dropWhile p, List.takeWhile_append_dropWhile.symm,
    List.all_eq_true.mp List.all_takeWhile, List.ne_nil_of_mem member,
    fun _ first => eq_false_of_head?_dropWhile first⟩

theorem dropWhile_append_of_exists {p : Char → Bool} {front : Text}
    (h : ∃ c ∈ front, p c = false) (rest : Text) :
    (front ++ rest).dropWhile p = front.dropWhile p ++ rest := by
  obtain ⟨c, hc, -⟩ := exists_mem_dropWhile h
  rw [List.dropWhile_append, if_neg fun empty => ?_]
  rw [List.isEmpty_iff.mp empty] at hc
  cases hc

theorem rdropWhile_append_of_exists {p : Char → Bool} (front : Text) {rest : Text}
    (h : ∃ c ∈ rest, p c = false) :
    (front ++ rest).rdropWhile p = front ++ rest.rdropWhile p := by
  obtain ⟨c, hc, other⟩ := h
  unfold List.rdropWhile
  rw [List.reverse_append, dropWhile_append_of_exists ⟨c, List.mem_reverse.mpr hc, other⟩,
    List.reverse_append, List.reverse_reverse]

/-- Two parts that trimming leaves something of are trimmed at their outer ends. -/
theorem trim_append {p : Char → Bool} {front rest : Text} (hf : ∃ c ∈ front, p c = false)
    (hr : ∃ c ∈ rest, p c = false) (middle : Text) :
    trim p (front ++ middle ++ rest) = front.dropWhile p ++ middle ++ rest.rdropWhile p := by
  rw [trim_eq_rdropWhile, List.append_assoc, dropWhile_append_of_exists hf, ← List.append_assoc,
    rdropWhile_append_of_exists _ hr]

/-- The ends of a text are the first end of its beginning and the last end of its rest. -/
theorem endsWithout_append {p : Char → Bool} {s middle t : Text} (hs : EndsWithout p s)
    (ht : EndsWithout p t) (nonempty : s ≠ []) (nonempty' : t ≠ []) :
    EndsWithout p (s ++ middle ++ t) := by
  constructor
  · rw [List.append_assoc, List.head?_append_of_ne_nil _ nonempty]
    exact hs.1
  · rw [List.getLast?_append_of_ne_nil _ nonempty']
    exact ht.2

theorem JoinedBy.endsWithout {p : Char → Bool} {gaps : Text} {ws : List Text} {t : Text}
    (joined : JoinedBy gaps ws t) (word : ∀ w ∈ ws, IsWord p w) : EndsWithout p t := by
  constructor
  · obtain ⟨w, hw, rest, rfl⟩ := joined.exists_isPrefix
    obtain ⟨nonempty, without⟩ := word w hw
    rw [List.head?_append_of_ne_nil _ nonempty]
    exact fun c hc => without c (List.mem_of_mem_head? hc)
  · obtain ⟨w, hw, front, rfl⟩ := joined.exists_isSuffix
    obtain ⟨nonempty, without⟩ := word w hw
    rw [List.getLast?_append_of_ne_nil _ nonempty]
    exact fun c hc => without c (List.mem_of_mem_getLast? hc)

end Text

end ReleaseCatalog
