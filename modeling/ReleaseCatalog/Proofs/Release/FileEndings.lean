import ReleaseCatalog.Proofs.Release.Preparing
import ReleaseCatalog.Proofs.Release.TagFragment

/-!
# What the endings of a file name leave of a name

Before a name is searched it is trimmed, and an extension and a counter of copies are
dropped from its end.  A text is *closed* if none of these can reach into it from what
follows.  Behind a closed text only the rest of the name is cut (`IsClosed.exists_leaves`).

`Leaves rest left` says what can be left of the rest: a beginning of it, cut before a
character that is no digit, and perhaps a line feed, which a counter may stand before.
So nothing but line feeds is left that was not there (`Leaves.mem`).
-/

namespace ReleaseCatalog.Release

open Text (EndsWithout)
open Unicode (isBlank isDecimal)

/-! ## What is left of a text -/

/-- A beginning of a text that is cut before no digit, with any line feeds behind it. -/
def Leaves (rest left : Text) : Prop :=
  ∃ kept dropped lines, rest = kept ++ dropped ∧ left = kept ++ lines ∧
    dropped.head?.any isDecimal = false ∧ ∀ c ∈ lines, c = '\n'

theorem Leaves.refl (rest : Text) : Leaves rest rest :=
  ⟨rest, [], [], (List.append_nil _).symm, (List.append_nil _).symm, rfl, fun _ h => nomatch h⟩

/-- A beginning of a text that is cut before no digit. -/
theorem Leaves.of_append {kept dropped : Text} (h : dropped.head?.any isDecimal = false) :
    Leaves (kept ++ dropped) kept :=
  ⟨kept, dropped, [], rfl, (List.append_nil _).symm, h, fun _ h => nomatch h⟩

variable {rest left : Text}

theorem any_head?_append {p : Char → Bool} {x y : Text} (hx : x.head?.any p = false)
    (hy : y.head?.any p = false) : (x ++ y).head?.any p = false := by
  cases x with
  | nil => exact hy
  | cons c x => exact hx

theorem any_head?_of_append {p : Char → Bool} {x y : Text} (h : (x ++ y).head?.any p = false) :
    x.head?.any p = false := by
  cases x with
  | nil => rfl
  | cons c x => exact h

theorem Leaves.trans {left' : Text} (h : Leaves rest left) (h' : Leaves left left') :
    Leaves rest left' := by
  obtain ⟨kept, dropped, lines, rfl, rfl, cut, feeds⟩ := h
  obtain ⟨kept', dropped', lines', split, rfl, cut', feeds'⟩ := h'
  rcases List.append_eq_append_iff.mp split with ⟨x, rfl, rfl⟩ | ⟨x, rfl, rfl⟩
  · refine ⟨kept, dropped, x ++ lines', rfl, List.append_assoc .., cut, fun c hc => ?_⟩
    cases List.mem_append.mp hc with
    | inl feed => exact feeds c (List.mem_append_left _ feed)
    | inr feed => exact feeds' c feed
  · exact ⟨kept', x ++ dropped, lines', List.append_assoc .., rfl,
      any_head?_append (any_head?_of_append cut') cut, feeds'⟩

/-- What comes before a text does not matter. -/
theorem Leaves.append (front : Text) (h : Leaves rest left) : Leaves (front ++ rest) (front ++ left) := by
  obtain ⟨kept, dropped, lines, rfl, rfl, cut, feeds⟩ := h
  exact ⟨front ++ kept, dropped, lines, (List.append_assoc ..).symm, (List.append_assoc ..).symm,
    cut, feeds⟩

/-- Only line feeds are new. -/
theorem Leaves.mem {c : Char} (h : Leaves rest left) (member : c ∈ left) : c ∈ rest ∨ c = '\n' := by
  obtain ⟨kept, dropped, lines, rfl, rfl, -, feeds⟩ := h
  cases List.mem_append.mp member with
  | inl old => exact .inl (List.mem_append_left _ old)
  | inr feed => exact .inr (feeds c feed)

/-- What is left behind a word is still apart from it. -/
theorem Leaves.isTagBoundary (h : Leaves rest left) (apart : isTagBoundary rest.head? = true) :
    isTagBoundary left.head? = true := by
  obtain ⟨kept, dropped, lines, rfl, rfl, -, feeds⟩ := h
  cases kept with
  | cons c kept => exact apart
  | nil =>
      cases lines with
      | nil => rfl
      | cons c lines =>
          have separator : isSeparator '\n' = true := by decide
          rw [feeds c List.mem_cons_self]
          exact separator

/-! ## Closed texts -/

/-- A text into which no ending of a file name reaches from what follows. -/
structure IsClosed (front : Text) : Prop where
  ne_nil : front ≠ []
  ends : EndsWithout isBlank front
  no_extension : ∀ e ∈ videoFileExtensions, ¬ e <:+ front.map smallLetter
  no_counter : ∀ kept digits, front = kept ++ '_' :: digits → ∃ c ∈ digits, isDecimal c = false

variable {front : Text}

/-! ## Blanks -/

/-- Trimming does not reach into a closed text. -/
theorem IsClosed.trimBlank_append (closed : IsClosed front) (rest : Text) :
    Text.trimBlank (front ++ rest) = front ++ rest.rdropWhile isBlank := by
  have start : ∀ c ∈ (front ++ rest).head?, isBlank c = false := by
    rw [List.head?_append_of_ne_nil _ closed.ne_nil]
    exact closed.ends.1
  have stop : front.reverse.dropWhile isBlank = front.reverse := by
    refine Text.dropWhile_eq_self ?_
    rw [List.head?_reverse]
    exact closed.ends.2
  unfold Text.trimBlank Text.trim List.rdropWhile
  rw [Text.dropWhile_eq_self start, List.reverse_append, List.dropWhile_append, stop]
  split
  · next none =>
      rw [List.isEmpty_iff.mp none, List.reverse_nil, List.append_nil, List.reverse_reverse]
  · rw [List.reverse_append, List.reverse_reverse]

theorem leaves_rdropWhile (rest : Text) : Leaves rest (rest.rdropWhile isBlank) := by
  have split : rest = rest.rdropWhile isBlank ++ rest.rtakeWhile isBlank :=
    List.rdropWhile_append_rtakeWhile.symm
  conv => lhs; rw [split]
  refine .of_append ?_
  cases first : (rest.rtakeWhile isBlank).head? with
  | none => rfl
  | some c =>
      refine Bool.eq_false_iff.mpr fun digit => ?_
      have blank := List.mem_rtakeWhile_imp (List.mem_of_head? first)
      rw [Unicode.isBlank_eq_false_of_isDecimal digit] at blank
      cases blank

/-! ## Extensions -/

theorem smallLetter_of_isSeparator {c : Char} (h : isSeparator c = true) : smallLetter c = c := by
  refine smallLetter_eq_self (Bool.eq_false_iff.mpr fun alpha => ?_) ?_
  · rw [isSeparator_eq_false_of_isAlpha alpha] at h
    cases h
  · rintro rfl
    revert h
    decide

/-- Behind a separator an extension has none, so it does not reach over one. -/
theorem isSuffix_of_isSuffix_append {e : Text} (listed : e ∈ videoFileExtensions)
    (apart : isTagBoundary rest.head? = true) (nonempty : rest ≠ [])
    (h : e <:+ (front ++ rest).map smallLetter) : e <:+ rest.map smallLetter := by
  have solid : ∀ e ∈ videoFileExtensions, ∀ c ∈ e.tail, isSeparator c = false := by decide
  rw [List.map_append] at h
  rcases List.suffix_or_suffix_of_suffix h (List.suffix_append _ _) with short | ⟨passed, long⟩
  · exact short
  · cases passed with
    | nil => rw [← long]; exact List.suffix_rfl
    | cons d passed =>
        cases rest with
        | nil => exact absurd rfl nonempty
        | cons c rest =>
            have behind := solid e listed c (by
              rw [← long, List.map_cons, smallLetter_of_isSeparator apart]
              exact List.mem_append_right _ List.mem_cons_self)
            exact absurd apart (Bool.eq_false_iff.mp behind)

/-- Dropping an extension does not reach into a closed text. -/
theorem IsClosed.dropExtension_append {extensions : List Text} (closed : IsClosed front)
    (known : extensions.Perm videoFileExtensions) (apart : isTagBoundary rest.head? = true) :
    ∃ left, Leaves rest left ∧ dropExtension extensions (front ++ rest) = front ++ left := by
  unfold dropExtension
  cases found : extensions.find? (hasExtension (front ++ rest)) with
  | none => exact ⟨rest, .refl rest, rfl⟩
  | some e =>
      have listed := known.mem_iff.mp (List.mem_of_find?_eq_some found)
      have ends := (hasExtension_iff.mp (List.find?_some found)).1
      by_cases nonempty : rest = []
      · rw [nonempty, List.append_nil] at ends
        exact absurd ends (closed.no_extension e listed)
      · obtain ⟨kept', split⟩ := isSuffix_of_isSuffix_append listed apart nonempty ends
        obtain ⟨kept, dropped, rfl, -, rfl⟩ := List.map_eq_append_iff.mp split.symm
        refine ⟨kept, .of_append ?_, ?_⟩
        · have dot : ∀ e ∈ videoFileExtensions, e.head?.any isDecimal = false := by decide
          have other := dot _ listed
          cases dropped with
          | nil => rfl
          | cons c dropped =>
              refine Bool.eq_false_iff.mpr fun digit => ?_
              rw [List.map_cons, List.head?_cons, smallLetter_of_isDecimal digit] at other
              exact absurd digit (Bool.eq_false_iff.mp other)
        · show (front ++ (kept ++ dropped)).take ((front ++ (kept ++ dropped)).length - _) = _
          rw [List.length_map, ← List.append_assoc, List.length_append, Nat.add_sub_cancel,
            List.take_left]

/-! ## Counters -/

/-- Before a counter stands a low line with digits behind it. -/
theorem beforeCounter?_eq_some {reversed kept : Text} (h : beforeCounter? reversed = some kept) :
    ∃ digits, reversed = digits ++ '_' :: kept ∧ ∀ d ∈ digits, isDecimal d = true := by
  unfold beforeCounter? at h
  split at h
  · next digit behind split =>
      split at h
      · obtain rfl := Option.some.inj h
        refine ⟨reversed.takeWhile isDecimal, ?_, List.all_eq_true.mp List.all_takeWhile⟩
        rw [← split, List.takeWhile_append_dropWhile]
      · cases h
  · cases h

/-- A name keeps its end, or a low line and digits are dropped there, before a line feed or not. -/
theorem dropCounter_cases (name : Text) :
    dropCounter name = name ∨
      ∃ kept digits line, name = kept ++ '_' :: (digits ++ line) ∧
        (∀ d ∈ digits, isDecimal d = true) ∧ (line = [] ∨ line = ['\n']) ∧
        dropCounter name = kept ++ line := by
  unfold dropCounter
  split
  · next reversed feed =>
      have whole : name = reversed.reverse ++ ['\n'] := by
        rw [← List.reverse_cons, ← feed, List.reverse_reverse]
      split
      · next kept found =>
          obtain ⟨digits, rfl, decimal⟩ := beforeCounter?_eq_some found
          refine .inr ⟨kept.reverse, digits.reverse, ['\n'], ?_, ?_, .inr rfl, ?_⟩
          · rw [whole]
            simp
          · exact fun d hd => decimal d (List.mem_reverse.mp hd)
          · rw [List.reverse_cons]
      · exact .inl rfl
  · cases found : beforeCounter? name.reverse with
    | none =>
        left
        rw [Option.getD_none, List.reverse_reverse]
    | some kept =>
        obtain ⟨digits, split, decimal⟩ := beforeCounter?_eq_some found
        refine .inr ⟨kept.reverse, digits.reverse, [], ?_, ?_, .inl rfl, ?_⟩
        · rw [← List.reverse_reverse name, split]
          simp
        · exact fun d hd => decimal d (List.mem_reverse.mp hd)
        · rw [Option.getD_some, List.append_nil]

/-- A closed text has no counter, a line feed behind it or not. -/
theorem IsClosed.ne_counter (closed : IsClosed front) {kept digits line : Text}
    (decimal : ∀ d ∈ digits, isDecimal d = true) (feed : line = [] ∨ line = ['\n']) :
    front ≠ kept ++ '_' :: (digits ++ line) := by
  intro split
  rcases feed with rfl | rfl
  · rw [List.append_nil] at split
    obtain ⟨c, hc, other⟩ := closed.no_counter kept digits split
    rw [decimal c hc] at other
    cases other
  · have last : front.getLast? = some '\n' := by
      rw [split, ← List.cons_append, ← List.append_assoc, List.getLast?_concat]
    have blank := closed.ends.2 '\n' last
    revert blank
    decide

theorem IsClosed.dropCounter_eq (closed : IsClosed front) : dropCounter front = front := by
  rcases dropCounter_cases front with same | ⟨kept, digits, line, split, decimal, feed, -⟩
  · exact same
  · exact absurd split (closed.ne_counter decimal feed)

/-- A counter behind a closed text stands wholly behind it. -/
theorem IsClosed.counter_behind (closed : IsClosed front) (apart : isTagBoundary rest.head? = true)
    {kept digits line : Text} (decimal : ∀ d ∈ digits, isDecimal d = true)
    (feed : line = [] ∨ line = ['\n']) (split : front ++ rest = kept ++ '_' :: (digits ++ line)) :
    ∃ more, kept = front ++ more ∧ rest = more ++ '_' :: (digits ++ line) := by
  rcases List.append_eq_append_iff.mp split with ⟨more, rfl, split'⟩ | ⟨passed, rfl, split'⟩
  · exact ⟨more, rfl, split'⟩
  · cases passed with
    | nil => exact ⟨[], by rw [List.append_nil, List.append_nil], split'.symm⟩
    | cons low passed =>
        -- The low line stands in the closed text, so digits behind it would end it.
        obtain ⟨rfl, split''⟩ := List.cons.inj split'
        rcases List.append_eq_append_iff.mp split'' with ⟨x, rfl, feed'⟩ | ⟨x, rfl, rfl⟩
        · refine absurd rfl (closed.ne_counter decimal ?_)
          rcases feed with rfl | rfl
          · exact .inl (List.append_eq_nil_iff.mp feed'.symm).1
          · exact (List.append_eq_singleton_iff.mp feed'.symm).imp And.left And.left
        · cases x with
          | nil =>
              obtain ⟨c, hc, other⟩ := closed.no_counter kept passed rfl
              rw [decimal c (List.mem_append_left _ hc)] at other
              cases other
          | cons d x =>
              have solid := isSeparator_eq_false_of_isDecimal (decimal d (by simp))
              exact absurd apart (Bool.eq_false_iff.mp solid)

/-- Dropping a counter does not reach into a closed text. -/
theorem IsClosed.dropCounter_append (closed : IsClosed front)
    (apart : isTagBoundary rest.head? = true) :
    ∃ left, Leaves rest left ∧ dropCounter (front ++ rest) = front ++ left := by
  rcases dropCounter_cases (front ++ rest) with same | ⟨kept, digits, line, split, decimal, feed, eq⟩
  · exact ⟨rest, .refl rest, same⟩
  · obtain ⟨more, rfl, rfl⟩ := closed.counter_behind apart decimal feed split
    have lines : ∀ c ∈ line, c = '\n' := by
      rcases feed with rfl | rfl
      · exact fun c hc => absurd hc List.not_mem_nil
      · exact fun c hc => List.mem_singleton.mp hc
    have low : isDecimal '_' = false := by decide
    refine ⟨more ++ line, ⟨more, _, line, rfl, rfl, low, lines⟩, ?_⟩
    rw [eq, List.append_assoc]

/-! ## What makes a text closed -/

/-- A text is closed if its end has no low line and something that is no digit. -/
theorem isClosed_append {x y : Text} (start : ∀ c ∈ x.head?, isBlank c = false) (x_ne_nil : x ≠ [])
    (stop : ∀ c ∈ y.getLast?, isBlank c = false) (solid : ∃ c ∈ y, isDecimal c = false)
    (low : '_' ∉ y) (extension : ∀ e ∈ videoFileExtensions, ¬ e <:+ (x ++ y).map smallLetter) :
    IsClosed (x ++ y) := by
  obtain ⟨c, hc, other⟩ := solid
  refine ⟨List.append_ne_nil_of_left_ne_nil x_ne_nil y, ⟨?_, ?_⟩, extension, ?_⟩
  · rwa [List.head?_append_of_ne_nil _ x_ne_nil]
  · rwa [List.getLast?_append_of_ne_nil _ (List.ne_nil_of_mem hc)]
  · intro kept digits split
    rcases List.append_eq_append_iff.mp split with ⟨s, rfl, rfl⟩ | ⟨s, rfl, split'⟩
    · exact absurd (by simp) low
    · cases s with
      | nil =>
          rw [List.nil_append] at split'
          rw [← split'] at low
          exact absurd List.mem_cons_self low
      | cons d s =>
          rw [(List.cons.inj split').2]
          exact ⟨c, List.mem_append_right _ hc, other⟩

/-- A quality tag has a character that is no digit, and no low line, and with a dot before it
ends in no extension. -/
theorem qualityForms_spec : ∀ form ∈ qualityForms.flatten, form.all isDecimal = false ∧
    '_' ∉ form ∧ ∀ e ∈ videoFileExtensions, ¬ e.map tagForm <:+ '.' :: form := by
  decide +kernel

section Tag

variable {tag : Text} {gap : Char}

theorem mem_qualityForms (quality : isQualityTag tag = true) :
    tag.map tagForm ∈ qualityForms.flatten :=
  hasForms_qualityTag.mem_forms tag (Reader.readsAll_iff.mp quality)

theorem reads_of_isQualityTag (quality : isQualityTag tag = true) : technicalTag.Reads tag :=
  Reader.reads_choice.mpr ⟨qualityTag, List.mem_cons_self, Reader.readsAll_iff.mp quality⟩

theorem exists_solid_of_isQualityTag (quality : isQualityTag tag = true) :
    ∃ c ∈ tag, isDecimal c = false := by
  have form := (qualityForms_spec _ (mem_qualityForms quality)).1
  obtain ⟨c, hc, other⟩ := List.all_eq_false.mp form
  obtain ⟨d, hd, rfl⟩ := List.mem_map.mp hc
  rw [isDecimal_tagForm] at other
  exact ⟨d, hd, Bool.eq_false_iff.mpr other⟩

/-- No extension reaches over the separator before a quality tag, and none is in the tag. -/
theorem no_extension_of_isQualityTag (quality : isQualityTag tag = true)
    (separator : isSeparator gap = true) (x : Text) :
    ∀ e ∈ videoFileExtensions, ¬ e <:+ (x ++ gap :: tag).map smallLetter := by
  intro e he ends
  have none := (qualityForms_spec _ (mem_qualityForms quality)).2.2 e he
  have small : tag.map (tagForm ∘ smallLetter) = tag.map tagForm :=
    List.map_congr_left fun c _ => tagForm_smallLetter c
  have apart : isTagBoundary (gap :: tag).head? = true := separator
  have inside := (isSuffix_of_isSuffix_append he apart (List.cons_ne_nil gap tag) ends).map tagForm
  rw [List.map_map, List.map_cons, small, List.suffix_cons_iff] at inside
  rcases inside with whole | inside
  · have dot : ∀ e ∈ videoFileExtensions, (e.map tagForm).head? = some '.' := by decide
    have first := dot e he
    rw [whole, List.head?_cons, Option.some.injEq] at first
    rw [whole, first] at none
    exact none List.suffix_rfl
  · exact none (inside.trans (List.suffix_cons _ _))

theorem isClosed_tag {x : Text} (quality : isQualityTag tag = true)
    (separator : isSeparator gap = true) (start : ∀ c ∈ x.head?, isBlank c = false)
    (nonempty : x ≠ []) : IsClosed (x ++ gap :: tag) := by
  have split : x ++ gap :: tag = (x ++ [gap]) ++ tag := by simp
  have extension := no_extension_of_isQualityTag quality separator x
  rw [split] at extension ⊢
  refine isClosed_append ?_ (List.append_ne_nil_of_left_ne_nil nonempty _) ?_
    (exists_solid_of_isQualityTag quality) ?_ extension
  · rwa [List.head?_append_of_ne_nil _ nonempty]
  · intro c hc
    refine Bool.eq_false_iff.mpr fun blank => ?_
    obtain ⟨front, rfl⟩ : ∃ front, tag = front ++ [c] := List.getLast?_eq_some_iff.mp hc
    have separator : isSeparator c = true := isSeparator_of_isBlank blank
    obtain ⟨d, rest, none, -⟩ := behind_separator_of_reads (reads_of_isQualityTag quality) separator
    cases none
  · intro low
    have member := List.mem_map_of_mem (f := tagForm) low
    have same : tagForm '_' = '_' := by decide
    rw [same] at member
    exact (qualityForms_spec _ (mem_qualityForms quality)).2.1 member

end Tag

/-! ## The prepared name -/

/-- What the endings of a file name leave of a name behind a closed text. -/
theorem IsClosed.exists_leaves {extensions : List Text} (closed : IsClosed front)
    (known : extensions.Perm videoFileExtensions) (apart : isTagBoundary rest.head? = true) :
    ∃ left, Leaves rest left ∧
      dropCounter (dropExtension extensions (Text.trimBlank (front ++ rest))) = front ++ left := by
  have trimmed := leaves_rdropWhile rest
  obtain ⟨left, bare, extension⟩ := closed.dropExtension_append known (trimmed.isTagBoundary apart)
  have left_trimmed := trimmed.trans bare
  obtain ⟨left', single, counter⟩ := closed.dropCounter_append (left_trimmed.isTagBoundary apart)
  refine ⟨left', left_trimmed.trans single, ?_⟩
  rw [closed.trimBlank_append, extension, counter]

/-- A name with no square brackets behind a closed text is cut behind the text and keeps only the
groups that are no notes. -/
theorem IsClosed.prepare_append {parser : Parser} (closed : IsClosed front)
    (known : parser.extensions.Perm videoFileExtensions) (apart : isTagBoundary rest.head? = true)
    (square : '[' ∉ front ++ rest) :
    ∃ left, Leaves rest left ∧ parser.prepare (front ++ rest) = ⟨none, dropGroups (front ++ left)⟩ := by
  obtain ⟨left, leaves, cut⟩ := closed.exists_leaves known apart
  refine ⟨left, leaves, ?_⟩
  have square' : '[' ∉ front ++ left := by
    rw [List.mem_append, not_or] at square ⊢
    refine ⟨square.1, fun member => ?_⟩
    rcases leaves.mem member with old | feed
    · exact square.2 old
    · cases feed
  unfold Parser.prepare
  rw [cut, studioAndRest_eq_self square']

end ReleaseCatalog.Release
