import ReleaseCatalog.Proofs.Release.FileEndings
import ReleaseCatalog.Proofs.Release.Recognition

/-!
# Where the characters of a reading come from

Each step of reading a name cuts it, or puts spaces in: cleaning draws a title and a
studio from the part they stand in (`drawnFrom_titleText`, `drawnFrom_studioText`), and
preparing draws the body from the name, behind the leading studio if there is one
(`drawnFrom_prepare`, `exists_opensWith_of_prepare`).

So nothing in a title is new.  In a scene, moreover, the studio, the digits of the date
and the title come from different places (`Parser.DrawnApart`): the title follows the date,
or stands around it if the studio is written in brackets ahead of both.
-/

namespace ReleaseCatalog.Release

open Text (DrawnFrom solid)
open Unicode (isBlank isDecimal)

/-! ## Cleaning -/

theorem drawnFrom_blankStray (t : Text) : DrawnFrom (blankStray t) t := by
  refine Text.drawnFrom_map (fun c => ?_) t
  split
  · exact .inr (by decide)
  · exact .inl rfl

theorem beforeTail_isPrefix (t : Text) : beforeTail t <+: t := by
  unfold beforeTail
  split
  · next o found => exact Finder.before_isPrefix (List.mem_of_find?_eq_some found)
  · exact List.prefix_rfl

/-- A title is drawn from the text it is read in. -/
theorem drawnFrom_titleText (t : Text) : DrawnFrom (titleText t) t := by
  have line : DrawnFrom (Text.spacedWords (beforeTail (blankStray t))) t :=
    (Text.drawnFrom_collapse _).trans
      ((Text.drawnFrom_of_sublist (beforeTail_isPrefix _).sublist).trans (drawnFrom_blankStray t))
  have unmarked : ∀ line, DrawnFrom (blankMarkers line) line :=
    Finder.drawnFrom_replaceAll _ fun _ _ => Text.drawnFrom_space _
  exact (Text.drawnFrom_trim _ _).trans
    ((Text.drawnFrom_collapse _).trans ((unmarked _).trans line))

/-- A studio is drawn from the text it is read in. -/
theorem drawnFrom_studioText (t : Text) : DrawnFrom (studioText t) t :=
  (Text.drawnFrom_trim _ _).trans ((Text.drawnFrom_trim _ _).trans
    ((Text.drawnFrom_collapse _).trans (drawnFrom_blankStray t)))

/-- Groups of notes are replaced by spaces, and the others stay. -/
theorem drawnFrom_dropGroups (name : Text) : DrawnFrom (dropGroups name) name := by
  have square : ∀ t, DrawnFrom ((groupFinder '[' ']').replaceAll
      (fun group content => if isYearOnly content then group else [' ']) t) t := by
    refine Finder.drawnFrom_replaceAll _ fun group content => ?_
    split
    · exact .refl group
    · exact Text.drawnFrom_space group
  have curly : ∀ t, DrawnFrom ((groupFinder '\x7b' '\x7d').replaceAll (fun _ _ => [' ']) t) t :=
    Finder.drawnFrom_replaceAll _ fun group _ => Text.drawnFrom_space group
  have round : ∀ t, DrawnFrom ((groupFinder '(' ')').replaceAll
      (fun group content => if isTagList content then [' '] else group) t) t := by
    refine Finder.drawnFrom_replaceAll _ fun group content => ?_
    split
    · exact Text.drawnFrom_space group
    · exact .refl group
  exact (round _).trans ((curly _).trans (square name))

/-! ## The endings of a file name -/

theorem dropExtension_isPrefix (extensions : List Text) (name : Text) :
    dropExtension extensions name <+: name := by
  unfold dropExtension
  split
  · exact List.take_prefix ..
  · exact List.prefix_rfl

/-- The endings of a file name leave a beginning of the name, blanks before it apart, and perhaps
a line feed. -/
theorem exists_split_of_endings (extensions : List Text) (raw : Text) :
    ∃ front kept behind lines, raw = front ++ kept ++ behind ∧
      dropCounter (dropExtension extensions (Text.trimBlank raw)) = kept ++ lines ∧
      (∀ c ∈ front, isBlank c = true) ∧ ∀ c ∈ lines, c = '\n' := by
  obtain ⟨front, back, trimmed, blank, -⟩ := Text.exists_trim_split isBlank raw
  obtain ⟨extension, bare⟩ := dropExtension_isPrefix extensions (Text.trimBlank raw)
  rw [← Text.trimBlank, ← bare] at trimmed
  rcases dropCounter_cases (dropExtension extensions (Text.trimBlank raw)) with
    same | ⟨kept, digits, line, counted, -, feed, eq⟩
  · refine ⟨front, dropExtension extensions (Text.trimBlank raw), extension ++ back, [], ?_, ?_,
      blank, fun c hc => absurd hc List.not_mem_nil⟩
    · simpa using trimmed
    · rw [same, List.append_nil]
  · refine ⟨front, kept, '_' :: (digits ++ line) ++ (extension ++ back), line, ?_, eq, blank,
      fun c hc => ?_⟩
    · rw [counted] at trimmed
      simpa using trimmed
    · rcases feed with rfl | rfl
      · cases hc
      · exact List.mem_singleton.mp hc

/-! ## The prepared name -/

section Prepared

variable {parser : Parser} {raw name studio body behind kept lines : Text} {studio? : Option Text}

/-- The studio and what is drawn from behind it are drawn from the name. -/
theorem OpensWith.drawnFrom (opens : OpensWith raw studio behind) (h : DrawnFrom body behind) :
    DrawnFrom (studio ++ body) raw := by
  obtain ⟨front, content, rfl, -, -, -, rfl⟩ := opens
  have bracket : ∀ {s t : Text} (c : Char), DrawnFrom s t → DrawnFrom s (c :: t) :=
    fun c h => h.trans (Text.drawnFrom_of_sublist (List.sublist_cons_self c _))
  have inside : DrawnFrom (Text.spacedWords content ++ body) (content ++ ']' :: behind) :=
    (Text.drawnFrom_collapse content).append (bracket ']' h)
  exact (bracket '[' inside).trans (Text.drawnFrom_of_sublist (List.sublist_append_right ..))

/-- The group at the front of a name does not reach into line feeds at its end. -/
theorem OpensWith.of_append (opens : OpensWith (kept ++ lines) studio behind)
    (feeds : ∀ c ∈ lines, c = '\n') :
    ∃ behind', OpensWith kept studio behind' ∧ behind = behind' ++ lines := by
  obtain ⟨front, content, split, blank, ho, hc, rfl⟩ := opens
  have whole : front ++ '[' :: (content ++ ']' :: behind) =
      (front ++ '[' :: (content ++ [']'])) ++ behind := by simp
  rw [whole] at split
  have here : ∀ rest, OpensWith (front ++ '[' :: (content ++ [']']) ++ rest)
      (Text.spacedWords content) rest :=
    fun rest => ⟨front, content, by simp, blank, ho, hc, rfl⟩
  rcases List.append_eq_append_iff.mp split with ⟨x, group, rfl⟩ | ⟨x, rfl, behind⟩
  · cases x using List.reverseRecOn with
    | nil =>
        rw [List.append_nil] at group
        exact ⟨[], by simpa [group] using here [], rfl⟩
    | append_singleton x c =>
        -- The last character of the group is its closing bracket and no line feed.
        have last := congrArg List.getLast? group
        rw [← List.cons_append, ← List.append_assoc, List.getLast?_concat, ← List.append_assoc,
          List.getLast?_concat, feeds c (by simp)] at last
        cases last
  · exact ⟨x, here x, behind⟩

/-- Blanks before a name and what follows it do not matter. -/
theorem OpensWith.append (opens : OpensWith name studio behind) {front : Text}
    (blank : ∀ c ∈ front, isBlank c = true) (rest : Text) :
    OpensWith (front ++ name ++ rest) studio (behind ++ rest) := by
  obtain ⟨front', content, rfl, blank', ho, hc, rfl⟩ := opens
  refine ⟨front ++ front', content, by simp, fun c hc' => ?_, ho, hc, rfl⟩
  cases List.mem_append.mp hc' with
  | inl before => exact blank c before
  | inr after => exact blank' c after

theorem drawnFrom_lines (feeds : ∀ c ∈ lines, c = '\n') (t : Text) : DrawnFrom lines t :=
  Text.drawnFrom_of_isBlank fun c hc => by rw [feeds c hc]; decide

/-- A studio that is set apart is written in brackets ahead of the body. -/
theorem exists_opensWith_of_prepare (h : parser.prepare raw = ⟨some studio, body⟩) :
    ∃ behind, OpensWith raw studio behind ∧ DrawnFrom body behind := by
  obtain ⟨front, kept, more, lines, split, left, blank, feeds⟩ :=
    exists_split_of_endings parser.extensions raw
  obtain ⟨rest, leading, rfl⟩ := Parser.exists_rest_of_prepare h
  rw [left] at leading
  obtain ⟨-, _, opens, part⟩ := exists_opensWith_of_studioAndRest leading
  obtain ⟨behind, opens', rfl⟩ := opens.of_append feeds
  refine ⟨behind ++ more, ?_, ?_⟩
  · rw [split]
    exact opens'.append blank more
  · have behind_lines : DrawnFrom (behind ++ lines) (behind ++ more) :=
      (DrawnFrom.refl behind).append (drawnFrom_lines feeds more)
    exact (drawnFrom_dropGroups rest).trans
      ((Text.drawnFrom_of_sublist part.sublist).trans behind_lines)

theorem eq_of_studioAndRest_none {rest : Text} (h : studioAndRest name = (none, rest)) :
    rest = name := by
  unfold studioAndRest at h
  split at h
  · split at h
    · exact (Prod.mk.inj h).2.symm
    · cases h
  · exact (Prod.mk.inj h).2.symm

/-- The studio and the body of a prepared name are drawn from the name. -/
theorem drawnFrom_prepare (h : parser.prepare raw = ⟨studio?, body⟩) :
    DrawnFrom (studio?.getD [] ++ body) raw := by
  cases studio? with
  | some studio =>
      obtain ⟨behind, opens, drawn⟩ := exists_opensWith_of_prepare h
      exact opens.drawnFrom drawn
  | none =>
      obtain ⟨front, kept, more, lines, split, left, -, feeds⟩ :=
        exists_split_of_endings parser.extensions raw
      obtain ⟨rest, leading, rfl⟩ := Parser.exists_rest_of_prepare h
      rw [left] at leading
      obtain rfl := eq_of_studioAndRest_none leading
      have kept_lines : DrawnFrom (kept ++ lines) (kept ++ more) :=
        (DrawnFrom.refl kept).append (drawnFrom_lines feeds more)
      rw [split, List.append_assoc]
      exact (drawnFrom_dropGroups _).trans
        (kept_lines.trans (Text.drawnFrom_of_sublist (List.sublist_append_right ..)))

end Prepared

/-! ## The reading -/

/-- Decimal digits are solid. -/
theorem filter_isDecimal_sublist_solid (t : Text) : (t.filter isDecimal).Sublist (solid t) := by
  refine List.monotone_filter_right t fun c digit => ?_
  rw [Unicode.isBlank_eq_false_of_isDecimal digit]
  rfl

section Reading

variable {parser : Parser} {raw studio before fragment after a b : Text}

/-- A studio, parts around a date, and the digits of the date stand in a name in this order. -/
theorem sublist_of_drawnFrom (h : DrawnFrom (studio ++ (before ++ fragment ++ after)) raw)
    (hb : b.Sublist (solid before)) (ha : a.Sublist (solid after)) :
    (solid studio ++ b ++ fragment.filter isDecimal ++ a).Sublist raw := by
  refine List.Sublist.trans ?_ h.solid_sublist
  rw [Text.solid_append, Text.solid_append, Text.solid_append, List.append_assoc, List.append_assoc,
    List.append_assoc (solid before)]
  exact (List.Sublist.refl _).append
    (hb.append ((filter_isDecimal_sublist_solid fragment).append ha))

/-- The studio, the digits of the date and the title of a scene stand apart in the name: the title
after the date, but for a part `b` before it, which there is only behind a studio in brackets. -/
def Parser.DrawnApart (parser : Parser) (raw : Text) (studio : Option Text) (date title : Text) :
    Prop :=
  ∃ b a fragment, solid title = b ++ a ∧
    (b ≠ [] → ∃ name behind, studio = some name ∧ OpensWith raw name behind) ∧
    parser.Dates fragment date ∧
    (solid (studio.getD []) ++ b ++ fragment.filter isDecimal ++ a).Sublist raw

theorem Parser.DrawnApart.solid_sublist {studio : Option Text} {date title : Text}
    (h : parser.DrawnApart raw studio date title) : (solid title).Sublist raw := by
  obtain ⟨b, a, fragment, split, -, -, whole⟩ := h
  rw [split]
  refine List.Sublist.trans (List.Sublist.append ?_ (List.Sublist.refl a)) whole
  rw [List.append_assoc]
  exact (List.sublist_append_left ..).trans (List.sublist_append_right ..)

/-- A title behind the date is drawn apart from a studio before it. -/
theorem drawnApart_behind {studio : Option Text} {date : Text} (dates : parser.Dates fragment date)
    (body : DrawnFrom (before ++ fragment ++ after) raw)
    (front : DrawnFrom (studio.getD []) before) :
    parser.DrawnApart raw studio date (titleText after) := by
  have whole : DrawnFrom (studio.getD [] ++ ([] ++ fragment ++ after)) raw := by
    refine .trans ?_ body
    rw [List.nil_append, List.append_assoc]
    exact front.append (.refl _)
  exact ⟨[], solid (titleText after), fragment, (List.nil_append _).symm,
    fun nonempty => absurd rfl nonempty, dates,
    sublist_of_drawnFrom whole (List.nil_sublist _) (drawnFrom_titleText after)⟩

theorem Parser.Reads.drawnApart {studio : Option Text} {date title : Text}
    (reads : parser.Reads raw (.scene studio date title)) :
    parser.DrawnApart raw studio date title := by
  cases reads with
  | @bracketed studio before fragment after _ prepared dates =>
      obtain ⟨behind, opens, -⟩ := exists_opensWith_of_prepare prepared
      have around := drawnFrom_titleText (before ++ [' '] ++ after)
      rw [List.append_assoc] at around
      obtain ⟨b, a, split, hb, ha⟩ := around.exists_append
      rw [Text.solid_append, Text.solid_space, List.nil_append] at ha
      refine ⟨b, a, fragment, ?_, fun _ => ⟨studio, behind, rfl, opens⟩, dates,
        sublist_of_drawnFrom (drawnFrom_prepare prepared) hb ha⟩
      rw [List.append_assoc]
      exact split
  | leading prepared named dates =>
      exact drawnApart_behind dates (drawnFrom_prepare prepared) (drawnFrom_studioText _)
  | unnamed prepared empty dates =>
      exact drawnApart_behind dates (drawnFrom_prepare prepared)
        (Text.drawnFrom_of_sublist (List.nil_sublist _))

theorem drawnFrom_wholeTitle (body : DrawnFrom after raw) :
    DrawnFrom (Parser.wholeTitle raw after) raw := by
  simp only [Parser.wholeTitle]
  split
  · exact (drawnFrom_titleText after).trans body
  · split
    · exact Text.drawnFrom_collapse raw
    · exact Text.drawnFrom_trim _ raw

/-- Every title is drawn from the name. -/
theorem Parser.Reads.solid_title_sublist {r : Recognition} (reads : parser.Reads raw r) :
    (solid r.title).Sublist raw := by
  have prepared : parser.prepare raw =
      ⟨(parser.prepare raw).bracketStudio, (parser.prepare raw).body⟩ := rfl
  have body : DrawnFrom (parser.prepare raw).body raw :=
    (Text.drawnFrom_of_sublist (List.sublist_append_right ..)).trans (drawnFrom_prepare prepared)
  cases reads with
  | bracketed prepared dates =>
      rw [Recognition.title]
      exact (Parser.Reads.bracketed prepared dates).drawnApart.solid_sublist
  | leading prepared named dates =>
      rw [Recognition.title]
      exact (Parser.Reads.leading prepared named dates).drawnApart.solid_sublist
  | unnamed prepared empty dates =>
      rw [Recognition.title]
      exact (Parser.Reads.unnamed prepared empty dates).drawnApart.solid_sublist
  | film found =>
      obtain ⟨-, -, part, inside, same⟩ := of_film?_eq_some found
      have head := inside.sublist.trans (beforeTail_isPrefix _).sublist
      rw [Recognition.title, same]
      exact ((drawnFrom_titleText part).trans
        ((Text.drawnFrom_of_sublist head).trans body)).solid_sublist
  | malformedDate | plain =>
      rw [Recognition.title]
      exact (drawnFrom_wholeTitle body).solid_sublist

end Reading

/-- The solid characters of a title stand in the name in the same order.  In a scene the studio, the
digits of the date and the title stand apart there. -/
theorem Parser.parse_drawnFrom_raw (parser : Parser) (detection : Detection) (raw : Text) :
    (solid (parser.parse detection raw).title).Sublist raw ∧
    ((parser.parse detection raw).isScene = true →
      ∃ date, (parser.parse detection raw).releaseDate = some date ∧
        parser.DrawnApart raw (parser.parse detection raw).studioTitle date
          (parser.parse detection raw).title) := by
  have reads := parser.reads_recognise raw
  unfold parse
  constructor
  · rw [Recognition.title_toReading]
    exact reads.solid_title_sublist
  · intro scene
    cases found : parser.recognise raw with
    | scene studio date title =>
        rw [found] at reads
        exact ⟨date, rfl, reads.drawnApart⟩
    | film | malformedDate | plain =>
        rw [found] at scene
        cases scene

/-- The title of this scene stands around its date, behind a studio in brackets. -/
theorem Parser.parse_title_around_date :
    let raw := "[Studio] Quinn (Night / 08.01.2021) [1080p]".toList
    (({} : Parser).parse .off raw).isScene = true ∧
      ∃ date, (({} : Parser).parse .off raw).releaseDate = some date ∧
        ({} : Parser).DrawnApart raw (({} : Parser).parse .off raw).studioTitle date
          (({} : Parser).parse .off raw).title := by
  intro raw
  have scene : (({} : Parser).parse .off raw).isScene = true := by decide +kernel
  exact ⟨scene, (Parser.parse_drawnFrom_raw {} .off raw).2 scene⟩

end ReleaseCatalog.Release
