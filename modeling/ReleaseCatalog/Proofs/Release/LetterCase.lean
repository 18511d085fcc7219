import ReleaseCatalog.Proofs.Release.DateFragment
import ReleaseCatalog.Proofs.Text.Joining
import ReleaseCatalog.Proofs.Unicode.SmallLetters
import ReleaseCatalog.Release.Parser

/-!
# Names in small letters

Every step of the reading of a name follows the making small of its letters:
applied to the name in small letters, it gives what it gives for the name, in
small letters.  For the readers of tags and markers this is so since they compare
letters without case, and for all else since no class of characters that a step
asks for tells a capital from its small letter.  `Parser.recognise_toLower` puts
the steps together.
-/

namespace ReleaseCatalog.Release

open Unicode (isBlank isDecimal)

/-! ## Endings of file names -/

theorem trimBlank_toLower (t : Text) :
    Text.trimBlank (t.map Char.toLower) = (Text.trimBlank t).map Char.toLower :=
  Text.trim_map keeps_isBlank t

theorem hasExtension_toLower (name extension : Text) :
    hasExtension (name.map Char.toLower) extension = hasExtension name extension := by
  have small : (name.map Char.toLower).map smallLetter = name.map smallLetter := by
    rw [List.map_map]
    exact List.map_congr_left fun c _ => smallLetter_toLower c
  unfold hasExtension
  rw [small, List.length_map]

theorem dropExtension_toLower (extensions : List Text) (name : Text) :
    dropExtension extensions (name.map Char.toLower) =
      (dropExtension extensions name).map Char.toLower := by
  unfold dropExtension
  rw [funext (hasExtension_toLower name)]
  cases extensions.find? (hasExtension name) with
  | none => rfl
  | some extension => rw [List.length_map, List.map_take]

theorem beforeCounter?_toLower (reversed : Text) :
    beforeCounter? (reversed.map Char.toLower) =
      (beforeCounter? reversed).map (List.map Char.toLower) := by
  have low : Fixes Char.toLower '_' := fixes_toLower (by decide)
  unfold beforeCounter?
  rw [Text.dropWhile_map keeps_isDecimal, List.head?_map, any_map keeps_isDecimal]
  cases reversed.dropWhile isDecimal with
  | nil => rfl
  | cons c rest =>
      cases rest with
      | nil =>
          rw [List.map_singleton]
          split
          · next h => exact absurd (congrArg List.length h) (by simp)
          · split
            · next h => exact absurd (congrArg List.length h) (by simp)
            · rfl
      | cons digit rest =>
          by_cases isLow : c = '_'
          · rw [isLow, List.map_cons, List.map_cons, low.eq]
            simp only [keeps_isDecimal digit]
            split
            · rfl
            · rfl
          · rw [List.map_cons, List.map_cons]
            split
            · next h => exact absurd ((low c).mp (List.cons.inj h).1) isLow
            · split
              · next h => exact absurd (List.cons.inj h).1 isLow
              · rfl

theorem dropCounter_toLower (name : Text) :
    dropCounter (name.map Char.toLower) = (dropCounter name).map Char.toLower := by
  have line : Fixes Char.toLower '\n' := fixes_toLower (by decide)
  unfold dropCounter
  rw [← List.map_reverse]
  cases name.reverse with
  | nil => rfl
  | cons c rest =>
      by_cases isLine : c = '\n'
      · subst isLine
        rw [List.map_cons, line.eq]
        simp only [beforeCounter?_toLower]
        cases beforeCounter? rest with
        | none => rfl
        | some kept => simp [line.eq]
      · rw [List.map_cons]
        split
        · next h => exact absurd ((line c).mp (List.cons.inj h).1) isLine
        · split
          · next h => exact absurd (List.cons.inj h).1 isLine
          · rw [← List.map_cons, beforeCounter?_toLower]
            cases beforeCounter? (c :: rest) with
            | none => simp
            | some kept => simp

/-! ## Tags -/

open Reader (Follows)

/-- Words are read without regard to case. -/
theorem follows_word (w : String) : Follows Char.toLower (Reader.word w) :=
  Reader.follows_word caselessLetter_toLower w

theorem follows_compound (first second : String) :
    Follows Char.toLower (compound first second) := by
  have gap : Keeps Char.toLower fun c => c == '-' || c == '.' || c == ' ' :=
    keeps_toLower (by decide)
  refine Follows.all ?_
  simp [Follows.optional, follows_word, Reader.follows_one gap]

theorem follows_qualityTag : Follows Char.toLower qualityTag := by
  have codec : Keeps Char.toLower fun c => c == '4' || c == '5' := keeps_toLower (by decide)
  have thousands : Keeps Char.toLower fun c => c == '2' || c == '4' || c == '5' || c == '8' :=
    keeps_toLower (by decide)
  have dot : Keeps Char.toLower (· == '.') := keeps_toLower (by decide)
  refine Follows.choice ?_
  simp [codecDigit, Follows.all, Follows.optional, follows_word, follows_compound,
    Reader.follows_between keeps_isDecimal, Reader.follows_one codec, Reader.follows_one thousands,
    Reader.follows_one dot]

theorem follows_technicalTag : Follows Char.toLower technicalTag := by
  have flag : Follows Char.toLower releaseFlag := Follows.choice (by simp [follows_word])
  exact Follows.choice (by simp [follows_qualityTag, flag])

theorem follows_boundedTag {tag : Reader} (h : Follows Char.toLower tag) :
    (boundedTag tag).Follows Char.toLower id :=
  Finder.follows_ofReader (all_map keeps_isSeparator)
    (h.seq (Reader.follows_before (all_map keeps_isSeparator)))

theorem isTechnicalTag_toLower (t : Text) : isTechnicalTag (t.map Char.toLower) = isTechnicalTag t :=
  follows_technicalTag.readsAll_map t

theorem isQualityTag_toLower (t : Text) : isQualityTag (t.map Char.toLower) = isQualityTag t :=
  follows_qualityTag.readsAll_map t

/-! ## Bracket groups -/

theorem follows_groupFinder (opening closing : Char) (ho : opening.isAlpha = false)
    (hc : closing.isAlpha = false) :
    (groupFinder opening closing).Follows Char.toLower (List.map Char.toLower) := by
  have inner : Keeps Char.toLower fun d => d != opening && d != closing := fun c =>
    congrArg₂ and ((fixes_toLower ho).keeps_bne c) ((fixes_toLower hc).keeps_bne c)
  intro previous t
  cases t with
  | nil => rfl
  | cons c rest =>
      simp only [List.map_cons, groupFinder, Text.takeWhile_map inner, List.length_map,
        ← List.map_drop, List.head?_map, (fixes_toLower hc).map_eq_some_iff, fixes_toLower ho c]
      split
      · rfl
      · rfl

theorem isYearOnly_toLower (t : Text) : isYearOnly (t.map Char.toLower) = isYearOnly t := by
  simp only [isYearOnly]
  rw [trimBlank_toLower, List.length_map, Text.all_map keeps_isDecimal]

theorem nameWords_toLower (t : Text) :
    Text.nameWords (t.map Char.toLower) = t.nameWords.map (List.map Char.toLower) :=
  Text.words_map keeps_isSeparator t

theorem isTagList_toLower (t : Text) : isTagList (t.map Char.toLower) = isTagList t := by
  have tags : isTechnicalTag ∘ List.map Char.toLower = isTechnicalTag :=
    funext isTechnicalTag_toLower
  simp only [isTagList, nameWords_toLower, List.all_map, tags, ne_eq, List.map_eq_nil_iff]

theorem dropGroups_toLower (name : Text) :
    dropGroups (name.map Char.toLower) = (dropGroups name).map Char.toLower := by
  have square := follows_groupFinder '[' ']' (by decide) (by decide)
  have curly := follows_groupFinder '\x7b' '\x7d' (by decide) (by decide)
  have round := follows_groupFinder '(' ')' (by decide) (by decide)
  simp only [dropGroups]
  rw [square.replaceAll_map, curly.replaceAll_map, round.replaceAll_map]
  · intro group content
    rw [isTagList_toLower]
    split
    · rfl
    · rfl
  · intro group content
    rfl
  · intro group content
    rw [isYearOnly_toLower]
    split
    · rfl
    · rfl

theorem singleLine?_toLower (t : Text) :
    singleLine? (t.map Char.toLower) = (singleLine? t).map (List.map Char.toLower) := by
  have line : Fixes Char.toLower '\n' := fixes_toLower (by decide)
  have keeps : Keeps Char.toLower fun c => decide (c ≠ '\n') := by
    intro c
    rw [Bool.eq_iff_iff, decide_eq_true_iff, decide_eq_true_iff, Ne, line c]
  have ends : ∀ rest : Text, (rest.map Char.toLower = [] ∨ rest.map Char.toLower = ['\n']) ↔
      (rest = [] ∨ rest = ['\n']) := by
    intro rest
    rw [List.map_eq_nil_iff, map_eq_iff_of_fixes fun d hd => List.mem_singleton.mp hd ▸ line]
  simp only [singleLine?, Text.takeWhile_map keeps, List.length_map, ← List.map_drop, ends]
  split
  · rfl
  · rfl

theorem spacedWords_toLower (t : Text) :
    Text.spacedWords (t.map Char.toLower) = (Text.spacedWords t).map Char.toLower :=
  Text.collapse_map keeps_isSeparator toLower_space t

theorem leadingGroup?_toLower (name : Text) :
    leadingGroup? (name.map Char.toLower) =
      (leadingGroup? name).map (Prod.map (List.map Char.toLower) (List.map Char.toLower)) := by
  have group := follows_groupFinder '[' ']' (by decide) (by decide)
  unfold leadingGroup?
  rw [Text.dropWhile_map keeps_isBlank]
  have found := group none (name.dropWhile isBlank)
  rw [Option.map_none] at found
  simp only [found]
  cases groupFinder '[' ']' none (name.dropWhile isBlank) with
  | none => rfl
  | some hit =>
      obtain ⟨content, length⟩ := hit
      simp only [Option.map_some, Option.bind_eq_bind, Option.bind_some]
      by_cases empty : content = []
      · simp [empty]
      · simp only [← List.map_drop, Text.dropWhile_map keeps_isBlank, singleLine?_toLower]
        cases singleLine? (((name.dropWhile isBlank).drop length).dropWhile isBlank) with
        | none => simp [empty]
        | some rest =>
            by_cases blank : rest = []
            · simp [blank]
            · simp [empty, blank, spacedWords_toLower]

theorem studioAndRest_toLower (name : Text) :
    studioAndRest (name.map Char.toLower) =
      Prod.map (Option.map (List.map Char.toLower)) (List.map Char.toLower)
        (studioAndRest name) := by
  unfold studioAndRest
  rw [leadingGroup?_toLower]
  cases leadingGroup? name with
  | none => rfl
  | some group =>
      obtain ⟨studio, rest⟩ := group
      simp only [Option.map_some, Prod.map_apply, List.map_eq_nil_iff, isTechnicalTag_toLower,
        isYearOnly_toLower]
      split
      · rfl
      · rfl

/-! ## Dates -/

/-- The characters of a date are no letters. -/
theorem DateShape.Spells.fixes {shape : DateShape} {fragment : Text} {fields : DateFields}
    (h : shape.Spells fragment fields) : ∀ d ∈ fragment, Fixes Char.toLower d := by
  have gaps : ∀ d ∈ DateShape.dateGaps, d.isAlpha = false := by decide
  intro d hd
  refine fixes_toLower ?_
  cases h.isDecimal_or_mem_dateGaps d hd with
  | inl digit => exact Unicode.isAlpha_eq_false_of_isDecimal digit
  | inr gap => exact gaps d gap

theorem DateShape.follows_finder (shape : DateShape) : shape.finder.Follows Char.toLower id := by
  intro previous t
  refine Option.ext fun found => ?_
  obtain ⟨fields, length⟩ := found
  rw [Option.map_eq_some_iff]
  constructor
  · intro h
    obtain ⟨behind, fragment, after, split, hlength, spells, ahead⟩ := finder_eq_some_iff.mp h
    obtain ⟨fragment', after', rfl, whole, rfl⟩ := List.map_eq_append_iff.mp split
    obtain rfl := (map_eq_iff_of_fixes spells.fixes).mp whole
    rw [any_map keeps_isDecimal] at behind
    rw [List.head?_map, any_map keeps_isDecimal] at ahead
    exact ⟨(fields, length), finder_eq_some_iff.mpr
      ⟨behind, fragment', after', rfl, hlength, spells, ahead⟩, rfl⟩
  · rintro ⟨⟨fields', length'⟩, h, same⟩
    cases same
    obtain ⟨behind, fragment, after, rfl, hlength, spells, ahead⟩ := finder_eq_some_iff.mp h
    refine finder_eq_some_iff.mpr ⟨?_, fragment, after.map Char.toLower, ?_, hlength, spells, ?_⟩
    · rwa [any_map keeps_isDecimal]
    · rw [List.map_append, (map_eq_iff_of_fixes spells.fixes).mpr rfl]
    · rwa [List.head?_map, any_map keeps_isDecimal]

theorem firstDate_toLower (styles : List DateStyle) (range : Calendar.YearRange) (t : Text) :
    firstDate styles range (t.map Char.toLower) = firstDate styles range t := by
  have fragments : ∀ style : DateStyle,
      style.fragments range (t.map Char.toLower) = style.fragments range t := by
    intro style
    unfold DateStyle.fragments
    rw [style.shape.follows_finder.occurrences_map, List.map_map]
    refine List.map_congr_left fun o _ => ?_
    simp [Occurrence.map]
  unfold firstDate DateStyle.find
  simp only [fragments]

/-! ## Titles and studios -/

theorem follows_markerFinder : markerFinder.Follows Char.toLower id := by
  have number : Follows Char.toLower anyNumber := Reader.follows_many1 keeps_isDecimal
  have gap : Follows Char.toLower blanks := Reader.follows_many keeps_isBlank
  have digits : ∀ lo hi, Follows Char.toLower (Reader.between isDecimal lo hi) :=
    Reader.follows_between keeps_isDecimal
  have edge : ∀ c : Option Char, isWordEdge (c.map Char.toLower) = isWordEdge c := fun c =>
    congrArg not (any_map keeps_isWordChar c)
  have colon : Follows Char.toLower (Reader.one fun c => c == ':') :=
    Reader.follows_one (keeps_toLower (by decide))
  have season : Follows Char.toLower seasonMarker :=
    Follows.all (by simp [follows_word, gap, digits])
  have episode : Follows Char.toLower episodeMarker :=
    Follows.all (by simp [Follows.choice, follows_word, gap, number])
  have volumeEpisode : Follows Char.toLower (Reader.all [blanks,
      Reader.choice [Reader.word "e", Reader.word "ep", Reader.word "episode"], blanks,
      anyNumber]) :=
    Follows.all (by simp [Follows.choice, follows_word, gap, number])
  have volume : Follows Char.toLower volumeMarker :=
    Follows.all (by simp [follows_word, Follows.optional, gap, number, volumeEpisode])
  refine Finder.follows_ofReader edge (Follows.all ?_)
  have marker : Follows Char.toLower
      (Reader.choice [volumeMarker, seasonMarker, episodeMarker]) :=
    Follows.choice (by simp [volume, season, episode])
  simp [marker, Reader.follows_before edge, Follows.optional, colon]

theorem beforeQualityTag_toLower (t : Text) :
    beforeQualityTag (t.map Char.toLower) = (beforeQualityTag t).map Char.toLower := by
  unfold beforeQualityTag Finder.first?
  rw [(follows_boundedTag follows_qualityTag).occurrences_map, List.head?_map]
  cases ((boundedTag qualityTag).occurrences t).head? with
  | none => rfl
  | some o => rfl

theorem isOnlyTags_toLower (t : Text) : isOnlyTags (t.map Char.toLower) = isOnlyTags t := by
  unfold isOnlyTags
  rw [(follows_boundedTag follows_technicalTag).replaceAll_map fun _ _ => rfl,
    Text.all_map keeps_isSeparator]

theorem startsTail_toLower (o : Occurrence Unit) :
    startsTail (o.map Char.toLower id) = startsTail o := by
  simp only [startsTail, Occurrence.map, isQualityTag_toLower, Text.all_map keeps_isSeparator,
    beforeQualityTag_toLower, isOnlyTags_toLower]

theorem beforeTail_toLower (t : Text) :
    beforeTail (t.map Char.toLower) = (beforeTail t).map Char.toLower := by
  have starts : startsTail ∘ Occurrence.map Char.toLower id = startsTail :=
    funext startsTail_toLower
  unfold beforeTail
  rw [(follows_boundedTag follows_technicalTag).occurrences_map, List.find?_map, starts]
  cases ((boundedTag technicalTag).occurrences t).find? startsTail with
  | none => rfl
  | some o => rfl

theorem blankStray_toLower (t : Text) :
    blankStray (t.map Char.toLower) = (blankStray t).map Char.toLower := by
  unfold blankStray
  rw [List.map_map, List.map_map]
  refine List.map_congr_left fun c _ => ?_
  simp only [Function.comp_apply, keeps_isStray c]
  split
  · rfl
  · rfl

theorem blankMarkers_toLower (t : Text) :
    blankMarkers (t.map Char.toLower) = (blankMarkers t).map Char.toLower :=
  follows_markerFinder.replaceAll_map (fun _ _ => rfl) t

theorem titleText_toLower (t : Text) :
    titleText (t.map Char.toLower) = (titleText t).map Char.toLower := by
  simp only [titleText]
  rw [blankStray_toLower, beforeTail_toLower, spacedWords_toLower, blankMarkers_toLower,
    Text.collapse_map keeps_isBlank toLower_space, Text.trim_map keeps_isTitleEdge]

theorem studioText_toLower (t : Text) :
    studioText (t.map Char.toLower) = (studioText t).map Char.toLower := by
  unfold studioText Title.trimPunctuation
  rw [blankStray_toLower, spacedWords_toLower, Text.trim_map keeps_isPunctuation,
    trimBlank_toLower]

/-! ## Films -/

theorem numeral_toLower (digits : Text) :
    Unicode.numeral (digits.map Char.toLower) = Unicode.numeral digits := by
  unfold Unicode.numeral
  rw [List.foldl_map]
  simp only [decimalValue_toLower]

theorem follows_bracketedYear : bracketedYear.Follows Char.toLower id := by
  have bracket : ∀ d ∈ ['(', '[', ')', ']'], Fixes Char.toLower d := by
    have letterless : ∀ d ∈ ['(', '[', ')', ']'], d.isAlpha = false := by decide
    exact fun d hd => fixes_toLower (letterless d hd)
  intro previous t
  cases t with
  | nil => rfl
  | cons opening inside =>
      simp only [List.map_cons, bracketedYear, Text.dropWhile_map keeps_isBlank, ← List.map_drop,
        ← List.map_take, List.length_map, Text.all_map keeps_isDecimal, numeral_toLower,
        List.head?_map, (bracket ')' (by decide)).map_eq_some_iff,
        (bracket ']' (by decide)).map_eq_some_iff, bracket '(' (by decide) opening,
        bracket '[' (by decide) opening, List.length_cons]
      split
      · rfl
      · rfl

theorem follows_standaloneYear : standaloneYear.Follows Char.toLower id := by
  have beside : ∀ c : Option Char,
      isAsciiAlphanumeric (c.map Char.toLower) = isAsciiAlphanumeric c := any_map keeps_isAlphanum
  intro previous t
  simp only [standaloneYear, beside, ← List.map_drop, ← List.map_take, List.length_map,
    Text.all_map keeps_isDecimal, numeral_toLower, List.head?_map]
  split
  · rfl
  · rfl

theorem titleAround_toLower (o : Occurrence Nat) :
    titleAround (o.map Char.toLower id) = (titleAround o).map Char.toLower := by
  simp only [titleAround, Occurrence.map, titleText_toLower, List.map_eq_nil_iff]
  split
  · rfl
  · rfl

theorem lastDated_toLower (range : Calendar.YearRange) (titleOf : Occurrence Nat → Text)
    (h : ∀ o, titleOf (o.map Char.toLower id) = (titleOf o).map Char.toLower)
    (years : List (Occurrence Nat)) :
    lastDated range titleOf (years.map (Occurrence.map Char.toLower id)) =
      (lastDated range titleOf years).map (Prod.map (List.map Char.toLower) id) := by
  unfold lastDated
  rw [← List.map_reverse, List.findSome?_map, List.map_findSome?]
  refine congrArg (fun answer => years.reverse.findSome? answer) (funext fun o => ?_)
  have value : (o.map Char.toLower id).value = o.value := rfl
  simp only [Function.comp_apply, value, h, ne_eq, List.map_eq_nil_iff]
  by_cases fits : range.Contains o.value ∧ titleOf o ≠ []
  · rw [if_pos fits, if_pos fits]
    rfl
  · rw [if_neg fits, if_neg fits]
    rfl

theorem film?_toLower (range : Calendar.YearRange) (name : Text) :
    film? range (name.map Char.toLower) =
      (film? range name).map (Prod.map (List.map Char.toLower) id) := by
  simp only [film?]
  rw [beforeTail_toLower, follows_bracketedYear.occurrences_map,
    follows_standaloneYear.occurrences_map, lastDated_toLower range titleAround titleAround_toLower,
    lastDated_toLower range (fun o => titleText o.before) fun o => titleText_toLower o.before,
    Option.map_or]

/-! ## What a name is recognised as -/

/-- The recognition with the letters of its studio and its title made small. -/
def Recognition.toLower : Recognition → Recognition
  | scene studio date title =>
      scene (studio.map (List.map Char.toLower)) date (title.map Char.toLower)
  | film title year => film (title.map Char.toLower) year
  | malformedDate title => malformedDate (title.map Char.toLower)
  | plain title => plain (title.map Char.toLower)

namespace Parser

theorem prepare_toLower (parser : Parser) (raw : Text) :
    parser.prepare (raw.map Char.toLower) =
      ⟨(parser.prepare raw).bracketStudio.map (List.map Char.toLower),
        (parser.prepare raw).body.map Char.toLower⟩ := by
  simp only [prepare, trimBlank_toLower, dropExtension_toLower, dropCounter_toLower,
    studioAndRest_toLower, Prod.map_fst, Prod.map_snd, dropGroups_toLower]

theorem sceneAt_toLower (name : PreparedName) (start stop : Nat) (date : Text) :
    sceneAt ⟨name.bracketStudio.map (List.map Char.toLower), name.body.map Char.toLower⟩ start stop
        date = (sceneAt name start stop date).toLower := by
  obtain ⟨studio, body⟩ := name
  cases studio with
  | some studio =>
      simp only [sceneAt, Option.map_some, ← List.map_take, ← List.map_drop, Recognition.toLower]
      rw [← titleText_toLower, List.map_append, List.map_append, List.map_singleton, toLower_space]
  | none =>
      simp only [sceneAt, Option.map_none, ← List.map_take, ← List.map_drop, studioText_toLower,
        titleText_toLower, List.map_eq_nil_iff, Recognition.toLower]
      split
      · rfl
      · rfl

theorem wholeTitle_toLower (raw body : Text) :
    wholeTitle (raw.map Char.toLower) (body.map Char.toLower) =
      (wholeTitle raw body).map Char.toLower := by
  simp only [wholeTitle, titleText_toLower, spacedWords_toLower, trimBlank_toLower, ne_eq,
    List.map_eq_nil_iff]
  split
  · rfl
  · split
    · rfl
    · rfl

/-- A name in small letters is recognised as what the name is, in small letters. -/
theorem recognise_toLower (parser : Parser) (raw : Text) :
    parser.recognise (raw.map Char.toLower) = (parser.recognise raw).toLower := by
  have found : parser.dateIn ((parser.prepare raw).body.map Char.toLower) =
      parser.dateIn (parser.prepare raw).body := firstDate_toLower _ _ _
  simp only [recognise, prepare_toLower, found]
  split
  · exact sceneAt_toLower _ _ _ _
  · rw [wholeTitle_toLower]
    rfl
  · rw [film?_toLower]
    cases film? parser.years (parser.prepare raw).body with
    | none => rw [wholeTitle_toLower]; rfl
    | some answer => rfl

/-- Blanks around a name make no difference to what it is recognised as. -/
theorem recognise_trimBlank (parser : Parser) (raw : Text) :
    parser.recognise (Text.trimBlank raw) = parser.recognise raw := by
  have trimmed : Text.trimBlank (Text.trimBlank raw) = Text.trimBlank raw := Text.trim_trim _ raw
  have prepared : parser.prepare (Text.trimBlank raw) = parser.prepare raw := by
    unfold prepare
    rw [trimmed]
  have spaced : Text.spacedWords (Text.trimBlank raw) = Text.spacedWords raw :=
    congrArg Text.unwords (Text.words_trim (fun c => isSeparator_of_isBlank) raw)
  have whole : ∀ body, wholeTitle (Text.trimBlank raw) body = wholeTitle raw body := by
    intro body
    unfold wholeTitle
    rw [spaced, trimmed]
  unfold recognise
  simp only [prepared, whole]

end Parser

end ReleaseCatalog.Release
