import ReleaseCatalog.Proofs.Studio.Registration

/-!
# Which source an alias comes from

A register is made of three sources: the networks of the studios, the aliases
known in advance and the additional ones.  The first usable pair of a canonical
key is kept, so looking a title up is looking for it in the sources one after
the other (`find?_sourcePairs`).  A source that has no usable pair of the title
lets the next one through.

A studio without a title is the exception.  Its pair is never usable, so its
network is the alias of no title, not even of an empty one
(`untitled_network_unused`).
-/

namespace ReleaseCatalog

section Distinct

variable {α β : Type} [DecidableEq β]

/-- The first element of a key is kept. -/
theorem find?_distinctBy (key : α → β) (list : List α) (k : β) :
    ((distinctBy key list).find? fun a => key a = k) = list.find? fun a => key a = k := by
  induction list with
  | nil => rfl
  | cons a rest ih =>
      unfold distinctBy
      by_cases same : key a = k
      · rw [List.find?_cons_of_pos (by simpa using same),
          List.find?_cons_of_pos (by simpa using same)]
      · rw [List.find?_cons_of_neg (by simpa using same),
          List.find?_cons_of_neg (by simpa using same), List.find?_filter, ← ih]
        -- An element with the key that is looked for is not dropped for the first one's sake.
        congr 1
        funext b
        by_cases found : key b = k
        · simp [found, Ne.symm same]
        · simp [found]

/-- Further elements drop none of those before. -/
theorem distinctBy_isPrefix (key : α → β) (list more : List α) :
    distinctBy key list <+: distinctBy key (list ++ more) := by
  induction more using List.reverseRecOn with
  | nil => simp
  | append_singleton more a ih =>
      rw [← List.append_assoc, distinctBy_concat]
      exact ih.trans (List.prefix_append _ _)

end Distinct

/-- What the sources call the network of a studio, if neither the network is blank nor the name
is empty once it is cleaned. -/
def Studio.usableNetwork? (s : Studio) : Option Text :=
  let network := Text.trimBlank (s.network.getD [])
  let name := sourceNetwork network s.title
  if network ≠ [] ∧ Title.key name ≠ [] then some name else none

namespace AliasRegister

/-- The alternate name that the first source with one gives to a title: the first studio of the
title with a usable network, else the known alias of the title, else its first usable additional
alias. -/
def firstAlternate? (studios : List Studio) (extra : List AliasPair) (title : Text) :
    Option Text :=
  ((studios.find? fun s => s.key = Title.key title ∧ s.usableNetwork?.isSome = true).bind
      Studio.usableNetwork?).or <|
    ((knownAliases.find? fun p => p.canonicalKey = Title.key title).map AliasPair.alternate).or <|
      (extra.find? fun p => p.isUsable = true ∧ p.canonicalKey = Title.key title).map
        AliasPair.alternate

/-! ## Looking in one source -/

/-- A title is looked up among the usable pairs that a register is made of. -/
theorem alternates_ofPairs (pairs : List AliasPair) (title : Text) :
    (ofPairs pairs).alternates title =
      ((pairs.find? fun p => p.isUsable = true ∧ p.canonicalKey = Title.key title).map
        AliasPair.alternate).toList := by
  rw [alternates_eq]
  show (((distinctBy AliasPair.canonicalKey (pairs.filter AliasPair.isUsable)).find? _).map
    _).toList = _
  rw [find?_distinctBy, List.find?_filter]
  simp [Bool.decide_and]

/-- With a title, a studio's network has a name that the sources know if it is usable. -/
theorem sourceName?_of_titled {s : Studio} (titled : s.key ≠ []) :
    s.sourceName? = s.usableNetwork? := by
  unfold Studio.sourceName? Studio.usableNetwork?
  simp [titled]

/-- The pair of a studio is found under a key if the studio has the key and a usable network. -/
theorem any_networkAlias?_iff {s : Studio} {k : Text} (titled : k ≠ []) :
    ((networkAlias? s).any fun p => p.isUsable = true ∧ p.canonicalKey = k) = true ↔
      s.key = k ∧ s.usableNetwork?.isSome = true := by
  simp only [Option.any_eq_true, decide_eq_true_eq]
  constructor
  · rintro ⟨p, given, usable, rfl⟩
    obtain ⟨name, named, rfl⟩ := networkAlias?_usable_iff.mp ⟨given, usable⟩
    rw [sourceName?_of_titled titled] at named
    exact ⟨rfl, Option.isSome_iff_exists.mpr ⟨name, named⟩⟩
  · rintro ⟨rfl, usable⟩
    obtain ⟨name, named⟩ := Option.isSome_iff_exists.mp usable
    rw [← sourceName?_of_titled titled] at named
    obtain ⟨given, usable'⟩ := networkAlias?_usable_iff.mpr ⟨name, named, rfl⟩
    exact ⟨_, given, usable', rfl⟩

/-- The networks give a title the name of the first studio with the title and a usable network. -/
theorem find?_networks (studios : List Studio) {k : Text} (titled : k ≠ []) :
    ((studios.filterMap networkAlias?).find? fun p =>
        p.isUsable = true ∧ p.canonicalKey = k).map AliasPair.alternate =
      (studios.find? fun s => s.key = k ∧ s.usableNetwork?.isSome = true).bind
        Studio.usableNetwork? := by
  -- A studio whose pair is not found is passed over, whether it has no network or an unusable one.
  have same : (fun s => (networkAlias? s).any fun p => p.isUsable = true ∧ p.canonicalKey = k) =
      fun s => decide (s.key = k ∧ s.usableNetwork?.isSome = true) := by
    funext s
    rw [Bool.eq_iff_iff, any_networkAlias?_iff titled, decide_eq_true_eq]
  rw [List.find?_filterMap, same]
  cases found : studios.find? fun s => s.key = k ∧ s.usableNetwork?.isSome = true with
  | none => rfl
  | some s =>
      have first : s.key = k ∧ s.usableNetwork?.isSome = true := by
        simpa using List.find?_some found
      obtain ⟨rfl, usable⟩ := first
      obtain ⟨name, named⟩ := Option.isSome_iff_exists.mp usable
      obtain ⟨given, -⟩ := networkAlias?_usable_iff.mpr
        ⟨name, (sourceName?_of_titled titled).trans named, rfl⟩
      rw [Option.bind_some, Option.bind_some, given, named]
      rfl

theorem isUsable_of_mem_knownAliases : ∀ p ∈ knownAliases, p.isUsable = true := by
  decide +kernel

/-- A title is looked up in the three sources one after the other. -/
theorem find?_sourcePairs (studios : List Studio) (extra : List AliasPair) {title : Text}
    (titled : Title.key title ≠ []) :
    ((sourcePairs studios extra).find? fun p =>
        p.isUsable = true ∧ p.canonicalKey = Title.key title).map AliasPair.alternate =
      firstAlternate? studios extra title := by
  have known : (knownAliases.find? fun p => p.isUsable = true ∧ p.canonicalKey = Title.key title) =
      knownAliases.find? fun p => p.canonicalKey = Title.key title := by
    have all : knownAliases.filter AliasPair.isUsable = knownAliases :=
      List.filter_eq_self.mpr isUsable_of_mem_knownAliases
    conv_rhs => rw [← all]
    rw [List.find?_filter]
    simp
  unfold sourcePairs firstAlternate?
  rw [List.find?_append, List.find?_append, known, Option.map_or, Option.map_or,
    find?_networks studios titled, Option.or_assoc]

/-- Nothing is looked up for a blank title. -/
theorem alternates_eq_nil_of_blank {register : AliasRegister} {title : Text}
    (blank : Title.key title = []) : register.alternates title = [] := by
  rw [List.eq_nil_iff_forall_not_mem]
  intro name listed
  obtain ⟨p, registered, same, -⟩ := mem_alternates.mp listed
  exact ne_nil_of_links registered (.inl ⟨rfl, rfl⟩) (same.trans blank)

/-- A usable pair has its canonical title in the register, by itself or by an earlier pair. -/
theorem contains_of_mem {pairs : List AliasPair} {p : AliasPair} (member : p ∈ pairs)
    (usable : p.isUsable = true) : (ofPairs pairs).contains p.canonical = true := by
  unfold contains
  rw [List.any_eq_true]
  obtain ⟨q, registered, same⟩ : ∃ q ∈ (ofPairs pairs).pairs, q.canonicalKey = p.canonicalKey :=
    exists_mem_distinctBy (List.mem_filter.mpr ⟨member, usable⟩)
  exact ⟨q, registered, decide_eq_true same⟩

/-! ## The register of a store -/

/-- The register of some studios and additional aliases.  A title that is not blank has the
alternate name that the first source with one gives to it, and a blank title has none.  The
pairs without additional aliases are the first pairs with them, so that these change none, and
every alias known in advance has its canonical title in the register. -/
theorem ofStudios_precedence (studios : List Studio) (extra : List AliasPair) :
    (∀ title, (ofStudios studios extra).alternates title =
      if Title.key title = [] then [] else (firstAlternate? studios extra title).toList) ∧
    (ofStudios studios []).pairs <+: (ofStudios studios extra).pairs ∧
    ∀ p ∈ knownAliases, (ofStudios studios extra).contains p.canonical = true := by
  refine ⟨fun title => ?_, ?_, fun p known => ?_⟩
  · by_cases blank : Title.key title = []
    · rw [if_pos blank, alternates_eq_nil_of_blank blank]
    · rw [if_neg blank, ← find?_sourcePairs studios extra blank]
      exact alternates_ofPairs _ title
  · show distinctBy _ ((sourcePairs studios []).filter _) <+:
      distinctBy _ ((sourcePairs studios extra).filter _)
    unfold sourcePairs
    rw [List.append_nil, List.filter_append _ extra]
    exact distinctBy_isPrefix _ _ _
  · refine contains_of_mem ?_ (isUsable_of_mem_knownAliases p known)
    exact List.mem_append_left _ (List.mem_append_right _ known)

/-- Two studios of one title, of which the first has a blank network, and an additional alias of
the same title and one of another. -/
theorem ofStudios_precedence_night_and_day :
    let studios : List Studio :=
      [{ id := 1, foreignId := "a".toList, title := "Night & Day".toList,
         network := some " ".toList },
       { id := 2, foreignId := "b".toList, title := "Night and Day".toList,
         network := some " ManyVids ".toList }]
    let extra : List AliasPair :=
      [⟨"night and day".toList, "ND".toList⟩, ⟨"Dawn".toList, "!".toList⟩,
       ⟨"Dawn".toList, "D".toList⟩]
    let known : AliasPair := ⟨"bex".toList, "Brazzers Exxtra".toList⟩
    known ∈ knownAliases ∧
    (ofStudios studios extra).alternates "NIGHT & DAY".toList =
      ["ManyVids Night and Day".toList] ∧
    (ofStudios studios extra).alternates "dawn".toList = ["D".toList] ∧
    (ofStudios studios extra).contains known.canonical = true := by
  intro studios extra known
  obtain ⟨precedence, -, contained⟩ := ofStudios_precedence studios extra
  have member : known ∈ knownAliases := by decide
  refine ⟨member, (precedence _).trans ?_, (precedence _).trans ?_, contained known member⟩
  · decide +kernel
  · decide +kernel

/-- A studio without a title. -/
def untitledStudio : Studio := { id := 1, foreignId := "a".toList, network := some "N".toList }

/-- The network of a studio without a title is usable, yet a blank title does not have it for an
alias. -/
theorem untitled_network_unused :
    firstAlternate? [untitledStudio] [] [] = some "N".toList ∧
      (ofStudios [untitledStudio] []).alternates [] = [] := by
  decide +kernel

end AliasRegister

end ReleaseCatalog
