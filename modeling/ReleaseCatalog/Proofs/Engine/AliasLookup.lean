import ReleaseCatalog.Proofs.Engine.SceneLookup
import ReleaseCatalog.Proofs.Engine.StudioLookup

/-!
# Looking a studio up by an alias

A studio is looked up by its own title first, and only if no studio has that title are
the related titles tried.  Then every studio is found whose key some pair links to the
key of the title (`findsStudio_of_linked`): a related title with that key is kept,
though not always the one of this pair, and the key of a key is the key.  Dropping
repetitions keeps every foreign identifier.  A pair links its two keys in both
directions, so `findsStudio_of_alias` says the same of both.
-/

namespace ReleaseCatalog

/-- A studio with the foreign identifier of the studio is found by the title. -/
def Engine.FindsStudio (engine : Engine) (title : Text) (s : Studio) : Prop :=
  ∃ found, (engine.studiosNamed title).outcome = .ok found ∧
    s.foreignId ∈ found.map Studio.foreignId

namespace Library

open Matching (TieBreak)

variable {aliases : AliasRegister} {title k : Text} {s : Studio}
variable (l : Library) (parser : Release.Parser) (detector : Release.Detector) (policy : TieBreak)

/-- If no studio has the title, the studios are found that a pair links to it. -/
theorem findsStudio_of_linked {p : AliasPair} (registered : p ∈ aliases.pairs)
    (linked : p.Links (Title.key title) k) (unknown : ∀ t ∈ l.studios, t.key ≠ Title.key title)
    (stored : s ∈ l.studios) (keyed : s.key = k) :
    (l.engine parser detector aliases policy).FindsStudio title s := by
  have other : k ≠ Title.key title := keyed ▸ unknown s stored
  have titled : Title.key title ≠ [] := AliasRegister.ne_nil_of_links registered linked
  obtain ⟨alternate, tried, rfl⟩ : ∃ t ∈ aliases.related title, Title.key t = k :=
    AliasRegister.exists_mem_related_iff.mpr ⟨other, p, registered, linked⟩
  have known : (l.engine parser detector aliases policy).store.Knows l.studios := l.store_knows
  obtain ⟨found, outcome, -, related⟩ := known.studiosNamed titled
  refine ⟨_, outcome, mem_foreignIds_distinctBy.mpr ⟨s, ?_, rfl⟩⟩
  exact (related unknown s).mpr ⟨stored, alternate, tried, keyed⟩

/-- If no studio has the alternate name of a pair, the studios with its canonical title are
found by the alternate name, and the other way round.  So in a register that was made from the
studios of the library, the first studio of its title whose network the sources have a name for
is found by that name, unless a studio has the name for its title. -/
theorem findsStudio_of_alias :
    (∀ (aliases : AliasRegister), ∀ p ∈ aliases.pairs,
      ((∀ t ∈ l.studios, t.key ≠ p.alternateKey) → ∀ s ∈ l.studios, s.key = p.canonicalKey →
        (l.engine parser detector aliases policy).FindsStudio p.alternate s) ∧
      ((∀ t ∈ l.studios, t.key ≠ p.canonicalKey) → ∀ s ∈ l.studios, s.key = p.alternateKey →
        (l.engine parser detector aliases policy).FindsStudio p.canonical s)) ∧
    (∀ (extra : List AliasPair) (before after : List Studio) (s : Studio) (name : Text),
      l.studios = before ++ s :: after → s.sourceName? = some name →
      (∀ t ∈ before, t.key = s.key → t.sourceName? = none) →
      (∀ t ∈ l.studios, t.key ≠ Title.key name) →
        (l.engine parser detector (.ofStudios l.studios extra) policy).FindsStudio name s) := by
  constructor
  · intro aliases p registered
    constructor
    · intro unknown s stored keyed
      exact l.findsStudio_of_linked parser detector policy registered (.inr ⟨rfl, rfl⟩) unknown
        stored keyed
    · intro unknown s stored keyed
      exact l.findsStudio_of_linked parser detector policy registered (.inl ⟨rfl, rfl⟩) unknown
        stored keyed
  · intro extra before after s name split named first unknown
    have stored : s ∈ l.studios := by rw [split]; simp
    have registered :
        ⟨s.title, name⟩ ∈ (AliasRegister.ofStudios (before ++ s :: after) extra).pairs :=
      AliasRegister.mem_pairs_ofStudios named first extra
    rw [← split] at registered
    exact l.findsStudio_of_linked parser detector policy registered (.inr ⟨rfl, rfl⟩) unknown
      stored rfl

/-- Two studios of one title.  The sources have no name for the network of the first. -/
def networkStudios : Library where
  studios :=
    [{ id := 1, foreignId := "a".toList, title := "Night & Day".toList,
       network := some "!".toList },
     { id := 2, foreignId := "b".toList, title := "Night and Day".toList,
       network := some " ManyVids ".toList }]

/-- Both studios are found by an alias of their title, and the second by its network. -/
theorem findsStudio_night_and_day :
    let aliases := AliasRegister.ofPairs [⟨"ND".toList, "night & day".toList⟩]
    (∀ s ∈ networkStudios.studios,
      (networkStudios.engine {} .off aliases .lowestId).FindsStudio "ND".toList s) ∧
    ∀ s ∈ networkStudios.studios.getLast?,
      (networkStudios.engine {} .off (.ofStudios networkStudios.studios []) .lowestId).FindsStudio
        "ManyVids Night and Day".toList s := by
  intro aliases
  obtain ⟨linked, networks⟩ := networkStudios.findsStudio_of_alias {} .off .lowestId
  constructor
  · have registered : (⟨"ND".toList, "night & day".toList⟩ : AliasPair) ∈ aliases.pairs := by
      decide +kernel
    have sameKey : ∀ s ∈ networkStudios.studios, s.key = Title.key "night & day".toList := by
      decide +kernel
    obtain ⟨-, backwards⟩ := linked aliases _ registered
    exact fun s stored => backwards (by decide +kernel) s stored (sameKey s stored)
  · rintro s ⟨⟩
    exact networks [] [_] [] _ _ rfl (by decide +kernel) (by decide +kernel) (by decide +kernel)

end Library

end ReleaseCatalog
