import ReleaseCatalog.Distinct
import ReleaseCatalog.Holdings.Store
import ReleaseCatalog.Studio.Network

/-!
# Aliases of studios

Sources publish scenes under names that differ from the title of the studio:
its network, an abbreviation, a domain.  The *alias register* pairs the canonical
title of a studio with one alternate name and is read in both directions.
Titles are compared by their keys.

A pair is *usable* if neither key is empty.  For each canonical key the first
usable pair is kept, and later ones are noted in the journal and ignored.  The
register of a store takes the networks of its studios first, then the aliases
known in advance, then those of the settings.
-/

namespace ReleaseCatalog

open Journal (Event)

/-- A canonical title and an alternate name. -/
structure AliasPair where
  /-- The title of the studio. -/
  canonical : Text
  /-- The name that sources use. -/
  alternate : Text
deriving DecidableEq, Repr

namespace AliasPair

/-- The key of the canonical title. -/
def canonicalKey (p : AliasPair) : Text := Title.key p.canonical

/-- The key of the alternate name. -/
def alternateKey (p : AliasPair) : Text := Title.key p.alternate

/-- Whether neither key is empty. -/
def isUsable (p : AliasPair) : Bool := p.canonicalKey ≠ [] && p.alternateKey ≠ []

end AliasPair

/-- Pairs of canonical titles and alternate names, one for each canonical key. -/
structure AliasRegister where
  /-- The pairs in the order in which they were registered. -/
  pairs : List AliasPair
  /-- Every pair is usable. -/
  usable : ∀ p ∈ pairs, p.isUsable = true
  /-- No two pairs have the same canonical key. -/
  distinct : pairs.Pairwise fun p q => p.canonicalKey ≠ q.canonicalKey

namespace AliasRegister

/-- The register of the first usable pair for each canonical key. -/
def ofPairs (pairs : List AliasPair) : AliasRegister where
  pairs := distinctBy AliasPair.canonicalKey (pairs.filter AliasPair.isUsable)
  usable _ hp := (List.mem_filter.mp ((distinctBy_sublist _ _).mem hp)).2
  distinct := pairwise_distinctBy _ _

/-- The pairs that come too late for their canonical key. -/
def lateComers (pairs : List AliasPair) : List AliasPair :=
  repeatsBy AliasPair.canonicalKey (pairs.filter AliasPair.isUsable)

/-- What the journal notes while a register is made. -/
def registrationEvents (pairs : List AliasPair) : List Event :=
  (lateComers pairs).map fun p => .aliasIgnored p.canonical p.alternate

/-! ## Reading the register -/

/-- The alternate names of a canonical title. -/
def alternates (register : AliasRegister) (title : Text) : List Text :=
  (register.pairs.filter fun p => p.canonicalKey = Title.key title).map AliasPair.alternate

/-- The canonical titles with an alternate name. -/
def canonicals (register : AliasRegister) (name : Text) : List Text :=
  (register.pairs.filter fun p => p.alternateKey = Title.key name).map AliasPair.canonical

/-- The titles paired with a title in either direction, its own key left out. -/
def related (register : AliasRegister) (title : Text) : List Text :=
  distinctBy Title.key ((register.alternates title ++ register.canonicals title).filter fun t =>
    Title.key t ≠ Title.key title)

/-- Whether a title is canonical. -/
def contains (register : AliasRegister) (title : Text) : Bool :=
  register.pairs.any fun p => p.canonicalKey = Title.key title

/-- How a register is shown. -/
def describe (register : AliasRegister) : Text :=
  "StudioAliasTable(".toList ++ Text.ofNat register.pairs.length ++ " alias)".toList

/-! ## The register of a store -/

/-- The aliases known in advance. -/
def knownAliases : List AliasPair :=
  [⟨"ExCoGiGirls".toList, "Exploited College Girls".toList⟩,
   ⟨"bex".toList, "Brazzers Exxtra".toList⟩,
   ⟨"lanewgirl".toList, "L.A. New Girl".toList⟩,
   ⟨"Nubiles".toList, "Nubiles.net".toList⟩,
   ⟨"TeamSkeetVIP".toList, "TeamSkeet Features".toList⟩,
   ⟨"Wicked Pictures".toList, "Wicked".toList⟩]

/-- The alias that the network of a studio gives, if it has one that is not blank. -/
def networkAlias? (s : Studio) : Option AliasPair :=
  let network := Text.trimBlank (s.network.getD [])
  if network = [] then none else some ⟨s.title, sourceNetwork network s.title⟩

/-- The pairs from which the register of some studios is made. -/
def sourcePairs (studios : List Studio) (extra : List AliasPair) : List AliasPair :=
  studios.filterMap networkAlias? ++ knownAliases ++ extra

/-- The register of some studios and additional aliases. -/
def ofStudios (studios : List Studio) (extra : List AliasPair) : AliasRegister :=
  ofPairs (sourcePairs studios extra)

/-- What the journal notes while the register of some studios is made. -/
def buildEvents (studios : List Studio) (extra : List AliasPair) : List Event :=
  registrationEvents (sourcePairs studios extra) ++
    [.aliasRegisterBuilt (ofStudios studios extra).pairs.length]

end AliasRegister

end ReleaseCatalog
