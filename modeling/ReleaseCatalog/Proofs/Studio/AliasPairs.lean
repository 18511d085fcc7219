import Mathlib.Data.List.Basic
import ReleaseCatalog.Studio.AliasRegister

/-!
# The pairs of an alias register

A pair *links* the key of its canonical title and the key of its alternate name, in
both directions.  The titles that a register relates to a title are those that some
pair links to it, whatever was dropped as a repetition (`exists_mem_related_iff`).

Of the pairs that a register is made of, the first usable one of each canonical key
is registered (`mem_pairs_ofPairs`).  The networks of the studios come first, so
the first studio of its title to have a usable network has its pair in the register
(`mem_pairs_ofStudios`).
-/

namespace ReleaseCatalog

/-! ## The first of each key -/

section Distinct

variable {α β : Type} [DecidableEq β] {key : α → β} {list : List α}

/-- The elements that are kept are those with no element of their key before them. -/
theorem mem_distinctBy_iff_first {a : α} :
    a ∈ distinctBy key list ↔
      ∃ before after, list = before ++ a :: after ∧ ∀ b ∈ before, key b ≠ key a := by
  induction list with
  | nil =>
      constructor
      · intro h
        cases h
      · rintro ⟨before, after, split, -⟩
        exact absurd split.symm (List.append_ne_nil_of_right_ne_nil _ (List.cons_ne_nil _ _))
  | cons c rest ih =>
      unfold distinctBy
      rw [List.mem_cons, List.mem_filter, ih, decide_eq_true_eq]
      constructor
      · rintro (rfl | ⟨⟨before, after, rfl, first⟩, other⟩)
        · exact ⟨[], rest, rfl, fun _ hb => absurd hb List.not_mem_nil⟩
        · refine ⟨c :: before, after, rfl, fun b hb => ?_⟩
          cases List.mem_cons.mp hb with
          | inl same => rw [same]; exact other.symm
          | inr later => exact first b later
      · rintro ⟨before, after, split, first⟩
        cases before with
        | nil => exact .inl (List.cons.inj split).1.symm
        | cons b before =>
            obtain ⟨rfl, rfl⟩ := List.cons.inj split
            refine .inr ⟨⟨before, after, rfl, fun d hd => ?_⟩, ?_⟩
            · exact first d (List.mem_cons_of_mem _ hd)
            · exact (first c List.mem_cons_self).symm

/-- No key is lost with the repetitions. -/
theorem exists_mem_distinctBy_iff {k : β} :
    (∃ a ∈ distinctBy key list, key a = k) ↔ ∃ a ∈ list, key a = k := by
  constructor
  · rintro ⟨a, member, same⟩
    exact ⟨a, (distinctBy_sublist key list).mem member, same⟩
  · rintro ⟨a, member, rfl⟩
    exact exists_mem_distinctBy member

end Distinct

/-! ## Links -/

/-- The pair has the two keys, in one direction or the other. -/
def AliasPair.Links (p : AliasPair) (k k' : Text) : Prop :=
  p.canonicalKey = k ∧ p.alternateKey = k' ∨ p.alternateKey = k ∧ p.canonicalKey = k'

/-- A pair links its keys in both directions. -/
theorem AliasPair.links_comm {p : AliasPair} {k k' : Text} : p.Links k k' ↔ p.Links k' k := by
  unfold Links
  rw [or_comm, and_comm, and_comm (a := p.canonicalKey = k)]

namespace AliasRegister

/-- The related titles have the keys that some pair links to the key of the title. -/
theorem exists_mem_related_iff {register : AliasRegister} {title k : Text} :
    (∃ t ∈ register.related title, Title.key t = k) ↔
      k ≠ Title.key title ∧ ∃ p ∈ register.pairs, p.Links (Title.key title) k := by
  unfold related alternates canonicals
  rw [exists_mem_distinctBy_iff]
  constructor
  · rintro ⟨t, member, rfl⟩
    obtain ⟨listed, other⟩ := List.mem_filter.mp member
    refine ⟨of_decide_eq_true other, ?_⟩
    rcases List.mem_append.mp listed with alternate | canonical
    · obtain ⟨p, found, rfl⟩ := List.mem_map.mp alternate
      obtain ⟨registered, same⟩ := List.mem_filter.mp found
      exact ⟨p, registered, .inl ⟨of_decide_eq_true same, rfl⟩⟩
    · obtain ⟨p, found, rfl⟩ := List.mem_map.mp canonical
      obtain ⟨registered, same⟩ := List.mem_filter.mp found
      exact ⟨p, registered, .inr ⟨of_decide_eq_true same, rfl⟩⟩
  · rintro ⟨other, p, registered, ⟨same, rfl⟩ | ⟨same, rfl⟩⟩
    · refine ⟨p.alternate, List.mem_filter.mpr ⟨List.mem_append_left _ ?_, ?_⟩, rfl⟩
      · exact List.mem_map_of_mem (List.mem_filter.mpr ⟨registered, decide_eq_true same⟩)
      · exact decide_eq_true other
    · refine ⟨p.canonical, List.mem_filter.mpr ⟨List.mem_append_right _ ?_, ?_⟩, rfl⟩
      · exact List.mem_map_of_mem (List.mem_filter.mpr ⟨registered, decide_eq_true same⟩)
      · exact decide_eq_true other

/-- A usable pair links no empty key. -/
theorem ne_nil_of_links {register : AliasRegister} {p : AliasPair} {k k' : Text}
    (registered : p ∈ register.pairs) (linked : p.Links k k') : k ≠ [] := by
  have usable := register.usable p registered
  unfold AliasPair.isUsable at usable
  rw [Bool.and_eq_true, decide_eq_true_eq, decide_eq_true_eq] at usable
  rcases linked with ⟨rfl, -⟩ | ⟨rfl, -⟩
  · exact usable.1
  · exact usable.2

/-! ## Which pairs are registered -/

/-- A pair is registered if it is usable and no usable pair before it has its canonical key. -/
theorem mem_pairs_ofPairs {before after : List AliasPair} {p : AliasPair}
    (usable : p.isUsable = true)
    (first : ∀ q ∈ before, q.isUsable = true → q.canonicalKey ≠ p.canonicalKey) :
    p ∈ (ofPairs (before ++ p :: after)).pairs := by
  refine mem_distinctBy_iff_first.mpr
    ⟨before.filter AliasPair.isUsable, after.filter AliasPair.isUsable, ?_, fun q hq => ?_⟩
  · rw [List.filter_append, List.filter_cons_of_pos usable]
  · obtain ⟨member, usable'⟩ := List.mem_filter.mp hq
    exact first q member usable'

end AliasRegister

/-- What the sources call the network of a studio.  The title of the studio, its network and
this name must not be empty once they are cleaned. -/
def Studio.sourceName? (s : Studio) : Option Text :=
  let network := Text.trimBlank (s.network.getD [])
  let name := sourceNetwork network s.title
  if s.key ≠ [] ∧ network ≠ [] ∧ Title.key name ≠ [] then some name else none

namespace AliasRegister

/-- The network of a studio gives a usable pair exactly if the sources have a name for it. -/
theorem networkAlias?_usable_iff {s : Studio} {p : AliasPair} :
    networkAlias? s = some p ∧ p.isUsable = true ↔
      ∃ name, s.sourceName? = some name ∧ p = ⟨s.title, name⟩ := by
  unfold networkAlias? Studio.sourceName?
  by_cases blank : Text.trimBlank (s.network.getD []) = []
  · simp [blank]
  · simp only [blank, if_false, Option.some.injEq, ne_eq, not_false_eq_true, true_and]
    constructor
    · rintro ⟨rfl, usable⟩
      unfold AliasPair.isUsable at usable
      rw [Bool.and_eq_true, decide_eq_true_eq, decide_eq_true_eq] at usable
      exact ⟨_, if_pos usable, rfl⟩
    · rintro ⟨name, named, rfl⟩
      obtain ⟨usable, same⟩ := Option.ite_none_right_eq_some.mp named
      obtain rfl := Option.some.inj same
      refine ⟨rfl, ?_⟩
      unfold AliasPair.isUsable
      rw [Bool.and_eq_true, decide_eq_true_eq, decide_eq_true_eq]
      exact usable

/-- The first studio of its title whose network the sources have a name for has that name
registered. -/
theorem mem_pairs_ofStudios {before after : List Studio} {s : Studio} {name : Text}
    (named : s.sourceName? = some name)
    (first : ∀ t ∈ before, t.key = s.key → t.sourceName? = none) (extra : List AliasPair) :
    ⟨s.title, name⟩ ∈ (ofStudios (before ++ s :: after) extra).pairs := by
  obtain ⟨given, usable⟩ := networkAlias?_usable_iff.mpr ⟨name, named, rfl⟩
  unfold ofStudios sourcePairs
  rw [List.filterMap_append, List.filterMap_cons_some given, List.append_assoc, List.append_assoc,
    List.cons_append]
  refine mem_pairs_ofPairs usable fun q hq usable' same => ?_
  obtain ⟨t, ht, given'⟩ := List.mem_filterMap.mp hq
  obtain ⟨name', named', rfl⟩ := networkAlias?_usable_iff.mp ⟨given', usable'⟩
  rw [first t ht same] at named'
  cases named'

end AliasRegister

end ReleaseCatalog
