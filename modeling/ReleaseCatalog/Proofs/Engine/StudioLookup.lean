import ReleaseCatalog.Engine
import ReleaseCatalog.Holdings.Library
import ReleaseCatalog.Proofs.Studio.AliasPairs
import ReleaseCatalog.Proofs.Title.NormalForm

/-!
# Which studios a title resolves to

A title resolves to the studios of that title, or, if there are none, to those of the titles
that aliases relate to it.  Being related is symmetric: two different keys are related if some
pair has them as its two sides, and a pair does not say in which direction it is read
(`exists_mem_related_comm`).

Of a store nothing is taken for granted but that it answers a title with the studios that have
its key (`Store.Knows`).  Repetitions are dropped by the foreign identifier, so the identifiers
found are exactly those of the studios that are meant (`resolution_symmetric_and_complete`).
All of it depends on the key of the title alone (`Engine.studiosNamed_outcome_congr`), also if
the store fails.
-/

namespace ReleaseCatalog

open Journal (Traced)

/-! ## Related titles -/

namespace AliasRegister

/-- The titles related to a title depend on its key. -/
theorem related_congr (register : AliasRegister) {title title' : Text}
    (same : Title.key title = Title.key title') :
    register.related title = register.related title' := by
  unfold related alternates canonicals
  rw [same]

variable {register : AliasRegister} {title title' : Text}

theorem nodup_keys_related : ((register.related title).map Title.key).Nodup :=
  List.pairwise_map.mpr (pairwise_distinctBy Title.key _)

theorem mem_keys_related_iff :
    Title.key title' ∈ (register.related title).map Title.key ↔
      Title.key title ≠ Title.key title' ∧
        ∃ p ∈ register.pairs, p.Links (Title.key title) (Title.key title') := by
  rw [List.mem_map, exists_mem_related_iff, ne_comm]

/-- One title is related to another if this is related to it. -/
theorem mem_keys_related_comm :
    Title.key title' ∈ (register.related title).map Title.key ↔
      Title.key title ∈ (register.related title').map Title.key := by
  rw [mem_keys_related_iff, mem_keys_related_iff, ne_comm]
  simp only [AliasPair.links_comm]

end AliasRegister

/-! ## Looking studios up -/

namespace Engine

/-- The title that aliases are tried for is only noted. -/
theorem findByAliases_outcome_congr (store : Store) (title title' : Text) (alternates : List Text) :
    (findByAliases store title alternates).outcome =
      (findByAliases store title' alternates).outcome := by
  induction alternates with
  | nil => rfl
  | cons alternate rest ih => simp only [findByAliases, Traced.outcome_bind, Traced.outcome_note, ih]

/-- Which studios a title resolves to depends on its key. -/
theorem studiosNamed_outcome_congr (engine : Engine) {title title' : Text}
    (same : Title.key title = Title.key title') :
    (engine.studiosNamed title).outcome = (engine.studiosNamed title').outcome := by
  unfold studiosNamed
  rw [same, engine.aliases.related_congr same]
  by_cases blank : Title.key title' = []
  · simp only [blank, if_true]
  · simp only [blank, if_false, Traced.outcome_bind]
    refine congrArg _ (funext fun exact => ?_)
    split
    · rw [Traced.outcome_bind, Traced.outcome_bind, findByAliases_outcome_congr]
    · rfl

theorem studiosNamed_of_blank (engine : Engine) {title : Text} (blank : Title.key title = []) :
    (engine.studiosNamed title).outcome = .ok [] := by
  unfold studiosNamed
  simp only [blank, if_true]
  rfl

end Engine

/-- The store answers a title with those of the studios that have its key, in whatever order and
however often. -/
def Store.Knows (store : Store) (studios : List Studio) : Prop :=
  ∀ title, ∃ found, store.studiosByTitle title = .ok found ∧
    ∀ s, s ∈ found ↔ s ∈ studios ∧ s.key = Title.key title

/-- The store of a library knows its studios. -/
theorem Library.store_knows (l : Library) : l.store.Knows l.studios := by
  intro title
  refine ⟨_, rfl, fun s => ?_⟩
  unfold studiosByTitle
  rw [List.mem_filter, decide_eq_true_eq]

namespace Store.Knows

variable {store : Store} {studios : List Studio}

theorem findByAliases (known : store.Knows studios) (title : Text) (alternates : List Text) :
    ∃ found, (Engine.findByAliases store title alternates).outcome = .ok found ∧
      ∀ s, s ∈ found ↔ s ∈ studios ∧ ∃ t ∈ alternates, s.key = Title.key t := by
  induction alternates with
  | nil => exact ⟨[], rfl, by simp⟩
  | cons alternate rest ih =>
      obtain ⟨first, answered, members⟩ := known (Title.key alternate)
      obtain ⟨others, outcome, members'⟩ := ih
      refine ⟨first ++ others, ?_, fun s => ?_⟩
      · refine (Traced.outcome_bind_of_ok rfl).trans ?_
        refine (Traced.outcome_bind_of_ok answered).trans ?_
        exact Traced.outcome_bind_of_ok outcome
      · rw [List.mem_append, members, members', Title.key_key, List.exists_mem_cons_iff, and_or_left]

/-- A title with a key resolves to the studios of the key, or else of the related titles. -/
theorem studiosNamed {engine : Engine} (known : engine.store.Knows studios) {title : Text}
    (titled : Title.key title ≠ []) :
    ∃ found, (engine.studiosNamed title).outcome = .ok (distinctBy Studio.foreignId found) ∧
      ((∃ s ∈ studios, s.key = Title.key title) →
        ∀ s, s ∈ found ↔ s ∈ studios ∧ s.key = Title.key title) ∧
      ((∀ s ∈ studios, s.key ≠ Title.key title) →
        ∀ s, s ∈ found ↔ s ∈ studios ∧ ∃ t ∈ engine.aliases.related title, s.key = Title.key t) := by
  obtain ⟨exact, answered, members⟩ := known (Title.key title)
  obtain ⟨others, outcome, members'⟩ := known.findByAliases title (engine.aliases.related title)
  rw [Title.key_key] at members
  unfold Engine.studiosNamed
  simp only [titled, if_false]
  by_cases none : exact = []
  · subst none
    refine ⟨others, ?_, fun stored => ?_, fun _ => members'⟩
    · refine (Traced.outcome_bind_of_ok answered).trans ?_
      exact Traced.outcome_bind_of_ok outcome
    · obtain ⟨s, stored, keyed⟩ := stored
      exact absurd ((members s).mpr ⟨stored, keyed⟩) List.not_mem_nil
  · refine ⟨exact, ?_, fun _ => members, fun unknown => ?_⟩
    · refine (Traced.outcome_bind_of_ok answered).trans ?_
      rw [if_neg none]
      rfl
    · obtain ⟨s, member⟩ := List.exists_mem_of_ne_nil _ none
      obtain ⟨stored, keyed⟩ := (members s).mp member
      exact absurd keyed (unknown s stored)

end Store.Knows

/-- No identifier is lost with the repetitions. -/
theorem mem_foreignIds_distinctBy {found : List Studio} {id : Text} :
    id ∈ (distinctBy Studio.foreignId found).map Studio.foreignId ↔
      ∃ s ∈ found, s.foreignId = id := by
  rw [List.mem_map, exists_mem_distinctBy_iff]

/-- The keys of the titles related to a title are different from each other and from its own.  One
title is related to another if this is related to it, and exactly if their keys differ and are the
two sides of a pair.  A title without a key resolves to no studio.  Any other title resolves to one
studio for each foreign identifier that a studio of its key has, or, if no studio has its key, a
studio with the key of a related title.  Titles of one key resolve to the same studios. -/
theorem resolution_symmetric_and_complete :
    (∀ (register : AliasRegister) (x y : Text),
      ((register.related x).map Title.key).Nodup ∧
      Title.key x ∉ (register.related x).map Title.key ∧
      (Title.key y ∈ (register.related x).map Title.key ↔
        Title.key x ∈ (register.related y).map Title.key) ∧
      (Title.key y ∈ (register.related x).map Title.key ↔
        Title.key x ≠ Title.key y ∧
          ∃ p ∈ register.pairs, p.Links (Title.key x) (Title.key y))) ∧
    (∀ (engine : Engine) (x : Text),
      (Title.key x = [] → (engine.studiosNamed x).outcome = .ok []) ∧
      (∀ y, Title.key y = Title.key x →
        (engine.studiosNamed y).outcome = (engine.studiosNamed x).outcome) ∧
      (∀ studios, engine.store.Knows studios → Title.key x ≠ [] →
        ∃ found, (engine.studiosNamed x).outcome = .ok found ∧
          (found.map Studio.foreignId).Nodup ∧
          ((∃ s ∈ studios, s.key = Title.key x) →
            ∀ id, id ∈ found.map Studio.foreignId ↔
              ∃ s ∈ studios, s.key = Title.key x ∧ s.foreignId = id) ∧
          ((∀ s ∈ studios, s.key ≠ Title.key x) →
            ∀ id, id ∈ found.map Studio.foreignId ↔
              ∃ s ∈ studios, (∃ t ∈ engine.aliases.related x, s.key = Title.key t) ∧
                s.foreignId = id))) := by
  constructor
  · intro register x y
    refine ⟨AliasRegister.nodup_keys_related, ?_, AliasRegister.mem_keys_related_comm,
      AliasRegister.mem_keys_related_iff⟩
    rw [AliasRegister.mem_keys_related_iff]
    exact fun both => both.1 rfl
  · intro engine x
    refine ⟨engine.studiosNamed_of_blank, fun y => engine.studiosNamed_outcome_congr,
      fun studios known titled => ?_⟩
    obtain ⟨found, outcome, exact, related⟩ := known.studiosNamed titled
    refine ⟨_, outcome, List.pairwise_map.mpr (pairwise_distinctBy _ _), fun some id => ?_,
      fun none id => ?_⟩
    · rw [mem_foreignIds_distinctBy]
      simp only [exact some, and_assoc]
    · rw [mem_foreignIds_distinctBy]
      simp only [related none, and_assoc]

/-- Two studios of one title and one of another.  The last two have one foreign identifier. -/
def nightAndDay : Library where
  studios :=
    [{ id := 1, foreignId := "a".toList, title := "Night & Day".toList },
     { id := 2, foreignId := "b".toList, title := "Night and Day".toList },
     { id := 3, foreignId := "b".toList, title := "Day Off".toList }]

/-- The alternate name of one pair is the canonical title of the other, and no studio has it.  It
resolves to the studios on both sides, and a title that a studio has to that studio alone. -/
theorem resolution_of_nd :
    let register := AliasRegister.ofPairs
      [⟨"Night and Day".toList, "N.D.".toList⟩, ⟨"nd".toList, "Day Off".toList⟩]
    let engine : Engine := ⟨{}, .off, nightAndDay.store, register, .lowestId⟩
    (∃ found, (engine.studiosNamed "ND!".toList).outcome = .ok found ∧
      (found.map Studio.foreignId).Nodup ∧
      "a".toList ∈ found.map Studio.foreignId ∧ "b".toList ∈ found.map Studio.foreignId) ∧
    (∃ found, (engine.studiosNamed "Day Off".toList).outcome = .ok found ∧
      (found.map Studio.foreignId).Nodup ∧
      "a".toList ∉ found.map Studio.foreignId ∧ "b".toList ∈ found.map Studio.foreignId) := by
  intro register engine
  have resolves := fun x => (resolution_symmetric_and_complete.2 engine x).2.2 nightAndDay.studios
    nightAndDay.store_knows
  constructor
  · obtain ⟨found, outcome, once, -, related⟩ := resolves "ND!".toList (by decide +kernel)
    have members := related (by decide +kernel)
    refine ⟨found, outcome, once, (members _).mpr ?_, (members _).mpr ?_⟩
    · decide +kernel
    · decide +kernel
  · obtain ⟨found, outcome, once, exact, -⟩ := resolves "Day Off".toList (by decide +kernel)
    have members := exact (by decide +kernel)
    refine ⟨found, outcome, once, fun member => ?_, (members _).mpr ?_⟩
    · exact absurd ((members _).mp member) (by decide +kernel)
    · decide +kernel

end ReleaseCatalog
