import Mathlib.Data.List.Induction
import Mathlib.Logic.Function.Basic
import ReleaseCatalog.Proofs.Studio.AliasPairs

/-!
# Registering pairs one after the other

What becomes of a pair is decided by the pairs before it (`AliasPair.fate`): a
blank pair is passed over, the first usable pair of a canonical title is kept,
and a later one is noted as ignored.  The register has exactly the pairs that
are kept, in their order, and the journal one event for each pair that comes
too late (`pairs_ofPairs`, `lateComers_eq`).

A register may also be made step by step, with one index for each direction
(`Registration`).  One step keeps the indexes in step with the pairs
(`InStep.enter`), so they are after any list of pairs (`inStep_enterAll`), and
reading the register is looking up in them.

Everything goes by induction on the list from its end: appending a pair
changes nothing about the pairs before it.

The register represents the pairs in four respects (`ofPairs_represents`): it
accounts for every pair (`Accounts`), answers by its own pairs in both directions
(`AnswersByPairs`), has the indexes of the registration (`IsIndexedBy`), and is
the same when it is made again of its pairs (`IsRemade`).
-/

namespace ReleaseCatalog

open Journal (Event)

/-! ## Lists without repetition, from the end -/

section Distinct

variable {α β : Type} [DecidableEq β]

/-- The last element is kept if no element before it has its key. -/
theorem distinctBy_concat (key : α → β) (list : List α) (a : α) :
    distinctBy key (list ++ [a]) =
      distinctBy key list ++ if ∃ b ∈ list, key b = key a then [] else [a] := by
  induction list with
  | nil => simp [distinctBy]
  | cons c rest ih =>
      rw [List.cons_append, distinctBy, ih, distinctBy, List.filter_append, List.cons_append]
      congr 2
      by_cases earlier : ∃ b ∈ rest, key b = key a
      · have earlier' : ∃ b ∈ c :: rest, key b = key a := by
          obtain ⟨b, member, same⟩ := earlier
          exact ⟨b, List.mem_cons_of_mem c member, same⟩
        rw [if_pos earlier, if_pos earlier']
        rfl
      · rw [if_neg earlier, List.filter_singleton]
        by_cases same : key a = key c
        · rw [if_pos ⟨c, List.mem_cons_self, same.symm⟩]
          simp [same]
        · rw [if_neg]
          · simp [same]
          · rintro ⟨b, member, same'⟩
            cases List.mem_cons.mp member with
            | inl first => exact same (first ▸ same').symm
            | inr later => exact earlier ⟨b, later, same'⟩

/-- The last element is a repetition if its key was seen or an element before it has it. -/
theorem repeatsFrom_concat (key : α → β) (seen : List β) (list : List α) (a : α) :
    repeatsFrom key seen (list ++ [a]) =
      repeatsFrom key seen list ++
        if key a ∈ seen ∨ ∃ b ∈ list, key b = key a then [a] else [] := by
  induction list generalizing seen with
  | nil => simp [repeatsFrom]
  | cons c rest ih =>
      rw [List.cons_append, repeatsFrom, repeatsFrom]
      by_cases known : key c ∈ seen
      · rw [if_pos known, if_pos known, ih, List.cons_append]
        have same : (key a ∈ seen ∨ ∃ b ∈ rest, key b = key a) ↔
            (key a ∈ seen ∨ ∃ b ∈ c :: rest, key b = key a) := by
          constructor
          · rintro (listed | ⟨b, member, same⟩)
            · exact .inl listed
            · exact .inr ⟨b, List.mem_cons_of_mem c member, same⟩
          · rintro (listed | ⟨b, member, same⟩)
            · exact .inl listed
            · cases List.mem_cons.mp member with
              | inl first => exact .inl (same ▸ first ▸ known)
              | inr later => exact .inr ⟨b, later, same⟩
        simp only [same]
      · rw [if_neg known, if_neg known, ih]
        have same : (key a ∈ key c :: seen ∨ ∃ b ∈ rest, key b = key a) ↔
            (key a ∈ seen ∨ ∃ b ∈ c :: rest, key b = key a) := by
          simp only [List.mem_cons, exists_eq_or_imp, eq_comm (a := key a)]
          tauto
        simp only [same]

theorem repeatsBy_concat (key : α → β) (list : List α) (a : α) :
    repeatsBy key (list ++ [a]) =
      repeatsBy key list ++ if ∃ b ∈ list, key b = key a then [a] else [] := by
  unfold repeatsBy
  rw [repeatsFrom_concat]
  simp

/-- Nothing is dropped from elements with different keys. -/
theorem distinctBy_eq_self {key : α → β} {list : List α}
    (distinct : list.Pairwise fun a b => key a ≠ key b) : distinctBy key list = list := by
  induction distinct with
  | nil => rfl
  | @cons a rest others _ ih =>
      rw [distinctBy, ih, List.filter_eq_self.mpr]
      exact fun b hb => by simpa using (others b hb).symm

/-- Of elements with different keys at most one has a key. -/
theorem filter_eq_find?_toList {key : α → β} {list : List α}
    (distinct : list.Pairwise fun a b => key a ≠ key b) (k : β) :
    list.filter (fun a => key a = k) = (list.find? fun a => key a = k).toList := by
  induction distinct with
  | nil => rfl
  | @cons a rest others _ ih =>
      by_cases same : key a = k
      · have none : rest.filter (fun b => key b = k) = [] :=
          List.filter_eq_nil_iff.mpr fun b hb => by
            simpa [← same] using (others b hb).symm
        rw [List.filter_cons_of_pos (by simpa using same),
          List.find?_cons_of_pos (by simpa using same), none]
        rfl
      · rw [List.filter_cons_of_neg (by simpa using same),
          List.find?_cons_of_neg (by simpa using same), ih]

end Distinct

/-! ## The fate of a pair -/

namespace AliasPair

/-- What becomes of a pair. -/
inductive Fate where
  /-- It is passed over, since one of its titles is empty once it is cleaned. -/
  | blank
  /-- It is registered. -/
  | kept
  /-- It is ignored, and the journal says so. -/
  | late
deriving DecidableEq, Repr

/-- What becomes of a pair that comes after some others: the first pair of its canonical title
whose alternate name is not empty once it is cleaned is kept. -/
def fate (before : List AliasPair) (p : AliasPair) : Fate :=
  if p.canonicalKey = [] ∨ p.alternateKey = [] then .blank
  else if ∃ q ∈ before, q.canonicalKey = p.canonicalKey ∧ q.alternateKey ≠ [] then .late
  else .kept

/-- The pairs of a list with a fate, in their order.  The pairs `before` come before the list. -/
def withFateFrom (f : Fate) (before : List AliasPair) : List AliasPair → List AliasPair
  | [] => []
  | p :: rest =>
      (if p.fate before = f then [p] else []) ++ withFateFrom f (before ++ [p]) rest
termination_by structural pairs => pairs

/-- The pairs of a list with a fate, in their order. -/
def withFate (f : Fate) (pairs : List AliasPair) : List AliasPair := withFateFrom f [] pairs

theorem withFateFrom_concat (f : Fate) (before pairs : List AliasPair) (p : AliasPair) :
    withFateFrom f before (pairs ++ [p]) =
      withFateFrom f before pairs ++ if p.fate (before ++ pairs) = f then [p] else [] := by
  induction pairs generalizing before with
  | nil => simp [withFateFrom]
  | cons q rest ih =>
      rw [List.cons_append, withFateFrom, withFateFrom, ih, List.append_assoc, List.append_assoc,
        List.singleton_append]

/-- Appending a pair leaves the fates of the others alone. -/
theorem withFate_concat (f : Fate) (pairs : List AliasPair) (p : AliasPair) :
    withFate f (pairs ++ [p]) = withFate f pairs ++ if p.fate pairs = f then [p] else [] :=
  withFateFrom_concat f [] pairs p

theorem isUsable_iff {p : AliasPair} :
    p.isUsable = true ↔ ¬ (p.canonicalKey = [] ∨ p.alternateKey = []) := by
  unfold isUsable
  rw [Bool.and_eq_true, decide_eq_true_eq, decide_eq_true_eq, not_or]

/-- The pairs before that count are those that are usable. -/
theorem exists_usable_iff {before : List AliasPair} {p : AliasPair} (usable : p.isUsable = true) :
    (∃ q ∈ before, q.canonicalKey = p.canonicalKey ∧ q.alternateKey ≠ []) ↔
      ∃ q ∈ before.filter isUsable, q.canonicalKey = p.canonicalKey := by
  have titled : p.canonicalKey ≠ [] := fun empty => isUsable_iff.mp usable (.inl empty)
  constructor
  · rintro ⟨q, member, same, named⟩
    refine ⟨q, List.mem_filter.mpr ⟨member, isUsable_iff.mpr ?_⟩, same⟩
    rintro (empty | empty)
    · exact titled (same ▸ empty)
    · exact named empty
  · rintro ⟨q, member, same⟩
    obtain ⟨member, usable'⟩ := List.mem_filter.mp member
    exact ⟨q, member, same, fun empty => isUsable_iff.mp usable' (.inr empty)⟩

theorem fate_of_not_usable {before : List AliasPair} {p : AliasPair}
    (blank : ¬ p.isUsable = true) : p.fate before = .blank := by
  unfold fate
  rw [isUsable_iff, not_not] at blank
  rw [if_pos blank]

theorem fate_of_usable {before : List AliasPair} {p : AliasPair} (usable : p.isUsable = true) :
    p.fate before =
      if ∃ q ∈ before.filter isUsable, q.canonicalKey = p.canonicalKey then .late else .kept := by
  unfold fate
  rw [if_neg (isUsable_iff.mp usable)]
  simp only [exists_usable_iff usable]

/-- Every pair has one of the three fates. -/
theorem length_withFate (pairs : List AliasPair) :
    (withFate .kept pairs).length + (withFate .late pairs).length +
      (withFate .blank pairs).length = pairs.length := by
  induction pairs using List.reverseRecOn with
  | nil => rfl
  | append_singleton pairs p ih =>
      simp only [withFate_concat, List.length_append]
      cases p.fate pairs with
      | blank => simp; omega
      | kept => simp; omega
      | late => simp; omega

end AliasPair

namespace AliasRegister

open AliasPair (Fate fate withFate)

/-! ## The pairs of a register and of the journal -/

/-- What picks a usable pair by whether its canonical key was there before picks the pairs with the
fate that this decides. -/
theorem pick_filter_eq_withFate {f : Fate} (notBlank : f ≠ .blank)
    {pick : List AliasPair → List AliasPair} (pick_nil : pick [] = [])
    (pick_concat : ∀ pairs p, pick (pairs ++ [p]) = pick pairs ++
      if (if ∃ q ∈ pairs, q.canonicalKey = p.canonicalKey then Fate.late else .kept) = f then [p]
      else [])
    (pairs : List AliasPair) : pick (pairs.filter AliasPair.isUsable) = withFate f pairs := by
  induction pairs using List.reverseRecOn with
  | nil => exact pick_nil
  | append_singleton pairs p ih =>
      rw [AliasPair.withFate_concat, List.filter_append, ← ih]
      by_cases usable : p.isUsable = true
      · rw [List.filter_cons_of_pos usable, List.filter_nil, pick_concat,
          AliasPair.fate_of_usable usable]
      · -- A blank pair is not picked, and it does not make a later one late.
        rw [List.filter_cons_of_neg usable, List.filter_nil, List.append_nil,
          AliasPair.fate_of_not_usable usable, if_neg notBlank.symm, List.append_nil]

/-- The register has the pairs that are kept. -/
theorem pairs_ofPairs (pairs : List AliasPair) : (ofPairs pairs).pairs = withFate .kept pairs := by
  refine pick_filter_eq_withFate (by decide) rfl ?_ pairs
  intro before p
  rw [distinctBy_concat]
  split
  · rfl
  · rfl

/-- The pairs that come too late are those that are ignored. -/
theorem lateComers_eq (pairs : List AliasPair) : lateComers pairs = withFate .late pairs := by
  refine pick_filter_eq_withFate (by decide) rfl ?_ pairs
  intro before p
  rw [repeatsBy_concat]
  split
  · rfl
  · rfl

/-- A register made of the pairs of a register is the same register. -/
theorem pairs_ofPairs_pairs (register : AliasRegister) :
    (ofPairs register.pairs).pairs = register.pairs := by
  have usable : register.pairs.filter AliasPair.isUsable = register.pairs :=
    List.filter_eq_self.mpr register.usable
  show distinctBy _ (register.pairs.filter _) = register.pairs
  rw [usable]
  exact distinctBy_eq_self register.distinct

/-- Nothing is ignored while a register is made of the pairs of a register. -/
theorem lateComers_pairs (register : AliasRegister) : lateComers register.pairs = [] := by
  rw [lateComers_eq]
  -- All its pairs are kept, so that none is left to be ignored.
  have counted := AliasPair.length_withFate register.pairs
  rw [← pairs_ofPairs, pairs_ofPairs_pairs] at counted
  exact List.length_eq_zero_iff.mp (by omega)

/-! ## Reading a register -/

/-- A canonical title has the alternate name of the one pair with its key. -/
theorem alternates_eq (register : AliasRegister) (title : Text) :
    register.alternates title =
      ((register.pairs.find? fun p => p.canonicalKey = Title.key title).map
        AliasPair.alternate).toList := by
  unfold alternates
  rw [filter_eq_find?_toList register.distinct]
  cases register.pairs.find? fun p => p.canonicalKey = Title.key title with
  | none => rfl
  | some p => rfl

theorem mem_alternates {register : AliasRegister} {title name : Text} :
    name ∈ register.alternates title ↔
      ∃ p ∈ register.pairs, p.canonicalKey = Title.key title ∧ p.alternate = name := by
  unfold alternates
  simp [and_assoc]

theorem mem_canonicals {register : AliasRegister} {name title : Text} :
    title ∈ register.canonicals name ↔
      ∃ p ∈ register.pairs, p.alternateKey = Title.key name ∧ p.canonical = title := by
  unfold canonicals
  simp [and_assoc]

theorem contains_iff {register : AliasRegister} {title : Text} :
    register.contains title = true ↔ register.alternates title ≠ [] := by
  unfold contains
  rw [List.any_eq_true]
  constructor
  · rintro ⟨p, registered, same⟩
    exact List.ne_nil_of_mem
      (mem_alternates.mpr ⟨p, registered, of_decide_eq_true same, rfl⟩)
  · intro named
    obtain ⟨name, listed⟩ := List.exists_mem_of_ne_nil _ named
    obtain ⟨p, registered, same, -⟩ := mem_alternates.mp listed
    exact ⟨p, registered, decide_eq_true same⟩

/-- The two directions tell of the same pairs. -/
theorem exists_alternate_iff_exists_canonical (register : AliasRegister) (title name : Text) :
    (∃ a ∈ register.alternates title, Title.key a = Title.key name) ↔
      ∃ c ∈ register.canonicals name, Title.key c = Title.key title := by
  constructor
  · rintro ⟨a, listed, same⟩
    obtain ⟨p, registered, same', rfl⟩ := mem_alternates.mp listed
    exact ⟨p.canonical, mem_canonicals.mpr ⟨p, registered, same, rfl⟩, same'⟩
  · rintro ⟨c, listed, same⟩
    obtain ⟨p, registered, same', rfl⟩ := mem_canonicals.mp listed
    exact ⟨p.alternate, mem_alternates.mpr ⟨p, registered, same, rfl⟩, same'⟩

end AliasRegister

/-! ## Making a register step by step -/

/-- A register while it is made: its pairs, the pairs that were ignored, and an index for each
direction, in which titles are listed under the keys of the other side. -/
structure Registration where
  pairs : List AliasPair
  ignored : List AliasPair
  /-- The alternate names of a canonical key. -/
  alternatesOf : Text → List Text
  /-- The canonical titles of the key of an alternate name. -/
  canonicalsOf : Text → List Text

namespace Registration

open AliasRegister (ofPairs lateComers)

/-- Before the first pair. -/
def blank : Registration := ⟨[], [], fun _ => [], fun _ => []⟩

/-- One more pair. -/
def enter (r : Registration) (p : AliasPair) : Registration :=
  if p.canonicalKey = [] ∨ p.alternateKey = [] then r
  else if r.alternatesOf p.canonicalKey ≠ [] then { r with ignored := r.ignored ++ [p] }
  else
    { r with
      pairs := r.pairs ++ [p]
      alternatesOf := Function.update r.alternatesOf p.canonicalKey
        (r.alternatesOf p.canonicalKey ++ [p.alternate])
      canonicalsOf := Function.update r.canonicalsOf p.alternateKey
        (r.canonicalsOf p.alternateKey ++ [p.canonical]) }

/-- What has been made of some pairs: the register of these pairs, and indexes that list its
pairs in both directions. -/
structure InStep (r : Registration) (given : List AliasPair) : Prop where
  pairs : r.pairs = (ofPairs given).pairs
  ignored : r.ignored = lateComers given
  alternatesOf : ∀ k,
    r.alternatesOf k = (r.pairs.filter fun p => p.canonicalKey = k).map AliasPair.alternate
  canonicalsOf : ∀ k,
    r.canonicalsOf k = (r.pairs.filter fun p => p.alternateKey = k).map AliasPair.canonical

theorem inStep_blank : blank.InStep [] := ⟨rfl, rfl, fun _ => rfl, fun _ => rfl⟩

variable {r : Registration} {given : List AliasPair}

/-- The index knows the canonical keys of the usable pairs. -/
theorem InStep.alternatesOf_ne_nil_iff (h : r.InStep given) {k : Text} :
    r.alternatesOf k ≠ [] ↔ ∃ q ∈ given.filter AliasPair.isUsable, q.canonicalKey = k := by
  rw [h.alternatesOf, Ne, List.map_eq_nil_iff, List.filter_eq_nil_iff, h.pairs]
  rw [← exists_mem_distinctBy_iff]
  simp [AliasRegister.ofPairs]

/-- A list in step with an index stays so if a title is entered in both. -/
theorem update_filter_map {index : Text → List Text} {pairs : List AliasPair}
    {key title : AliasPair → Text} (same : ∀ k, index k = (pairs.filter (key · = k)).map title)
    (p : AliasPair) (k : Text) :
    Function.update index (key p) (index (key p) ++ [title p]) k =
      ((pairs ++ [p]).filter (key · = k)).map title := by
  rw [List.filter_append, List.map_append, ← same k]
  by_cases here : k = key p
  · subst here
    simp
  · rw [Function.update_of_ne here]
    simp [Ne.symm here]

/-- One more pair keeps the indexes in step. -/
theorem InStep.enter (h : r.InStep given) (p : AliasPair) : (r.enter p).InStep (given ++ [p]) := by
  have pairs := AliasRegister.pairs_ofPairs (given ++ [p])
  have ignored := AliasRegister.lateComers_eq (given ++ [p])
  rw [AliasPair.withFate_concat, ← AliasRegister.pairs_ofPairs, ← h.pairs] at pairs
  rw [AliasPair.withFate_concat, ← AliasRegister.lateComers_eq, ← h.ignored] at ignored
  unfold Registration.enter
  by_cases usable : p.isUsable = true
  · rw [if_neg (AliasPair.isUsable_iff.mp usable)]
    rw [AliasPair.fate_of_usable usable] at pairs ignored
    -- That the index knows the key is that an earlier usable pair has it.
    by_cases known : r.alternatesOf p.canonicalKey ≠ []
    · rw [if_pos known]
      rw [if_pos (h.alternatesOf_ne_nil_iff.mp known)] at pairs ignored
      exact ⟨by simpa using pairs.symm, by simpa using ignored.symm, h.alternatesOf, h.canonicalsOf⟩
    · rw [if_neg known]
      rw [if_neg (mt h.alternatesOf_ne_nil_iff.mpr known)] at pairs ignored
      refine ⟨by simpa using pairs.symm, by simpa using ignored.symm, ?_, ?_⟩
      · exact update_filter_map h.alternatesOf p
      · exact update_filter_map h.canonicalsOf p
  · rw [if_pos (not_not.mp (mt AliasPair.isUsable_iff.mpr usable))]
    rw [AliasPair.fate_of_not_usable usable] at pairs ignored
    exact ⟨by simpa using pairs.symm, by simpa using ignored.symm, h.alternatesOf, h.canonicalsOf⟩

/-- The indexes are in step after any list of pairs. -/
theorem inStep_enterAll (given : List AliasPair) : (given.foldl enter blank).InStep given := by
  induction given using List.reverseRecOn with
  | nil => exact inStep_blank
  | append_singleton given p ih =>
      rw [List.foldl_concat]
      exact ih.enter p

end Registration

namespace AliasRegister

open AliasPair (withFate)

/-- Every pair of a list is registered, noted or blank. -/
structure Accounts (register : AliasRegister) (pairs : List AliasPair) : Prop where
  kept : register.pairs = withFate .kept pairs
  /-- The journal has one event for each pair that comes too late. -/
  noted : registrationEvents pairs =
    (withFate .late pairs).map fun p => Event.aliasIgnored p.canonical p.alternate
  /-- All of them are details. -/
  details : (registrationEvents pairs).map Event.level =
    List.replicate (withFate .late pairs).length .debug
  counted : register.pairs.length + (registrationEvents pairs).length +
    (withFate .blank pairs).length = pairs.length

/-- What a register answers is what its pairs say, in both directions. -/
structure AnswersByPairs (register : AliasRegister) : Prop where
  /-- A title has the alternate name of its one pair, or none. -/
  alternates : ∀ title, register.alternates title =
    ((register.pairs.find? fun p => p.canonicalKey = Title.key title).map
      AliasPair.alternate).toList
  contains : ∀ title, register.contains title = true ↔ register.alternates title ≠ []
  canonicals : ∀ name title, title ∈ register.canonicals name ↔
    ∃ p ∈ register.pairs, p.alternateKey = Title.key name ∧ p.canonical = title
  /-- The two directions tell of the same pairs. -/
  agree : ∀ title name, (∃ a ∈ register.alternates title, Title.key a = Title.key name) ↔
    ∃ c ∈ register.canonicals name, Title.key c = Title.key title

/-- A registration has the pairs of a register, and its indexes give the answers of the register. -/
structure IsIndexedBy (register : AliasRegister) (made : Registration) : Prop where
  pairs : made.pairs = register.pairs
  alternatesOf : ∀ title, made.alternatesOf (Title.key title) = register.alternates title
  canonicalsOf : ∀ name, made.canonicalsOf (Title.key name) = register.canonicals name

/-- A register made again of its own pairs is the same, and nothing is noted. -/
structure IsRemade (register : AliasRegister) : Prop where
  pairs : (ofPairs register.pairs).pairs = register.pairs
  unnoted : registrationEvents register.pairs = []

theorem accounts_ofPairs (pairs : List AliasPair) : (ofPairs pairs).Accounts pairs := by
  have kept : (ofPairs pairs).pairs = withFate .kept pairs := pairs_ofPairs pairs
  have noted : registrationEvents pairs =
      (withFate .late pairs).map (fun p => Event.aliasIgnored p.canonical p.alternate) := by
    unfold registrationEvents
    rw [lateComers_eq]
  refine ⟨kept, noted, ?_, ?_⟩
  · rw [noted, List.map_map]
    exact List.map_const'
  · rw [noted, List.length_map, kept]
    exact AliasPair.length_withFate pairs

theorem answersByPairs (register : AliasRegister) : register.AnswersByPairs where
  alternates := register.alternates_eq
  contains _ := contains_iff
  canonicals _ _ := mem_canonicals
  agree := register.exists_alternate_iff_exists_canonical

theorem isIndexedBy_of_inStep {made : Registration} {pairs : List AliasPair}
    (inStep : made.InStep pairs) : (ofPairs pairs).IsIndexedBy made where
  pairs := inStep.pairs
  alternatesOf title := by
    rw [inStep.alternatesOf, inStep.pairs]
    rfl
  canonicalsOf name := by
    rw [inStep.canonicalsOf, inStep.pairs]
    rfl

theorem isRemade (register : AliasRegister) : register.IsRemade where
  pairs := pairs_ofPairs_pairs register
  unnoted := by
    unfold registrationEvents
    rw [lateComers_pairs]
    rfl

/-- A register made of some pairs has the first usable pair of each canonical title, and every
other pair is noted or blank.  It answers by its pairs, in both directions.  Making it step by step
with two indexes gives the same pairs, the same notes and the same answers, and making it again of
its own pairs gives the same register. -/
theorem ofPairs_represents (pairs : List AliasPair) :
    let register := ofPairs pairs
    let made := pairs.foldl Registration.enter .blank
    register.Accounts pairs ∧ register.AnswersByPairs ∧
      register.IsIndexedBy made ∧ made.ignored = lateComers pairs ∧ register.IsRemade := by
  intro register made
  have inStep : made.InStep pairs := Registration.inStep_enterAll pairs
  exact ⟨accounts_ofPairs pairs, register.answersByPairs, isIndexedBy_of_inStep inStep,
    inStep.ignored, register.isRemade⟩

end AliasRegister

end ReleaseCatalog
