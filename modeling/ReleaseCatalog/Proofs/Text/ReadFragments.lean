import Mathlib.Data.List.Infix
import ReleaseCatalog.Proofs.Text.Scanning
import ReleaseCatalog.Text.Reader

/-!
# The fragments that a reader reads

A reader *reads* a fragment if it can read the whole of it.  It is *local* if it
sees no further than that: the texts that it may leave of a text are those behind
the fragments at its front that it reads.  Readers that do not ask for the next
character are local, and of a local reader it is enough to know the fragments.

`HasForms f forms r` bounds them: renamed by `f`, each is one of finitely many forms.
With the digits renamed to one and the letters to small ones, a pattern of words,
digits and options has few forms, and a question about its fragments is decided on
the forms.
-/

namespace ReleaseCatalog

namespace Reader

variable {r first second : Reader} {readers : List Reader} {p : Char → Bool} {t : Text}

/-- The reader can read the whole of a fragment. -/
def Reads (r : Reader) (fragment : Text) : Prop := [] ∈ r fragment

theorem readsAll_iff : r.readsAll t = true ↔ r.Reads t := List.contains_iff_mem

/-- What may remain of a text is what follows a fragment that is read. -/
def Local (r : Reader) : Prop :=
  ∀ t rest, rest ∈ r t ↔ ∃ fragment, t = fragment ++ rest ∧ r.Reads fragment

/-! ## What is read -/

@[simp] theorem reads_nothing : Reads nothing t ↔ t = [] := by
  unfold Reads nothing
  rw [List.mem_singleton, eq_comm]

@[simp] theorem reads_one : Reads (one p) t ↔ ∃ c, t = [c] ∧ p c = true := by
  unfold Reads
  cases t with
  | nil => simp [one]
  | cons c rest =>
      show [] ∈ (if p c then [rest] else []) ↔ _
      by_cases h : p c = true
      · rw [if_pos h, List.mem_singleton]
        constructor
        · intro empty
          exact ⟨c, by rw [← empty], h⟩
        · rintro ⟨d, split, -⟩
          exact (List.cons.inj split).2.symm
      · rw [if_neg h]
        constructor
        · intro member
          cases member
        · rintro ⟨d, split, hd⟩
          rw [← (List.cons.inj split).1] at hd
          exact absurd hd h

theorem Local.reads_seq (h : Local first) :
    Reads (seq first second) t ↔ ∃ x y, t = x ++ y ∧ Reads first x ∧ Reads second y := by
  unfold Reads seq
  rw [List.mem_flatMap]
  constructor
  · rintro ⟨mid, left, right⟩
    obtain ⟨x, split, reads⟩ := (h t mid).mp left
    exact ⟨x, mid, split, reads, right⟩
  · rintro ⟨x, y, split, reads, right⟩
    exact ⟨y, (h t y).mpr ⟨x, split, reads⟩, right⟩

theorem reads_choice : Reads (choice readers) t ↔ ∃ r ∈ readers, Reads r t := List.mem_flatMap

theorem reads_optional : Reads (optional r) t ↔ Reads r t ∨ t = [] := by
  unfold Reads optional
  rw [List.mem_append, List.mem_singleton, eq_comm (a := [])]

/-! ## Local readers -/

theorem local_nothing : Local nothing := by
  intro t rest
  simp [nothing, eq_comm]

theorem local_one (p : Char → Bool) : Local (one p) := by
  intro t rest
  cases t with
  | nil => simp [one]
  | cons c cs =>
      show rest ∈ (if p c then [cs] else []) ↔ _
      by_cases h : p c = true
      · rw [if_pos h, List.mem_singleton]
        constructor
        · rintro rfl
          exact ⟨[c], rfl, reads_one.mpr ⟨c, rfl, h⟩⟩
        · rintro ⟨fragment, split, reads⟩
          obtain ⟨d, rfl, -⟩ := reads_one.mp reads
          exact (List.cons.inj split).2.symm
      · rw [if_neg h]
        constructor
        · intro member
          cases member
        · rintro ⟨fragment, split, reads⟩
          obtain ⟨d, rfl, hd⟩ := reads_one.mp reads
          rw [← (List.cons.inj split).1] at hd
          exact absurd hd h

theorem Local.seq (h : Local first) (h' : Local second) : Local (seq first second) := by
  intro t rest
  constructor
  · intro member
    obtain ⟨mid, left, right⟩ := List.mem_flatMap.mp member
    obtain ⟨x, rfl, reads⟩ := (h t mid).mp left
    obtain ⟨y, rfl, reads'⟩ := (h' mid rest).mp right
    exact ⟨x ++ y, (List.append_assoc ..).symm, h.reads_seq.mpr ⟨x, y, rfl, reads, reads'⟩⟩
  · rintro ⟨fragment, rfl, reads⟩
    obtain ⟨x, y, rfl, reads, reads'⟩ := h.reads_seq.mp reads
    refine List.mem_flatMap.mpr ⟨y ++ rest, (h _ _).mpr ⟨x, ?_, reads⟩, ?_⟩
    · rw [List.append_assoc]
    · exact (h' _ _).mpr ⟨y, rfl, reads'⟩

theorem Local.choice (h : ∀ r ∈ readers, Local r) : Local (choice readers) := by
  intro t rest
  constructor
  · intro member
    obtain ⟨r, hr, found⟩ := List.mem_flatMap.mp member
    obtain ⟨fragment, split, reads⟩ := (h r hr t rest).mp found
    exact ⟨fragment, split, reads_choice.mpr ⟨r, hr, reads⟩⟩
  · rintro ⟨fragment, split, reads⟩
    obtain ⟨r, hr, reads⟩ := reads_choice.mp reads
    exact List.mem_flatMap.mpr ⟨r, hr, (h r hr t rest).mpr ⟨fragment, split, reads⟩⟩

theorem Local.optional (h : Local r) : Local (optional r) := by
  intro t rest
  constructor
  · intro member
    cases List.mem_append.mp member with
    | inl found =>
        obtain ⟨fragment, split, reads⟩ := (h t rest).mp found
        exact ⟨fragment, split, reads_optional.mpr (.inl reads)⟩
    | inr whole => exact ⟨[], (List.mem_singleton.mp whole).symm, reads_optional.mpr (.inr rfl)⟩
  · rintro ⟨fragment, rfl, reads⟩
    cases reads_optional.mp reads with
    | inl reads => exact List.mem_append_left _ ((h _ _).mpr ⟨fragment, rfl, reads⟩)
    | inr empty =>
        subst empty
        exact List.mem_append_right _ (List.mem_singleton.mpr rfl)

theorem Local.shortens (h : Local r) : Shortens r := by
  intro t rest member
  obtain ⟨fragment, split, -⟩ := (h t rest).mp member
  exact ⟨fragment, split.symm⟩

/-- In the place of an occurrence the reader can leave what stands behind it. -/
theorem Shortens.of_mem_occurrences (h : Shortens r) {boundary : Option Char → Bool}
    {o : Occurrence Unit} (member : o ∈ (Finder.ofReader boundary r).occurrences t) :
    boundary o.before.getLast? = true ∧ o.after ∈ r (o.fragment ++ o.after) := by
  obtain ⟨length, found, taken, -⟩ := Finder.found_of_mem_occurrences member
  unfold Finder.ofReader at found
  split at found
  · next opens =>
      obtain ⟨rest, first, answer⟩ := Option.map_eq_some_iff.mp found
      have left := List.mem_of_head? first
      obtain ⟨fragment, split⟩ := h _ rest left
      have long : (o.fragment ++ o.after).length - rest.length = length + 1 :=
        congrArg Prod.snd answer
      rw [← split, List.length_append, Nat.add_sub_cancel] at long
      rw [← split, ← long, List.take_left] at taken
      rw [taken] at split
      rw [List.append_cancel_left split] at left
      exact ⟨opens, left⟩
  · cases found

/-- What remains after a fragment that is read only in front of certain characters. -/
theorem mem_seq_before {q : Option Char → Bool} {rest : Text} :
    rest ∈ seq r (before q) t ↔ rest ∈ r t ∧ q rest.head? = true := by
  unfold seq before
  rw [List.mem_flatMap]
  constructor
  · rintro ⟨mid, left, right⟩
    split at right
    · next ahead =>
        rw [List.mem_singleton.mp right]
        exact ⟨left, ahead⟩
    · cases right
  · rintro ⟨left, ahead⟩
    refine ⟨rest, left, ?_⟩
    rw [if_pos ahead]
    exact List.mem_singleton.mpr rfl

/-! ## Forms -/

variable {f : Char → Char} {forms forms' : List Text}

/-- A local reader, each of whose fragments, renamed, is one of the forms. -/
structure HasForms (f : Char → Char) (forms : List Text) (r : Reader) : Prop where
  isLocal : Local r
  mem_forms : ∀ fragment, r.Reads fragment → fragment.map f ∈ forms

/-- The texts of one list with those of another behind them. -/
def appended (forms forms' : List Text) : List Text := forms.flatMap fun x => forms'.map (x ++ ·)

theorem hasForms_nothing : HasForms f [[]] nothing := by
  refine ⟨local_nothing, fun fragment reads => ?_⟩
  rw [reads_nothing.mp reads]
  exact List.mem_cons_self

theorem hasForms_one (h : ∀ c, p c = true → [f c] ∈ forms) : HasForms f forms (one p) := by
  refine ⟨local_one p, fun fragment reads => ?_⟩
  obtain ⟨c, rfl, hc⟩ := reads_one.mp reads
  exact h c hc

theorem HasForms.seq (h : HasForms f forms first) (h' : HasForms f forms' second) :
    HasForms f (appended forms forms') (seq first second) := by
  refine ⟨h.isLocal.seq h'.isLocal, fun fragment reads => ?_⟩
  obtain ⟨x, y, rfl, reads, reads'⟩ := h.isLocal.reads_seq.mp reads
  rw [List.map_append]
  exact List.mem_flatMap.mpr ⟨_, h.mem_forms x reads, List.mem_map_of_mem (h'.mem_forms y reads')⟩

/-- The readers of a row have their forms one after the other. -/
theorem HasForms.all {formLists : List (List Text)}
    (h : List.Forall₂ (HasForms f) formLists readers) :
    HasForms f (formLists.foldr appended [[]]) (all readers) := by
  induction h with
  | nil => exact hasForms_nothing
  | cons head _ ih => exact head.seq ih

theorem HasForms.optional (h : HasForms f forms r) : HasForms f ([] :: forms) (optional r) := by
  refine ⟨h.isLocal.optional, fun fragment reads => ?_⟩
  cases reads_optional.mp reads with
  | inl reads => exact List.mem_cons_of_mem _ (h.mem_forms fragment reads)
  | inr empty => rw [empty]; exact List.mem_cons_self

theorem HasForms.mono (h : HasForms f forms r) (listed : forms ⊆ forms') : HasForms f forms' r :=
  ⟨h.isLocal, fun fragment reads => listed (h.mem_forms fragment reads)⟩

/-- Each reader of a choice has its own forms. -/
theorem HasForms.choice {formLists : List (List Text)}
    (h : List.Forall₂ (HasForms f) formLists readers) :
    HasForms f formLists.flatten (choice readers) := by
  have each : ∀ r ∈ readers, HasForms f formLists.flatten r := by
    induction h with
    | nil => intro r hr; cases hr
    | cons head _ ih =>
        intro r hr
        rw [List.flatten_cons]
        cases List.mem_cons.mp hr with
        | inl same => subst same; exact head.mono (List.subset_append_left _ _)
        | inr later => exact (ih r later).mono (List.subset_append_right _ _)
  refine ⟨Local.choice fun r hr => (each r hr).isLocal, fun fragment reads => ?_⟩
  obtain ⟨r, hr, found⟩ := reads_choice.mp reads
  exact (each r hr).mem_forms fragment found

/-- The form of a word is the word itself, renamed. -/
theorem hasForms_word (h : ∀ c, f (caselessLetter c) = f c) (w : String) :
    HasForms f [w.toList.map f] (word w) := by
  unfold word
  induction w.toList with
  | nil => exact hasForms_nothing
  | cons l rest ih =>
      have letter : HasForms f [[f l]] (one fun c => caselessLetter c == l) := by
        refine hasForms_one fun c hc => ?_
        rw [← h c, beq_iff_eq.mp hc]
        exact List.mem_cons_self
      exact letter.seq ih

end Reader

end ReleaseCatalog
