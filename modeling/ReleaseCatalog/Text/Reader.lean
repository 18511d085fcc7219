import ReleaseCatalog.Text.Basic
import ReleaseCatalog.Unicode.Decimal

/-!
# Readers of fragments

A *reader* tells how a fragment at the front of a text can be read: it lists
the texts that may remain after it, the preferred one first.  A list and not
one rest, because what follows a fragment can rule out the preferred reading
and leave a shorter one.

Readers are put together by sequence, choice and option.  Repetition is greedy:
the longest run comes first.  `Reader.Shortens` says that every rest is an end
of the text, and each combinator keeps that.

Letters are compared without regard to case.  Besides its capital, four
letters of other alphabets count as an ASCII letter: the long s as `s`, the
Kelvin sign as `k`, and the dotted capital and the dotless small i as `i`.
-/

namespace ReleaseCatalog

/-! ## Letters without case -/

/-- The small ASCII letter or other character that stands for a character when case is ignored. -/
def caselessLetter (c : Char) : Char :=
  if c = '\u017F' then 's'
  else if c = '\u212A' then 'k'
  else if c = '\u0131' ∨ c = '\u0130' then 'i'
  else c.toLower

/-! ## Readers -/

/-- The texts that may remain after a fragment at the front, the preferred one first. -/
abbrev Reader := Text → List Text

namespace Reader

/-- Reads nothing. -/
def nothing : Reader := fun t => [t]

/-- Reads one character that satisfies `p`. -/
def one (p : Char → Bool) : Reader
  | [] => []
  | c :: rest => if p c then [rest] else []

/-- Reads one fragment after another. -/
def seq (first second : Reader) : Reader := fun t => (first t).flatMap second

/-- Reads fragments one after another. -/
def all (readers : List Reader) : Reader := readers.foldr seq nothing

/-- Reads by any of the readers, an earlier one preferred. -/
def choice (readers : List Reader) : Reader := fun t => readers.flatMap fun r => r t

/-- Reads a fragment if there is one. -/
def optional (r : Reader) : Reader := fun t => r t ++ [t]

/-- Reads a run of characters that satisfy `p`, as long as possible and perhaps empty. -/
def many (p : Char → Bool) : Reader
  | [] => [[]]
  | c :: rest => if p c then many p rest ++ [c :: rest] else [c :: rest]
termination_by structural t => t

/-- Reads a run of characters that satisfy `p`, as long as possible and not empty. -/
def many1 (p : Char → Bool) : Reader := seq (one p) (many p)

/-- Reads exactly `n` characters that satisfy `p`. -/
def exactly (p : Char → Bool) : Nat → Reader
  | 0 => nothing
  | n + 1 => seq (one p) (exactly p n)

/-- Reads at most `n` characters that satisfy `p`, as many as possible. -/
def upTo (p : Char → Bool) : Nat → Reader
  | 0 => nothing
  | n + 1 => optional (seq (one p) (upTo p n))

/-- Reads from `lo` to `hi` characters that satisfy `p`, as many as possible. -/
def between (p : Char → Bool) (lo hi : Nat) : Reader := seq (exactly p lo) (upTo p (hi - lo))

/-- Reads a word without regard to case.  The word is written in small letters. -/
def word (w : String) : Reader :=
  all (w.toList.map fun l => one fun c => caselessLetter c == l)

/-- Reads nothing, and only where the next character, if any, satisfies `p`. -/
def before (p : Option Char → Bool) : Reader := fun t => if p t.head? then [t] else []

/-- Whether a text can be read whole. -/
def readsAll (r : Reader) (t : Text) : Bool := (r t).contains []

/-! ## Every rest is an end of the text -/

/-- What remains after a fragment is an end of the text. -/
def Shortens (r : Reader) : Prop := ∀ t, ∀ rest ∈ r t, rest <:+ t

theorem shortens_nothing : Shortens nothing := by
  intro t rest h
  obtain rfl := List.mem_singleton.mp h
  exact List.suffix_refl rest

theorem shortens_one (p : Char → Bool) : Shortens (one p) := by
  intro t rest h
  cases t with
  | nil => cases h
  | cons c cs =>
      by_cases hp : p c
      · simp only [one, hp, if_true, List.mem_singleton] at h
        rw [h]
        exact List.suffix_cons c cs
      · simp [one, hp] at h

theorem Shortens.seq {first second : Reader} (h1 : Shortens first) (h2 : Shortens second) :
    Shortens (seq first second) := by
  intro t rest h
  obtain ⟨mid, hm, hr⟩ := List.mem_flatMap.mp h
  exact (h2 mid rest hr).trans (h1 t mid hm)

theorem Shortens.optional {r : Reader} (h : Shortens r) : Shortens (optional r) := by
  intro t rest hr
  cases List.mem_append.mp hr with
  | inl h1 => exact h t rest h1
  | inr h2 => obtain rfl := List.mem_singleton.mp h2; exact List.suffix_refl rest

theorem Shortens.all {readers : List Reader} (h : ∀ r ∈ readers, Shortens r) :
    Shortens (all readers) := by
  induction readers with
  | nil => exact shortens_nothing
  | cons r rs ih =>
      exact (h r (List.mem_cons_self ..)).seq (ih fun r' hr' => h r' (List.mem_cons_of_mem _ hr'))

theorem Shortens.choice {readers : List Reader} (h : ∀ r ∈ readers, Shortens r) :
    Shortens (choice readers) := by
  intro t rest hr
  obtain ⟨r, hmem, hrest⟩ := List.mem_flatMap.mp hr
  exact h r hmem t rest hrest

theorem shortens_many (p : Char → Bool) : Shortens (many p) := by
  intro t
  induction t with
  | nil => intro rest h; obtain rfl := List.mem_singleton.mp h; exact List.suffix_refl []
  | cons c cs ih =>
      intro rest h
      by_cases hp : p c
      · simp only [many, hp, if_true] at h
        cases List.mem_append.mp h with
        | inl h1 => exact (ih rest h1).trans (List.suffix_cons c cs)
        | inr h2 => obtain rfl := List.mem_singleton.mp h2; exact List.suffix_refl _
      · simp only [many, hp] at h
        obtain rfl := List.mem_singleton.mp h
        exact List.suffix_refl _

theorem shortens_exactly (p : Char → Bool) (n : Nat) : Shortens (exactly p n) := by
  induction n with
  | zero => exact shortens_nothing
  | succ n ih => exact (shortens_one p).seq ih

theorem shortens_upTo (p : Char → Bool) (n : Nat) : Shortens (upTo p n) := by
  induction n with
  | zero => exact shortens_nothing
  | succ n ih => exact ((shortens_one p).seq ih).optional

theorem shortens_between (p : Char → Bool) (lo hi : Nat) : Shortens (between p lo hi) :=
  (shortens_exactly p lo).seq (shortens_upTo p _)

theorem shortens_before (q : Option Char → Bool) : Shortens (before q) := by
  intro t rest h
  unfold before at h
  split at h
  · exact shortens_nothing t rest h
  · cases h

end Reader

/-! ## Tests -/

example : Reader.word "web" "WeB-dl".toList = ["-dl".toList] := by decide +kernel
example : Reader.between Unicode.isDecimal 3 4 "10801".toList = [['1'], ['0', '1']] := by
  decide +kernel

end ReleaseCatalog
