import Mathlib.Data.List.Basic
import ReleaseCatalog.Proofs.Unicode.FoldedClasses
import ReleaseCatalog.Title.Key

/-!
# Keys are a normal form

A key has no silent character, and each of its characters is its own folding
(`mem_key`).  Nothing more is needed for a text to be its own key: an ampersand
is punctuation, so there is none to spell out.  Hence taking the key twice is
taking it once (`key_key`), and titles may be compared by the keys of their keys.
-/

namespace ReleaseCatalog.Title

open Unicode (foldCase foldChar isBlank isPunctuation isControl)

variable {t : Text} {c : Char}

theorem isSilent_ampersand : isSilent '&' = true := by decide +kernel

/-- The characters of a key are not silent and are folded. -/
theorem mem_key {title : Text} {c : Char} (h : c ∈ key title) :
    isSilent c = false ∧ foldChar c = [c] := by
  obtain ⟨member, audible⟩ := List.mem_filter.mp h
  obtain ⟨d, -, folded⟩ := List.mem_flatMap.mp member
  exact ⟨by simpa using audible, Unicode.foldChar_of_mem_foldChar folded⟩

/-- A text keeps its characters if none of them is the one that is replaced. -/
theorem replaced_eq_self {d : Char} {replacement : Text} (h : d ∉ t) :
    (t.flatMap fun c => if c = d then replacement else [c]) = t := by
  refine (List.flatMap_congr fun c hc => ?_).trans (List.flatMap_singleton' t)
  rw [if_neg]
  rintro rfl
  exact h hc

theorem spellAmpersands_eq_self (h : '&' ∉ t) : spellAmpersands t = t := replaced_eq_self h

/-- A text without silent characters whose characters are folded is its own key. -/
theorem key_eq_self {t : Text} (h : ∀ c ∈ t, isSilent c = false ∧ foldChar c = [c]) :
    key t = t := by
  have spelled : spellAmpersands t = t := by
    refine spellAmpersands_eq_self fun member => ?_
    have audible := (h '&' member).1
    rw [isSilent_ampersand] at audible
    cases audible
  have folded : foldCase t = t := Unicode.foldCase_eq_self fun c hc => (h c hc).2
  unfold key
  rw [spelled, folded]
  refine List.filter_eq_self.mpr fun c hc => ?_
  rw [(h c hc).1]
  rfl

/-- A key is its own key. -/
@[simp] theorem key_key (title : Text) : key (key title) = key title :=
  key_eq_self fun _ hc => mem_key hc

/-! ## Texts that are keys -/

theorem isSilent_eq_false_iff : isSilent c = false ↔
    isBlank c = false ∧ isPunctuation c = false ∧ isControl c = false := by
  unfold isSilent
  rw [Bool.or_eq_false_iff, Bool.or_eq_false_iff, and_assoc]

/-- A text without blanks, punctuation and control characters that folding leaves alone. -/
structure IsKey (t : Text) : Prop where
  audible : ∀ c ∈ t, isBlank c = false ∧ isPunctuation c = false ∧ isControl c = false
  folded : foldCase t = t

theorem isKey_key (title : Text) : IsKey (key title) where
  audible _ hc := isSilent_eq_false_iff.mp (mem_key hc).1
  folded := Unicode.foldCase_eq_self fun _ hc => (mem_key hc).2

theorem key_eq_self_iff : key t = t ↔ IsKey t := by
  constructor
  · intro fixed
    rw [← fixed]
    exact isKey_key t
  · intro isKey
    refine key_eq_self fun c hc => ⟨isSilent_eq_false_iff.mpr (isKey.audible c hc), ?_⟩
    rw [← isKey.folded] at hc
    obtain ⟨d, -, folded⟩ := List.mem_flatMap.mp hc
    exact Unicode.foldChar_of_mem_foldChar folded

/-! ## What makes no difference to a key -/

theorem ampersand_not_mem_foldChar (h : c ≠ '&') : '&' ∉ foldChar c :=
  fun member => h (Unicode.eq_of_mem_foldChar member (by decide)).symm

theorem key_singleton (h : c ≠ '&') : key [c] = (foldChar c).filter fun d => !isSilent d := by
  have spelled : spellAmpersands [c] = [c] :=
    spellAmpersands_eq_self fun member => h (List.mem_singleton.mp member).symm
  unfold key
  rw [spelled, foldCase, List.flatMap_singleton]

theorem key_foldChar (c : Char) : key (foldChar c) = key [c] := by
  by_cases ampersand : c = '&'
  · rw [ampersand]
    decide +kernel
  · have spelled := spellAmpersands_eq_self (ampersand_not_mem_foldChar ampersand)
    have folded : foldCase (foldChar c) = foldChar c :=
      Unicode.foldCase_eq_self fun d => Unicode.foldChar_of_mem_foldChar
    rw [key_singleton ampersand, key, spelled, folded]

/-- A folded text has the key of the text. -/
theorem key_foldCase (t : Text) : key (foldCase t) = key t := by
  induction t with
  | nil => rfl
  | cons c rest ih =>
      have folded : foldCase (c :: rest) = foldChar c ++ foldCase rest := List.flatMap_cons
      rw [folded, key_append, key_foldChar, ih, ← key_append, List.singleton_append]

theorem key_of_isSilent (silent : isSilent c = true) (h : c ≠ '&') : key [c] = [] := by
  have fixed : foldChar c = [c] := by
    unfold isSilent at silent
    rw [Bool.or_eq_true_iff, Bool.or_eq_true_iff] at silent
    rcases silent with (blank | punctuation) | control
    · exact Unicode.foldChar_of_isBlank blank
    · exact Unicode.foldChar_of_isPunctuation punctuation
    · exact Unicode.foldChar_of_isControl control
  rw [key_singleton h, fixed, List.filter_eq_nil_iff]
  intro d hd
  rw [List.mem_singleton.mp hd, silent]
  decide

/-- Keys are a normal form of titles: they are taken piece by piece, exactly the texts of that form
are their own keys, and every key is one of them.  Folding a title, writing "and" for an ampersand
and putting any other silent character in at any place leave its key as it is. -/
theorem key_isNormalForm (a b : Text) :
    key (a ++ b) = key a ++ key b ∧ key (key a) = key a ∧
      IsKey (key a) ∧ (key a = a ↔ IsKey a) ∧ key (foldCase a) = key a ∧
      key (a ++ '&' :: b) = key (a ++ "and".toList ++ b) ∧
      ∀ c, isBlank c = true ∨ isControl c = true ∨ isPunctuation c = true → c ≠ '&' →
        key (a ++ c :: b) = key (a ++ b) := by
  refine ⟨key_append a b, key_key a, isKey_key a, key_eq_self_iff, key_foldCase a, ?_, ?_⟩
  · have spoken : key ['&'] = key "and".toList := by decide +kernel
    rw [← List.singleton_append, key_append, key_append, spoken, key_append, key_append,
      List.append_assoc]
  · intro c silent other
    have silent : isSilent c = true := by
      unfold isSilent
      rcases silent with blank | control | punctuation
      · rw [blank, Bool.true_or, Bool.true_or]
      · rw [control, Bool.or_true]
      · rw [punctuation, Bool.or_true, Bool.true_or]
    rw [← List.singleton_append, key_append, key_append, key_of_isSilent silent other,
      List.nil_append, key_append]

/-- An ideographic space and an apostrophe are put into a title. -/
theorem key_of_quinns_night :
    (isBlank '\u3000' = true ∧ '\u3000' ≠ '&' ∧
        key "Quinns\u3000Night".toList = key "QuinnsNight".toList) ∧
      isPunctuation '\u2019' = true ∧ '\u2019' ≠ '&' ∧
        key "Quinn’sNight".toList = key "QuinnsNight".toList := by
  have blank : isBlank '\u3000' = true := by decide
  have punctuation : isPunctuation '\u2019' = true := by decide +kernel
  obtain ⟨-, -, -, -, -, -, behind⟩ := key_isNormalForm "Quinns".toList "Night".toList
  obtain ⟨-, -, -, -, -, -, inside⟩ := key_isNormalForm "Quinn".toList "sNight".toList
  exact ⟨⟨blank, by decide, behind '\u3000' (.inl blank) (by decide)⟩, punctuation, by decide,
    inside '\u2019' (.inr (.inr punctuation)) (by decide)⟩

end ReleaseCatalog.Title
