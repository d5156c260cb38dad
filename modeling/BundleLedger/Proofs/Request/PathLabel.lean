import BundleLedger.Request.PathLabel
import Mathlib.Data.List.Forall2
import Mathlib.Data.List.TakeWhile
import Mathlib.Tactic.Common

/-!
# Sanitized paths are in normal form

An identifier matches where its shape stands between two word boundaries, and a number where decimal digits follow a
slash up to a word boundary. A text is in normal form if it has no such match (`PathLabel.IsNormal`).

Blotting goes through a text from the left, so what has to be shown is that it makes no match which was not there
before. A match never reaches over what stands for another one, for its marks are no characters of an identifier
(`fits_of_fits_blotIds`, `fits_of_fits_blotNumbers`), and what follows it begins no word, so no match begins there
either (`HoldsId.of_endsWord`). Main statement: sanitized paths are in normal form, the paths in normal form are those
that stay as they are, and sanitizing twice is sanitizing once (`PathLabel.sanitize_normal`).
-/

set_option autoImplicit false

namespace BundleLedger.PathLabel

variable {before id digits after rest s : List Char} {inWord : Bool}

/-! ### Matches -/

/-- A word boundary lies between two texts: a word character stands on exactly one side of it. -/
def IsBoundary (before after : List Char) : Prop :=
  before.getLast?.any Text.isWordChar ≠ after.head?.any Text.isWordChar

/-- A part of a text matches as an identifier: it has the shape of one, and it is between word boundaries. -/
structure MatchesId (before id after : List Char) : Prop where
  shape : List.Forall₂ (fun p c ↦ p c = true) shape id
  start : IsBoundary before (id ++ after)
  finish : IsBoundary (before ++ id) after

/-- A part of a text matches as a number after a slash: decimal digits of any script that end at a word boundary. -/
structure MatchesNumber (before digits after : List Char) : Prop where
  nonempty : digits ≠ []
  decimal : ∀ c ∈ digits, Text.isDecimalDigit c = true
  finish : IsBoundary (before ++ '/' :: digits) after

/-- A text is in normal form: no part of it matches as an identifier, or with a slash before it as a number. -/
structure IsNormal (s : List Char) : Prop where
  no_id : ∀ before id after, s = before ++ (id ++ after) → ¬MatchesId before id after
  no_number : ∀ before digits after, s = before ++ '/' :: (digits ++ after) → ¬MatchesNumber before digits after

/-! ### Characters and shapes -/

theorem isWordChar_of_isHexDigit {c : Char} (h : Text.isHexDigit c = true) : Text.isWordChar c = true := by
  simp only [Text.isHexDigit, Text.hexValue?] at h
  simp only [Text.isWordChar, Text.isDecimalDigit, Text.isAsciiDigit, Bool.or_eq_true, Bool.and_eq_true,
    decide_eq_true_eq]
  split_ifs at h with hdigit hsmall hcapital
  · simp_all
  · simp only [Bool.and_eq_true, decide_eq_true_eq] at hsmall
    omega
  · simp only [Bool.and_eq_true, decide_eq_true_eq] at hcapital
    omega
  · simp at h

theorem head?_shape : shape.head? = some Text.isHexDigit := rfl

theorem getLast?_shape : shape.getLast? = some Text.isHexDigit := rfl

/-- No character of an identifier is a mark that blotting writes or looks for. -/
theorem not_mark_of_mem_shape : ∀ p ∈ shape, p '\x7b' = false ∧ p '\x7d' = false ∧ p '/' = false := by
  decide

theorem fits_iff {ps : List (Char → Bool)} :
    fits ps s = true ↔ ∃ id after, s = id ++ after ∧ List.Forall₂ (fun p c ↦ p c = true) ps id := by
  induction ps generalizing s with
  | nil => simp [fits]
  | cons p ps ih =>
    cases s with
    | nil => simp [fits]
    | cons c s =>
      simp only [fits, Bool.and_eq_true, ih]
      constructor
      · rintro ⟨hp, id, after, rfl, hid⟩
        exact ⟨c :: id, after, rfl, .cons hp hid⟩
      · rintro ⟨id, after, heq, hid⟩
        cases hid with
        | cons hp hid =>
          obtain ⟨rfl, rfl⟩ := List.cons.inj heq
          exact ⟨hp, _, after, rfl, hid⟩

/-- What has the shape of an identifier begins and ends with word characters. -/
theorem word_of_shape (h : List.Forall₂ (fun p c ↦ p c = true) shape id) :
    id.head?.any Text.isWordChar = true ∧ id.getLast?.any Text.isWordChar = true := by
  have hends {ps : List (Char → Bool)} {cs : List Char} (hcs : List.Forall₂ (fun p c ↦ p c = true) ps cs)
      (hps : ps.head? = some Text.isHexDigit) : cs.head?.any Text.isWordChar = true := by
    cases hcs with
    | nil => cases hps
    | cons hp _ =>
      obtain rfl := Option.some.inj hps
      exact isWordChar_of_isHexDigit hp
  refine ⟨hends h head?_shape, ?_⟩
  rw [List.getLast?_eq_head?_reverse]
  refine hends (List.rel_reverse h) ?_
  rw [← List.getLast?_eq_head?_reverse, getLast?_shape]

/-! ### Words around a place -/

/-- Whether a word character stands just before the end of a text, where `inWord` says so of its beginning. -/
def inWordAfter (inWord : Bool) (before : List Char) : Bool :=
  before.foldl (fun _ c ↦ Text.isWordChar c) inWord

@[simp] theorem inWordAfter_nil : inWordAfter inWord [] = inWord := rfl

@[simp] theorem inWordAfter_cons (c : Char) :
    inWordAfter inWord (c :: before) = inWordAfter (Text.isWordChar c) before := rfl

theorem inWordAfter_append : inWordAfter inWord (before ++ s) = inWordAfter (inWordAfter inWord before) s :=
  List.foldl_append

theorem inWordAfter_eq (h : s ≠ [] ∨ inWord = false) : inWordAfter inWord s = s.getLast?.any Text.isWordChar := by
  rcases s.eq_nil_or_concat with rfl | ⟨front, c, rfl⟩
  · simpa using h
  · simp [inWordAfter_append]

theorem endsWord_eq (s : List Char) : endsWord s = !s.head?.any Text.isWordChar := by
  cases s <;> rfl

theorem isBoundary_iff : IsBoundary before after ↔ inWordAfter false before = endsWord after := by
  rw [IsBoundary, inWordAfter_eq (.inr rfl), endsWord_eq, Bool.eq_not]

/-! ### Texts that hold a match -/

/-- A text holds an identifier after a place where `inWord` says whether a word character stands. -/
def HoldsId (inWord : Bool) (s : List Char) : Prop :=
  ∃ before rest, s = before ++ rest ∧ inWordAfter inWord before = false ∧ startsWithId rest = true

/-- Digits that end at a word boundary stand at the front of a text. -/
def StartsWithNumber (s : List Char) : Prop :=
  (afterDigits s).length < s.length ∧ endsWord (afterDigits s) = true

/-- A text holds a number after a slash. -/
def HoldsNumber (s : List Char) : Prop :=
  ∃ before rest, s = before ++ '/' :: rest ∧ StartsWithNumber rest

theorem startsWithId_nil : startsWithId [] = false := rfl

theorem startsWithId_of_endsWord (h : endsWord s = true) : startsWithId s = false := by
  rw [Bool.eq_false_iff]
  intro hid
  rw [startsWithId, Bool.and_eq_true, fits_iff] at hid
  obtain ⟨⟨id, after, rfl, hshape⟩, -⟩ := hid
  have hword := (word_of_shape hshape).1
  cases id with
  | nil => cases hword
  | cons c id =>
    rw [endsWord_eq] at h
    simp_all

theorem not_holdsId_nil : ¬HoldsId inWord [] := by
  rintro ⟨before, rest, heq, -, hid⟩
  obtain ⟨rfl, rfl⟩ := List.append_eq_nil_iff.1 heq.symm
  simp [startsWithId_nil] at hid

theorem holdsId_cons {c : Char} :
    HoldsId inWord (c :: s) ↔
      inWord = false ∧ startsWithId (c :: s) = true ∨ HoldsId (Text.isWordChar c) s := by
  constructor
  · rintro ⟨before, rest, heq, hbefore, hid⟩
    cases before with
    | nil =>
      obtain rfl : c :: s = rest := heq
      exact .inl ⟨hbefore, hid⟩
    | cons d before =>
      obtain ⟨rfl, rfl⟩ := List.cons.inj heq
      exact .inr ⟨before, rest, rfl, hbefore, hid⟩
  · rintro (⟨hbefore, hid⟩ | ⟨before, rest, rfl, hbefore, hid⟩)
    · exact ⟨[], c :: s, rfl, hbefore, hid⟩
    · exact ⟨c :: before, rest, rfl, hbefore, hid⟩

theorem HoldsId.append (before : List Char) (h : HoldsId (inWordAfter inWord before) s) :
    HoldsId inWord (before ++ s) := by
  obtain ⟨between, rest, rfl, hbetween, hid⟩ := h
  exact ⟨before ++ between, rest, (List.append_assoc ..).symm, inWordAfter_append.trans hbetween, hid⟩

/-- Where no word begins, it does not matter whether one could. -/
theorem HoldsId.of_endsWord {other : Bool} (hends : endsWord s = true) (h : HoldsId other s) :
    HoldsId inWord s := by
  cases s with
  | nil => exact absurd h not_holdsId_nil
  | cons c s =>
    rcases holdsId_cons.1 h with ⟨-, hid⟩ | hlater
    · simp [startsWithId_of_endsWord hends] at hid
    · exact holdsId_cons.2 (.inr hlater)

theorem not_holdsNumber_nil : ¬HoldsNumber [] := by
  rintro ⟨before, rest, heq, -⟩
  simp at heq

theorem holdsNumber_cons {c : Char} :
    HoldsNumber (c :: s) ↔ c = '/' ∧ StartsWithNumber s ∨ HoldsNumber s := by
  constructor
  · rintro ⟨before, rest, heq, hnumber⟩
    cases before with
    | nil =>
      obtain ⟨rfl, rfl⟩ := List.cons.inj heq
      exact .inl ⟨rfl, hnumber⟩
    | cons d before =>
      obtain ⟨rfl, rfl⟩ := List.cons.inj heq
      exact .inr ⟨before, rest, rfl, hnumber⟩
  · rintro (⟨rfl, hnumber⟩ | ⟨before, rest, rfl, hnumber⟩)
    · exact ⟨[], s, rfl, hnumber⟩
    · exact ⟨c :: before, rest, rfl, hnumber⟩

/-- Some part of a text matches as an identifier exactly if the text holds one. -/
theorem exists_matchesId_iff :
    (∃ before id after, s = before ++ (id ++ after) ∧ MatchesId before id after) ↔ HoldsId false s := by
  constructor
  · rintro ⟨before, id, after, rfl, h⟩
    obtain ⟨hfirst, hlast⟩ := word_of_shape h.shape
    have hne : id ≠ [] := by
      rintro rfl
      cases hfirst
    refine ⟨before, id ++ after, rfl, ?_, ?_⟩
    · have hstart := h.start
      rw [isBoundary_iff, endsWord_eq, List.head?_append_of_ne_nil _ hne, hfirst] at hstart
      exact hstart
    · have hfinish := h.finish
      rw [isBoundary_iff, inWordAfter_append, inWordAfter_eq (.inl hne), hlast] at hfinish
      rw [startsWithId, Bool.and_eq_true, fits_iff, h.shape.length_eq, List.drop_left]
      exact ⟨⟨id, after, rfl, h.shape⟩, hfinish.symm⟩
  · rintro ⟨before, rest, rfl, hbefore, hid⟩
    rw [startsWithId, Bool.and_eq_true, fits_iff] at hid
    obtain ⟨⟨id, after, rfl, hshape⟩, hends⟩ := hid
    obtain ⟨hfirst, hlast⟩ := word_of_shape hshape
    have hne : id ≠ [] := by
      rintro rfl
      cases hfirst
    refine ⟨before, id, after, rfl, hshape, ?_, ?_⟩
    · rw [isBoundary_iff, hbefore, endsWord_eq, List.head?_append_of_ne_nil _ hne, hfirst]
      rfl
    · rw [hshape.length_eq, List.drop_left] at hends
      rw [isBoundary_iff, inWordAfter_append, inWordAfter_eq (.inl hne), hlast, hends]

theorem startsWithNumber_iff :
    StartsWithNumber s ↔ ∃ digits after, s = digits ++ after ∧ digits ≠ [] ∧
      (∀ c ∈ digits, Text.isDecimalDigit c = true) ∧ endsWord after = true := by
  constructor
  · rintro ⟨hlength, hends⟩
    refine ⟨s.takeWhile Text.isDecimalDigit, afterDigits s, List.takeWhile_append_dropWhile.symm, ?_,
      fun c hc ↦ List.mem_takeWhile_imp hc, hends⟩
    intro hnil
    have hsplit : s.takeWhile Text.isDecimalDigit ++ afterDigits s = s := List.takeWhile_append_dropWhile
    rw [hnil, List.nil_append] at hsplit
    rw [hsplit] at hlength
    exact absurd hlength (Nat.lt_irrefl _)
  · rintro ⟨digits, after, rfl, hne, hdigits, hends⟩
    have hafter : afterDigits (digits ++ after) = after := by
      rw [afterDigits, List.dropWhile_append_of_pos hdigits]
      cases after with
      | nil => rfl
      | cons c after =>
        refine List.dropWhile_cons_of_neg fun hc ↦ ?_
        have hword := Text.isWordChar_of_isDecimalDigit hc
        simp [endsWord, hword] at hends
    rw [StartsWithNumber, hafter]
    refine ⟨?_, hends⟩
    rw [List.length_append]
    exact Nat.lt_add_of_pos_left (List.length_pos_iff.2 hne)

/-- Some part of a text matches as a number exactly if the text holds one. -/
theorem exists_matchesNumber_iff :
    (∃ before digits after, s = before ++ '/' :: (digits ++ after) ∧ MatchesNumber before digits after) ↔
      HoldsNumber s := by
  have hboundary {before digits after : List Char} (hne : digits ≠ [])
      (hdigits : ∀ c ∈ digits, Text.isDecimalDigit c = true) :
      IsBoundary (before ++ '/' :: digits) after ↔ endsWord after = true := by
    have hlast : inWordAfter false (before ++ '/' :: digits) = true := by
      rw [inWordAfter_append, inWordAfter_cons, inWordAfter_eq (.inl hne)]
      rw [List.getLast?_eq_some_getLast hne, Option.any_some]
      exact Text.isWordChar_of_isDecimalDigit (hdigits _ (List.getLast_mem hne))
    rw [isBoundary_iff, hlast, eq_comm]
  constructor
  · rintro ⟨before, digits, after, rfl, h⟩
    refine ⟨before, digits ++ after, rfl, startsWithNumber_iff.2 ⟨digits, after, rfl, h.nonempty, h.decimal, ?_⟩⟩
    exact (hboundary h.nonempty h.decimal).1 h.finish
  · rintro ⟨before, rest, rfl, hnumber⟩
    obtain ⟨digits, after, rfl, hne, hdigits, hends⟩ := startsWithNumber_iff.1 hnumber
    exact ⟨before, digits, after, rfl, hne, hdigits, (hboundary hne hdigits).2 hends⟩

theorem isNormal_iff : IsNormal s ↔ ¬HoldsId false s ∧ ¬HoldsNumber s := by
  rw [← exists_matchesId_iff, ← exists_matchesNumber_iff]
  constructor
  · rintro ⟨hid, hnumber⟩
    exact ⟨fun ⟨before, id, after, heq, h⟩ ↦ hid before id after heq h,
      fun ⟨before, digits, after, heq, h⟩ ↦ hnumber before digits after heq h⟩
  · rintro ⟨hid, hnumber⟩
    exact ⟨fun before id after heq h ↦ hid ⟨before, id, after, heq, h⟩,
      fun before digits after heq h ↦ hnumber ⟨before, digits, after, heq, h⟩⟩

/-! ### Blotting identifiers -/

theorem blotIds_nil : blotIds inWord [] = [] := by
  rw [blotIds]

theorem blotIds_of_startsWithId {c : Char} (h : inWord = false ∧ startsWithId (c :: s) = true) :
    blotIds inWord (c :: s) = token ++ blotIds true ((c :: s).drop shape.length) := by
  rw [blotIds, if_pos (by simp [h])]

theorem blotIds_cons {c : Char} (h : ¬(inWord = false ∧ startsWithId (c :: s) = true)) :
    blotIds inWord (c :: s) = c :: blotIds (Text.isWordChar c) s := by
  rw [blotIds, if_neg (by simpa using h)]

/-- After a word character nothing is blotted out at once. -/
theorem endsWord_blotIds (s : List Char) : endsWord (blotIds true s) = endsWord s := by
  cases s with
  | nil => rw [blotIds_nil]
  | cons c s =>
    rw [blotIds_cons (by simp)]
    rfl

/-- What fits at the front of a blotted text fits the text itself, if no mark of a token fits. -/
theorem fits_of_fits_blotIds {ps : List (Char → Bool)} (hps : ∀ p ∈ ps, p '\x7b' = false)
    (h : fits ps (blotIds inWord s) = true) :
    fits ps s = true ∧ (blotIds inWord s).drop ps.length =
      blotIds (inWordAfter inWord (s.take ps.length)) (s.drop ps.length) := by
  induction ps generalizing inWord s with
  | nil => exact ⟨rfl, rfl⟩
  | cons p ps ih =>
    obtain ⟨hp, hps⟩ := List.forall_mem_cons.1 hps
    cases s with
    | nil => simp [blotIds_nil, fits] at h
    | cons c s =>
      by_cases hid : inWord = false ∧ startsWithId (c :: s) = true
      · rw [blotIds_of_startsWithId hid, token, List.cons_append, fits, hp] at h
        cases h
      · rw [blotIds_cons hid, fits, Bool.and_eq_true] at h
        obtain ⟨hrest, hdrop⟩ := ih hps h.2
        rw [blotIds_cons hid]
        exact ⟨by simp [fits, h.1, hrest], hdrop⟩

/-- Blotting makes no identifier at the front of a text. -/
theorem startsWithId_of_blotIds (h : startsWithId (blotIds true s) = true) : startsWithId s = true := by
  rw [startsWithId, Bool.and_eq_true] at h
  obtain ⟨hfits, hends⟩ := h
  obtain ⟨hshape, hdrop⟩ := fits_of_fits_blotIds (fun p hp ↦ (not_mark_of_mem_shape p hp).1) hfits
  rw [startsWithId, hshape, Bool.true_and]
  obtain ⟨id, after, rfl, hid⟩ := fits_iff.1 hshape
  have hword : inWordAfter true ((id ++ after).take shape.length) = true := by
    have hne : id ≠ [] := by
      rintro rfl
      cases hid
    rw [hid.length_eq, List.take_left, inWordAfter_eq (.inl hne), (word_of_shape hid).2]
  rwa [hdrop, hword, endsWord_blotIds] at hends

/-- No identifier begins in a token or reaches into it. -/
theorem holdsId_token_iff : HoldsId inWord (token ++ s) ↔ HoldsId false s := by
  have hopen (s : List Char) : startsWithId ('\x7b' :: s) = false := rfl
  have hclose (s : List Char) : startsWithId ('\x7d' :: s) = false := rfl
  have hletter (s : List Char) : startsWithId ('i' :: s) = false := rfl
  have hwords : Text.isWordChar 'i' = true ∧ Text.isWordChar '\x7d' = false := by decide
  simp [token, holdsId_cons, hopen, hclose, hletter, hwords]

/-- By induction along the text: what has been blotted out holds nothing, and no identifier begins where none did. -/
theorem not_holdsId_blotIds (inWord : Bool) (s : List Char) : ¬HoldsId inWord (blotIds inWord s) := by
  fun_induction blotIds inWord s with
  | case1 => exact not_holdsId_nil
  | case2 inWord c rest hid ih =>
    rw [holdsId_token_iff]
    simp only [startsWithId, Bool.and_eq_true] at hid
    refine fun h ↦ ih (h.of_endsWord ?_)
    rw [endsWord_blotIds, hid.2.2]
  | case3 inWord c rest hid ih =>
    rw [holdsId_cons]
    rintro (⟨hword, hstarts⟩ | hlater)
    · have hblotted : blotIds true (c :: rest) = c :: blotIds (Text.isWordChar c) rest := blotIds_cons (by simp)
      rw [← hblotted] at hstarts
      exact hid (by simp [hword, startsWithId_of_blotIds hstarts])
    · exact ih hlater

theorem blotIds_eq_self (h : ¬HoldsId inWord s) : blotIds inWord s = s := by
  induction s generalizing inWord with
  | nil => exact blotIds_nil
  | cons c s ih =>
    rw [holdsId_cons, not_or] at h
    rw [blotIds_cons h.1, ih h.2]

/-! ### Blotting numbers -/

theorem blotNumbers_nil : blotNumbers [] = [] := by
  rw [blotNumbers]

theorem blotNumbers_of_startsWithNumber (h : StartsWithNumber s) :
    blotNumbers ('/' :: s) = '/' :: token ++ blotNumbers (afterDigits s) := by
  rw [blotNumbers, if_pos ⟨rfl, h⟩]

theorem blotNumbers_cons {c : Char} (h : ¬(c = '/' ∧ StartsWithNumber s)) :
    blotNumbers (c :: s) = c :: blotNumbers s := by
  rw [blotNumbers]
  exact if_neg h

/-- Blotting numbers keeps what a text begins with. -/
theorem head?_blotNumbers (s : List Char) : (blotNumbers s).head? = s.head? := by
  cases s with
  | nil => rw [blotNumbers_nil]
  | cons c s =>
    by_cases h : c = '/' ∧ StartsWithNumber s
    · obtain ⟨rfl, hnumber⟩ := h
      rw [blotNumbers_of_startsWithNumber hnumber]
      rfl
    · rw [blotNumbers_cons h]
      rfl

theorem endsWord_blotNumbers (s : List Char) : endsWord (blotNumbers s) = endsWord s := by
  rw [endsWord_eq, endsWord_eq, head?_blotNumbers]

theorem fits_of_fits_blotNumbers {ps : List (Char → Bool)} (hps : ∀ p ∈ ps, p '/' = false)
    (h : fits ps (blotNumbers s) = true) :
    fits ps s = true ∧ (blotNumbers s).drop ps.length = blotNumbers (s.drop ps.length) := by
  induction ps generalizing s with
  | nil => exact ⟨rfl, rfl⟩
  | cons p ps ih =>
    obtain ⟨hp, hps⟩ := List.forall_mem_cons.1 hps
    cases s with
    | nil => simp [blotNumbers_nil, fits] at h
    | cons c s =>
      have hc : c ≠ '/' := by
        rintro rfl
        have hhead := head?_blotNumbers ('/' :: s)
        cases hblotted : blotNumbers ('/' :: s) with
        | nil => simp [hblotted] at hhead
        | cons d rest =>
          obtain rfl : d = '/' := by simpa [hblotted] using hhead
          simp [hblotted, fits, hp] at h
      rw [blotNumbers_cons (fun hnumber ↦ hc hnumber.1)] at h ⊢
      rw [fits, Bool.and_eq_true] at h
      obtain ⟨hrest, hdrop⟩ := ih hps h.2
      exact ⟨by simp [fits, h.1, hrest], hdrop⟩

theorem startsWithId_of_blotNumbers (h : startsWithId (blotNumbers s) = true) : startsWithId s = true := by
  rw [startsWithId, Bool.and_eq_true] at h ⊢
  obtain ⟨hshape, hdrop⟩ := fits_of_fits_blotNumbers (fun p hp ↦ (not_mark_of_mem_shape p hp).2.2) h.1
  rw [hdrop, endsWord_blotNumbers] at h
  exact ⟨hshape, h.2⟩

theorem length_afterDigits_lt_iff :
    (afterDigits s).length < s.length ↔ s.head?.any Text.isDecimalDigit = true := by
  cases s with
  | nil => simp [afterDigits]
  | cons c s =>
    rw [List.head?_cons, Option.any_some, List.length_cons]
    by_cases hc : Text.isDecimalDigit c = true
    · rw [afterDigits, List.dropWhile_cons_of_pos hc]
      exact iff_of_true (Nat.lt_succ_of_le (length_afterDigits_le s)) hc
    · rw [afterDigits, List.dropWhile_cons_of_neg hc]
      exact iff_of_false (Nat.lt_irrefl _) hc

theorem afterDigits_blotNumbers (s : List Char) : afterDigits (blotNumbers s) = blotNumbers (afterDigits s) := by
  induction s with
  | nil =>
    rw [blotNumbers_nil]
    exact blotNumbers_nil.symm
  | cons c s ih =>
    by_cases hc : Text.isDecimalDigit c = true
    · have hslash : c ≠ '/' := by
        rintro rfl
        revert hc
        decide
      rw [blotNumbers_cons fun h ↦ hslash h.1, afterDigits, afterDigits, List.dropWhile_cons_of_pos hc,
        List.dropWhile_cons_of_pos hc]
      exact ih
    · have hkept : afterDigits (c :: s) = c :: s := List.dropWhile_cons_of_neg hc
      obtain ⟨rest, hblotted⟩ := List.head?_eq_some_iff.1 (head?_blotNumbers (c :: s))
      rw [hkept, hblotted]
      exact List.dropWhile_cons_of_neg hc

theorem startsWithNumber_blotNumbers_iff : StartsWithNumber (blotNumbers s) ↔ StartsWithNumber s := by
  rw [StartsWithNumber, StartsWithNumber, length_afterDigits_lt_iff, length_afterDigits_lt_iff, head?_blotNumbers,
    afterDigits_blotNumbers, endsWord_blotNumbers]

/-- No number begins in a token or reaches into it. -/
theorem holdsNumber_token_iff : HoldsNumber ('/' :: token ++ s) ↔ HoldsNumber s := by
  have hopen : ¬StartsWithNumber (token ++ s) := by
    intro h
    have hdigit : Text.isDecimalDigit '\x7b' = true := length_afterDigits_lt_iff.1 h.1
    revert hdigit
    decide
  rw [List.cons_append, holdsNumber_cons]
  simp only [hopen, and_false, false_or]
  simp [token, holdsNumber_cons]

theorem not_holdsNumber_blotNumbers (s : List Char) : ¬HoldsNumber (blotNumbers s) := by
  fun_induction blotNumbers s with
  | case1 => exact not_holdsNumber_nil
  | case2 c rest hnumber ih =>
    rw [holdsNumber_token_iff]
    exact ih
  | case3 c rest hnumber ih =>
    rw [holdsNumber_cons, startsWithNumber_blotNumbers_iff]
    rintro (hstarts | hlater)
    · exact hnumber hstarts
    · exact ih hlater

/-- By induction along the text: an identifier of the blotted text lies within what has been kept, and a blotted
number ends where no word begins. -/
theorem holdsId_of_blotNumbers (h : HoldsId inWord (blotNumbers s)) : HoldsId inWord s := by
  fun_induction blotNumbers s generalizing inWord with
  | case1 => exact h
  | case2 c rest hnumber ih =>
    obtain ⟨rfl, -, hends⟩ := hnumber
    have hslash (s : List Char) : startsWithId ('/' :: s) = false := rfl
    rw [List.cons_append, holdsId_cons, holdsId_token_iff] at h
    have hafter : HoldsId false (afterDigits rest) := by
      rcases h with ⟨-, hstarts⟩ | hlater
      · simp [hslash] at hstarts
      · exact ih hlater
    have hrest : '/' :: rest = '/' :: rest.takeWhile Text.isDecimalDigit ++ afterDigits rest :=
      congrArg ('/' :: ·) List.takeWhile_append_dropWhile.symm
    rw [hrest]
    exact .append _ (hafter.of_endsWord hends)
  | case3 c rest hnumber ih =>
    rw [holdsId_cons] at h ⊢
    rcases h with ⟨hword, hstarts⟩ | hlater
    · have hblotted : blotNumbers (c :: rest) = c :: blotNumbers rest := blotNumbers_cons hnumber
      rw [← hblotted] at hstarts
      exact .inl ⟨hword, startsWithId_of_blotNumbers hstarts⟩
    · exact .inr (ih hlater)

theorem blotNumbers_eq_self (h : ¬HoldsNumber s) : blotNumbers s = s := by
  induction s with
  | nil => exact blotNumbers_nil
  | cons c s ih =>
    rw [holdsNumber_cons, not_or] at h
    rw [blotNumbers_cons h.1, ih h.2]

/-! ### Sanitized paths -/

theorem toList_sanitize (path : String) : (sanitize path).toList = blotNumbers (blotIds false path.toList) :=
  String.toList_ofList

theorem isNormal_sanitize (path : String) : IsNormal (sanitize path).toList := by
  rw [toList_sanitize, isNormal_iff]
  exact ⟨fun h ↦ not_holdsId_blotIds false _ (holdsId_of_blotNumbers h), not_holdsNumber_blotNumbers _⟩

theorem sanitize_eq_self_iff {path : String} : sanitize path = path ↔ IsNormal path.toList := by
  constructor
  · intro h
    rw [← h]
    exact isNormal_sanitize path
  · intro h
    obtain ⟨hid, hnumber⟩ := isNormal_iff.1 h
    rw [← String.toList_inj, toList_sanitize, blotIds_eq_self hid, blotNumbers_eq_self hnumber]

/-- A sanitized path is in normal form, exactly the paths in normal form stay as they are, and so sanitizing a
sanitized path leaves it as it is. -/
theorem sanitize_normal (path : String) :
    IsNormal (sanitize path).toList ∧ (sanitize path = path ↔ IsNormal path.toList) ∧
      sanitize (sanitize path) = sanitize path :=
  ⟨isNormal_sanitize path, sanitize_eq_self_iff, sanitize_eq_self_iff.2 (isNormal_sanitize path)⟩

end BundleLedger.PathLabel
