import BundleLedger.Currency
import BundleLedger.Proofs.Result
import BundleLedger.Proofs.Sorting

/-!
# The rate that applies

The lookup sorts the rates of a currency by their first days and remembers the last one that covers the day before
it meets a rate that starts later. That is the last covering rate of the sorted list (`scan_eq_getLast?`), also
when long rates enclose short ones, since no rate behind the stop can cover the day. The sort is stable, so among
the rates as they were given it is the covering one with the greatest first day, and of those with that day the one
given last (`rateOn_eq_some_iff`). Codes are compared in upper case. Every conversion is described by this rate
(`convert_answers`).
-/

set_option autoImplicit false

namespace BundleLedger

namespace Rate

/-- A rate of a currency code, in any case, whose days include a day. -/
def IsFor (r : Rate) (code : String) (day : Date) : Prop :=
  Text.upper r.currency = Text.upper code ∧ r.start ≤ day ∧ day ≤ r.finish

/-- The rate for a code and a day that starts last; of those that start on one day, the one given last. -/
def Applies (r : Rate) (rates : List Rate) (code : String) (day : Date) : Prop :=
  ∃ before after, rates = before ++ r :: after ∧ r.IsFor code day ∧
    (∀ s ∈ before, s.IsFor code day → s.start ≤ r.start) ∧ ∀ s ∈ after, s.IsFor code day → s.start < r.start

theorem covers_iff {r : Rate} {day : Date} : r.covers day = true ↔ r.start ≤ day ∧ day ≤ r.finish := by
  simp [covers]

theorem isFor_iff {r : Rate} {code : String} {day : Date} :
    r.IsFor code day ↔ (decide (Text.upper r.currency = Text.upper code) && r.covers day) = true := by
  simp [IsFor, covers]

theorem startsBefore_iff (a b : Rate) : startsBefore a b = true ↔ a.start.rank ≤ b.start.rank := by
  simp [startsBefore, Date.le_iff]

theorem applies_iff_isLatest {r : Rate} {rates : List Rate} {code : String} {day : Date} :
    r.Applies rates code day ↔ Sorting.IsLatest (fun s : Rate ↦ s.start.rank)
      (fun s ↦ decide (Text.upper s.currency = Text.upper code) && s.covers day) rates r := by
  simp only [Applies, isFor_iff, Date.le_iff, Date.lt_iff]
  rfl

theorem Applies.isFor {r : Rate} {rates : List Rate} {code : String} {day : Date}
    (h : r.Applies rates code day) : r.IsFor code day := by
  obtain ⟨before, after, -, hfor, -⟩ := h
  exact hfor

theorem Applies.mem {r : Rate} {rates : List Rate} {code : String} {day : Date}
    (h : r.Applies rates code day) : r ∈ rates := by
  obtain ⟨before, after, rfl, -⟩ := h
  exact List.mem_append_right _ List.mem_cons_self

end Rate

namespace Converter

/-! ### The lookup -/

/-- The scan of sorted rates finds the last one that covers the day. -/
theorem scan_eq_getLast? (day : Date) (found : Option Rate) {rates : List Rate}
    (hsorted : rates.Pairwise fun a b ↦ a.start.rank ≤ b.start.rank) :
    scan day found rates = ((rates.filter (Rate.covers · day)).getLast?).or found := by
  induction rates generalizing found with
  | nil => rfl
  | cons r rest ih =>
    obtain ⟨hfirst, hrest⟩ := List.pairwise_cons.1 hsorted
    unfold scan
    by_cases hlater : day < r.start
    · -- Every rate from here on starts after the day.
      have hnone : (r :: rest).filter (Rate.covers · day) = [] := by
        refine List.filter_eq_nil_iff.2 fun s hs hcovers ↦ ?_
        have hstart := (Rate.covers_iff.1 hcovers).1
        rw [Date.le_iff] at hstart
        rw [Date.lt_iff] at hlater
        rcases List.mem_cons.1 hs with rfl | hs
        · omega
        · have := hfirst s hs
          omega
      rw [if_pos hlater, hnone, List.getLast?_nil, Option.none_or]
    · have hstart : r.start ≤ day := by
        rw [Date.lt_iff] at hlater
        rw [Date.le_iff]
        omega
      rw [if_neg hlater, ih _ hrest]
      by_cases hend : day ≤ r.finish
      · have hcovers : r.covers day = true := Rate.covers_iff.2 ⟨hstart, hend⟩
        rw [if_pos hend, List.filter_cons, if_pos hcovers, List.getLast?_cons]
        cases (rest.filter (Rate.covers · day)).getLast? <;> rfl
      · have hcovers : ¬ r.covers day = true := fun hcovers ↦ hend (Rate.covers_iff.1 hcovers).2
        rw [if_neg hend, List.filter_cons, if_neg hcovers]

theorem rateOn_eq_some_iff {c : Converter} {code : String} {day : Date} {r : Rate} :
    c.rateOn (Text.upper code) day = some r ↔ r.Applies c.rates code day := by
  unfold rateOn ratesOf
  rw [scan_eq_getLast? day none (Sorting.pairwise_mergeSort Rate.startsBefore_iff _), Option.or_none,
    Sorting.getLast?_filter_mergeSort_eq_some_iff Rate.startsBefore_iff, Sorting.isLatest_filter_iff,
    Rate.applies_iff_isLatest]

theorem rateOn_eq_none_iff {c : Converter} {code : String} {day : Date} :
    c.rateOn (Text.upper code) day = none ↔ ∀ r ∈ c.rates, ¬ r.IsFor code day := by
  unfold rateOn ratesOf
  rw [scan_eq_getLast? day none (Sorting.pairwise_mergeSort Rate.startsBefore_iff _), Option.or_none,
    List.getLast?_eq_none_iff, List.filter_eq_nil_iff]
  simp only [List.mem_mergeSort, List.mem_filter, Rate.isFor_iff, Bool.and_eq_true, not_and]
  exact ⟨fun h r hr hcode ↦ h r ⟨hr, hcode⟩, fun h r hr ↦ h r hr.1 hr.2⟩

/-- Exactly one rate applies when there is one for the code and the day. -/
theorem existsUnique_applies {rates : List Rate} {code : String} {day : Date} (h : ∃ r ∈ rates, r.IsFor code day) :
    ∃! r : Rate, r.Applies rates code day := by
  cases hr : (Converter.of code rates).rateOn (Text.upper code) day with
  | none =>
    obtain ⟨r, hmem, hfor⟩ := h
    exact absurd hfor (rateOn_eq_none_iff.1 hr r hmem)
  | some r =>
    refine ⟨r, rateOn_eq_some_iff.1 hr, fun s hs ↦ ?_⟩
    exact Option.some.inj (((rateOn_eq_some_iff (c := Converter.of code rates)).2 hs).symm.trans hr)

/-! ### Conversions -/

/-- What the conversion of an amount on a day comes to, in terms of the rates as they were given. -/
structure Answers (reference : String) (rates : List Rate) (amount : Option Decimal) (currency : Option String)
    (day : Option Date) (outcome : Except Decimal.Fault (Option Decimal)) : Prop where
  missing : outcome = .ok none ↔ amount = none ∨ currency = none ∨ ∃ code ∈ currency,
    Text.upper code ≠ Text.upper reference ∧ (day = none ∨ ∃ d ∈ day, ∀ r ∈ rates, ¬ r.IsFor code d)
  unchanged : ∀ x ∈ amount, ∀ code ∈ currency, Text.upper code = Text.upper reference → outcome = .ok (some x)
  rated : ∀ x ∈ amount, ∀ code ∈ currency, Text.upper code ≠ Text.upper reference → ∀ d ∈ day,
    (∃ r ∈ rates, r.IsFor code d) → ∃ r : Rate, r.Applies rates code d ∧ (∀ s : Rate, s.Applies rates code d → s = r) ∧
      outcome = ((x.multiply r.rate).bind (Decimal.quantize 6)).map some

section Conversion

variable {c : Converter} {code : String} {x : Decimal} {d : Date}

theorem convert_reference (h : Text.upper code = c.reference) (day : Option Date) :
    c.convert (some x) (some code) day = .ok (some x) :=
  if_pos h

theorem convert_undated (h : Text.upper code ≠ c.reference) : c.convert (some x) (some code) none = .ok none :=
  if_neg h

theorem convert_dated (h : Text.upper code ≠ c.reference) :
    c.convert (some x) (some code) (some d) =
      (c.rateOn (Text.upper code) d).elim (.ok none) fun r ↦ (atRate x r).map some := by
  refine (if_neg h).trans ?_
  cases c.rateOn (Text.upper code) d <;> rfl

theorem convert_unrated (h : Text.upper code ≠ c.reference) (hnone : ∀ r ∈ c.rates, ¬ r.IsFor code d) :
    c.convert (some x) (some code) (some d) = .ok none := by
  rw [convert_dated h, rateOn_eq_none_iff.2 hnone, Option.elim_none]

theorem convert_rated (h : Text.upper code ≠ c.reference) {r : Rate} (hr : r.Applies c.rates code d) :
    c.convert (some x) (some code) (some d) = (atRate x r).map some := by
  rw [convert_dated h, rateOn_eq_some_iff.2 hr, Option.elim_some]

end Conversion

/-- Every conversion answers by the rate that applies, whatever the order of the rates, their overlaps and the case
of their codes. -/
theorem convert_answers (reference : String) (rates : List Rate) (amount : Option Decimal) (currency : Option String)
    (day : Option Date) :
    Answers reference rates amount currency day ((Converter.of reference rates).convert amount currency day) := by
  cases amount with
  | none => exact ⟨by simp [convert_none_amount], by simp, by simp⟩
  | some x =>
  cases currency with
  | none => exact ⟨by simp [convert_none_currency], by simp, by simp⟩
  | some code =>
  by_cases hcode : Text.upper code = Text.upper reference
  · have h := convert_reference (c := Converter.of reference rates) (x := x) hcode day
    exact ⟨by simp [h, hcode], by simp [h], by simp [hcode]⟩
  cases day with
  | none =>
    have h := convert_undated (c := Converter.of reference rates) (x := x) hcode
    exact ⟨by simp [h, hcode], by simp [hcode], by simp⟩
  | some d =>
  by_cases hsome : ∃ r ∈ rates, r.IsFor code d
  · obtain ⟨r, hr, hunique⟩ := existsUnique_applies hsome
    have h := convert_rated (c := Converter.of reference rates) (x := x) hcode hr
    refine ⟨⟨fun hnone ↦ ?_, fun hmissing ↦ ?_⟩, by simp [hcode], ?_⟩
    · rw [h, Result.map_eq_ok_iff] at hnone
      simp at hnone
    · simp only [reduceCtorEq, false_or, Option.mem_def, Option.some.injEq, exists_eq_left'] at hmissing
      obtain ⟨s, hs, hfor⟩ := hsome
      exact absurd hfor (hmissing.2 s hs)
    · rintro _ ⟨⟩ _ ⟨⟩ - _ ⟨⟩ -
      exact ⟨r, hr, hunique, h⟩
  · have hnone : ∀ r ∈ rates, ¬ r.IsFor code d := fun r hr hfor ↦ hsome ⟨r, hr, hfor⟩
    have h := convert_unrated (c := Converter.of reference rates) (x := x) hcode hnone
    refine ⟨?_, by simp [hcode], ?_⟩
    · simp only [h, true_iff]
      exact .inr (.inr ⟨code, rfl, hcode, .inr ⟨d, rfl, hnone⟩⟩)
    · rintro _ ⟨⟩ _ ⟨⟩ - _ ⟨⟩ hrate
      exact absurd hrate hsome

end Converter
end BundleLedger
