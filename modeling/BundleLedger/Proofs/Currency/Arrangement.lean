import BundleLedger.Proofs.Currency.Applicable
import BundleLedger.Proofs.Pairing

/-!
# Rates in another order or with other codes

Of the rates that start last for a day, any one may be given last, and then it is the one that applies
(`Rate.startsLast_iff_exists_applies`). So a conversion depends on the order of the rates exactly when two rates that
start last give the amount different values (`Converter.forall_perm_convert_eq_iff`). Codes that agree in upper case
can take each other's place in the rates, in the reference and in the amount (`Converter.convert_respelled`).
-/

set_option autoImplicit false

namespace BundleLedger

namespace Rate

/-! ### Rates in another order -/

/-- A rate for a code and a day that no other such rate starts after. -/
def StartsLast (r : Rate) (rates : List Rate) (code : String) (day : Date) : Prop :=
  r ∈ rates ∧ r.IsFor code day ∧ ∀ s ∈ rates, s.IsFor code day → s.start ≤ r.start

variable {r : Rate} {rates rates' : List Rate} {code : String} {day : Date}

theorem StartsLast.perm (h : r.StartsLast rates code day) (hperm : rates'.Perm rates) :
    r.StartsLast rates' code day :=
  ⟨hperm.mem_iff.2 h.1, h.2.1, fun s hs ↦ h.2.2 s (hperm.mem_iff.1 hs)⟩

theorem Applies.startsLast (h : r.Applies rates code day) : r.StartsLast rates code day := by
  refine ⟨h.mem, h.isFor, fun s hs hfor ↦ ?_⟩
  obtain ⟨before, after, rfl, -, hbefore, hafter⟩ := h
  rcases List.mem_append.1 hs with hs | hs
  · exact hbefore s hs hfor
  · rcases List.mem_cons.1 hs with rfl | hs
    · exact (Date.le_iff _ _).2 le_rfl
    · exact (Date.le_iff _ _).2 (Nat.le_of_lt ((Date.lt_iff _ _).1 (hafter s hs hfor)))

/-- The rates that start last are those that apply in some order of the rates. -/
theorem startsLast_iff_exists_applies :
    r.StartsLast rates code day ↔ ∃ rates', rates'.Perm rates ∧ r.Applies rates' code day := by
  constructor
  · rintro ⟨hmem, hfor, hlast⟩
    obtain ⟨before, after, rfl⟩ := List.append_of_mem hmem
    -- At the end of the list it comes after every rate that starts on the same day.
    have hperm : (before ++ after ++ [r]).Perm (before ++ r :: after) := by
      rw [List.append_assoc]
      exact (List.perm_append_singleton r after).append_left before
    refine ⟨_, hperm, before ++ after, [], rfl, hfor, fun s hs ↦ hlast s ?_, by simp⟩
    exact hperm.mem_iff.1 (List.mem_append_left _ hs)
  · rintro ⟨rates', hperm, h⟩
    exact h.startsLast.perm hperm.symm

end Rate

namespace Converter

/-- Conversions are the same under codes that agree in upper case, when the rates that apply give the same value. -/
theorem convert_congr {c c' : Converter} {amount : Option Decimal} {currency currency' : Option String}
    {day : Option Date} (hreference : c'.reference = c.reference)
    (hcurrency : currency'.map Text.upper = currency.map Text.upper)
    (hrate : ∀ x ∈ amount, ∀ code ∈ currency, Text.upper code ≠ c.reference → ∀ d ∈ day,
      (c'.rateOn (Text.upper code) d).map (atRate x) = (c.rateOn (Text.upper code) d).map (atRate x)) :
    c'.convert amount currency' day = c.convert amount currency day := by
  cases amount with
  | none => rw [convert_none_amount, convert_none_amount]
  | some x =>
  cases currency with
  | none =>
    obtain rfl := Option.map_eq_none_iff.1 hcurrency
    rw [convert_none_currency, convert_none_currency]
  | some code =>
  obtain ⟨code', rfl, hcode'⟩ := Option.map_eq_some_iff.1 hcurrency
  by_cases hcode : Text.upper code = c.reference
  · rw [convert_reference hcode, convert_reference (hcode'.trans (hcode.trans hreference.symm))]
  have hne : Text.upper code' ≠ c'.reference := by
    rw [hcode', hreference]
    exact hcode
  cases day with
  | none => rw [convert_undated hcode, convert_undated hne]
  | some d =>
    have helim : ∀ found : Option Rate, (found.elim (.ok none) fun r ↦ (atRate x r).map some) =
        ((found.map (atRate x)).elim (.ok none) fun value ↦ value.map some :
          Except Decimal.Fault (Option Decimal)) := by
      intro found
      cases found <;> rfl
    rw [convert_dated hcode, convert_dated hne, helim, helim, hcode', hrate x rfl code rfl hcode d rfl]

/-! ### Orders -/

section Order

variable {reference : String} {rates rates' : List Rate} {amount : Option Decimal} {currency : Option String}
  {day : Option Date}

/-- Whether all rates that start last give an amount one value. -/
def Unambiguous (reference : String) (rates : List Rate) (amount : Option Decimal) (currency : Option String)
    (day : Option Date) : Prop :=
  ∀ x ∈ amount, ∀ code ∈ currency, Text.upper code ≠ Text.upper reference → ∀ d ∈ day, ∀ r s : Rate,
    r.StartsLast rates code d → s.StartsLast rates code d → atRate x r = atRate x s

theorem Unambiguous.perm (h : Unambiguous reference rates amount currency day) (hperm : rates'.Perm rates) :
    Unambiguous reference rates' amount currency day :=
  fun x hx code hcode hne d hd r s hr hs ↦ h x hx code hcode hne d hd r s (hr.perm hperm.symm) (hs.perm hperm.symm)

/-- Rates are unambiguous when no two of one currency and first day differ. -/
theorem unambiguous_of_unique (h : ∀ r ∈ rates, ∀ s ∈ rates, Text.upper r.currency = Text.upper s.currency →
    r.start = s.start → r.rate = s.rate) : Unambiguous reference rates amount currency day := by
  intro x _ code _ _ d _ r s hr hs
  have hstart : r.start = s.start := by
    have hle := hr.2.2 s hs.1 hs.2.1
    have hge := hs.2.2 r hr.1 hr.2.1
    rw [Date.le_iff] at hle hge
    exact Date.rank_injective (le_antisymm hge hle)
  unfold atRate
  rw [h r hr.1 s hs.1 (hr.2.1.1.trans hs.2.1.1.symm) hstart]

theorem convert_eq_of_perm (h : Unambiguous reference rates amount currency day) (hperm : rates'.Perm rates) :
    (Converter.of reference rates').convert amount currency day =
      (Converter.of reference rates).convert amount currency day := by
  refine convert_congr rfl rfl fun x hx code hcode hne d hd ↦ ?_
  by_cases hsome : ∃ r ∈ rates, r.IsFor code d
  · have hsome' : ∃ r ∈ rates', r.IsFor code d := by
      obtain ⟨r, hr, hfor⟩ := hsome
      exact ⟨r, hperm.mem_iff.2 hr, hfor⟩
    obtain ⟨r, hr, -⟩ := existsUnique_applies hsome
    obtain ⟨r', hr', -⟩ := existsUnique_applies hsome'
    have hrate := (rateOn_eq_some_iff (c := Converter.of reference rates)).2 hr
    have hrate' := (rateOn_eq_some_iff (c := Converter.of reference rates')).2 hr'
    rw [hrate, hrate', Option.map_some, Option.map_some,
      h x hx code hcode hne d hd r' r (hr'.startsLast.perm hperm.symm) hr.startsLast]
  · have hnone : ∀ r ∈ rates, ¬ r.IsFor code d := fun r hr hfor ↦ hsome ⟨r, hr, hfor⟩
    have hrate := (rateOn_eq_none_iff (c := Converter.of reference rates)).2 hnone
    have hrate' := (rateOn_eq_none_iff (c := Converter.of reference rates')).2 fun r hr ↦
      hnone r (hperm.mem_iff.1 hr)
    rw [hrate, hrate']

/-- A conversion is the same for all orders of the rates exactly when the rates that start last give the amount one
value. -/
theorem forall_perm_convert_eq_iff :
    (∀ rates', rates'.Perm rates → (Converter.of reference rates').convert amount currency day =
      (Converter.of reference rates).convert amount currency day) ↔
        Unambiguous reference rates amount currency day := by
  constructor
  · rintro h x rfl code rfl hcode d rfl r s hr hs
    obtain ⟨ratesr, hpermr, happliesr⟩ := Rate.startsLast_iff_exists_applies.1 hr
    obtain ⟨ratess, hperms, happliess⟩ := Rate.startsLast_iff_exists_applies.1 hs
    have heq := (h ratesr hpermr).trans (h ratess hperms).symm
    rw [convert_rated (c := Converter.of reference ratesr) hcode happliesr,
      convert_rated (c := Converter.of reference ratess) hcode happliess, Result.map_some_inj] at heq
    exact heq
  · intro h rates' hperm
    exact convert_eq_of_perm h hperm

end Order

end Converter

/-! ### Codes in another case -/

/-- Whether a rate is another one under a code that agrees with its own in upper case. -/
structure Rate.Respelled (r r' : Rate) : Prop where
  eq : r' = { r with currency := r'.currency }
  currency : Text.upper r'.currency = Text.upper r.currency

section Spelling

variable {rates rates' : List Rate} {code : String} {day : Date}

theorem Rate.Respelled.isFor_iff {r r' : Rate} (h : r.Respelled r') (code : String) (day : Date) :
    r'.IsFor code day ↔ r.IsFor code day := by
  unfold IsFor
  rw [h.currency, h.eq]

theorem Rate.Respelled.start_eq {r r' : Rate} (h : r.Respelled r') : r'.start = r.start := by
  rw [h.eq]

theorem Rate.Respelled.atRate_eq {r r' : Rate} (h : r.Respelled r') (x : Decimal) :
    Converter.atRate x r' = Converter.atRate x r := by
  rw [h.eq]
  rfl

/-- The rate that applies under other codes is the one that applies, under another code. -/
theorem Rate.Applies.respelled (hrates : List.Forall₂ Rate.Respelled rates rates') {r : Rate}
    (h : r.Applies rates code day) : ∃ r', r.Respelled r' ∧ r'.Applies rates' code day := by
  obtain ⟨before, after, rfl, hfor, hbefore, hafter⟩ := h
  obtain ⟨before', r', after', rfl, hpairs, hr, hpairs'⟩ :=
    Pairing.exists_append (R := fun r' r ↦ Rate.Respelled r r') hrates.flip
  refine ⟨r', hr, before', after', rfl, (hr.isFor_iff code day).2 hfor, fun s' hs' hfor' ↦ ?_,
    fun s' hs' hfor' ↦ ?_⟩
  · obtain ⟨s, hs, hrespelled⟩ := Pairing.exists_mem_right hpairs hs'
    rw [hrespelled.start_eq, hr.start_eq]
    exact hbefore s hs ((hrespelled.isFor_iff code day).1 hfor')
  · obtain ⟨s, hs, hrespelled⟩ := Pairing.exists_mem_right hpairs' hs'
    rw [hrespelled.start_eq, hr.start_eq]
    exact hafter s hs ((hrespelled.isFor_iff code day).1 hfor')

/-- A conversion does not depend on the case of codes. -/
theorem Converter.convert_respelled {reference reference' : String} {currency currency' : Option String}
    (hreference : Text.upper reference' = Text.upper reference) (hrates : List.Forall₂ Rate.Respelled rates rates')
    (hcurrency : currency'.map Text.upper = currency.map Text.upper) (amount : Option Decimal) (day : Option Date) :
    (Converter.of reference' rates').convert amount currency' day =
      (Converter.of reference rates).convert amount currency day := by
  refine convert_congr hreference hcurrency fun x _ code _ _ d _ ↦ ?_
  cases hr : (Converter.of reference rates).rateOn (Text.upper code) d with
  | some r =>
    obtain ⟨r', hrespelled, happlies⟩ := (rateOn_eq_some_iff.1 hr).respelled hrates
    rw [rateOn_eq_some_iff.2 happlies, Option.map_some, Option.map_some, hrespelled.atRate_eq]
  | none =>
    have hnone := rateOn_eq_none_iff.1 hr
    rw [rateOn_eq_none_iff.2 fun r' hr' hfor' ↦ ?_]
    obtain ⟨r, hmem, hrespelled⟩ := Pairing.exists_mem_left hrates hr'
    exact hnone r hmem ((hrespelled.isFor_iff code d).1 hfor')

end Spelling

end BundleLedger
