import BundleLedger.Logging.Line
import Mathlib.Data.List.Basic
import Mathlib.Tactic.Common

/-!
# What a log line discloses

A line is written from the structured attributes of a record and nothing else of its attributes, and from an error
text only as far as it is kept: records that agree so far have the same line (`LogRecord.line_eq_of_agree`). Whatever
texts a record holds, nested in whatever values, they are escaped: every part of a line is made of the characters from
the blank to the tilde (`Text.FitsLine`), for escaping writes a character outside that range by its 16-bit units, one
or two of them, and a unit by hexadecimal digits, whatever its number is (`Text.fitsLine_escapedUnit`). So no value can
end a line or begin another. Texts are made of characters: half of a surrogate pair by itself is none, and a message
that would show one is refused. Main statement: `LogRecord.line_discloses`.
-/

set_option autoImplicit false

namespace BundleLedger

/-! ### Characters of a line -/

namespace Text

variable {s t : List Char}

/-- All characters of a text may stand in a line. -/
def FitsLine (s : List Char) : Prop :=
  ∀ c ∈ s, isLineChar c = true

instance (s : List Char) : Decidable (FitsLine s) :=
  List.decidableBAll _ s

@[simp] theorem fitsLine_nil : FitsLine [] := nofun

@[simp] theorem fitsLine_cons {c : Char} : FitsLine (c :: s) ↔ isLineChar c = true ∧ FitsLine s :=
  List.forall_mem_cons

@[simp] theorem fitsLine_append : FitsLine (s ++ t) ↔ FitsLine s ∧ FitsLine t :=
  List.forall_mem_append

theorem fitsLine_replicate {c : Char} (n : ℕ) (h : isLineChar c = true) : FitsLine (List.replicate n c) := by
  intro d hd
  rw [List.eq_of_mem_replicate hd, h]

theorem FitsLine.subset (h : FitsLine t) (hsub : s ⊆ t) : FitsLine s :=
  fun c hc ↦ h c (hsub hc)

theorem fitsLine_toDigits {base : ℕ} (hbase : 1 < base) (hle : base ≤ 16) (n : ℕ) : FitsLine (Nat.toDigits base n) := by
  have hdigit : ∀ digit < 16, isLineChar digit.digitChar = true := by decide
  induction n using Nat.strongRecOn with
  | ind n ih =>
    rw [Nat.toDigits_eq_if hbase]
    split_ifs with hlt
    · simp [hdigit n (Nat.lt_of_lt_of_le hlt hle)]
    · have hsmaller := ih (n / base) (Nat.div_lt_self (by omega) hbase)
      have hlast : n % base < 16 := Nat.lt_of_lt_of_le (Nat.mod_lt _ (by omega)) hle
      simp [hsmaller, hdigit _ hlast]

theorem fitsLine_padDigits (width : ℕ) (h : FitsLine s) : FitsLine (padDigits width s) := by
  rw [padDigits, fitsLine_append]
  exact ⟨fitsLine_replicate _ rfl, h⟩

theorem fitsLine_natural (n : ℕ) : FitsLine (natural n).toList := by
  rw [natural, String.toList_ofList]
  exact fitsLine_toDigits (by decide) (by decide) n

theorem fitsLine_integer (n : Int) : FitsLine (integer n).toList := by
  unfold integer
  split_ifs
  · rw [String.toList_append, fitsLine_append]
    exact ⟨by decide, fitsLine_natural _⟩
  · exact fitsLine_natural _

/-! ### Escaped texts -/

/-- A 16-bit unit is escaped by its number, whichever that is. -/
theorem fitsLine_escapedUnit (unit : ℕ) : FitsLine (escapedUnit unit) := by
  rw [escapedUnit, fitsLine_cons, fitsLine_cons]
  exact ⟨rfl, rfl, fitsLine_padDigits 4 (fitsLine_toDigits (by decide) (by decide) unit)⟩

theorem fitsLine_escapedUnits (c : Char) : FitsLine (escapedUnits c) := by
  unfold escapedUnits
  dsimp only
  split_ifs
  · exact fitsLine_escapedUnit _
  · exact fitsLine_append.2 ⟨fitsLine_escapedUnit _, fitsLine_escapedUnit _⟩

theorem fitsLine_escapeChar (c : Char) : FitsLine (escapeChar c) := by
  unfold escapeChar
  split_ifs with hmark _ _ _ _ _ hplain
  · rcases hmark with rfl | rfl <;> decide
  · decide
  · decide
  · decide
  · decide
  · decide
  · simp [isLineChar, hplain]
  · exact fitsLine_escapedUnits c

theorem fitsLine_escaped (text : String) : FitsLine (escaped text) := by
  have hflat : FitsLine (text.toList.flatMap escapeChar) := by
    intro c hc
    obtain ⟨d, -, hd⟩ := List.mem_flatMap.1 hc
    exact fitsLine_escapeChar d c hd
  simp only [escaped, fitsLine_cons, fitsLine_append]
  exact ⟨rfl, hflat, by decide⟩

end Text

/-! ### Written values -/

open Text

theorem Decimal.fitsLine_pointed {digits : List Char} (h : FitsLine digits) (whole : ℕ) :
    FitsLine (pointed digits whole) := by
  unfold pointed
  split_ifs
  · exact h
  · rw [fitsLine_append, fitsLine_cons]
    exact ⟨h.subset (List.take_subset _ _), rfl, h.subset (List.drop_subset _ _)⟩

theorem Decimal.fitsLine_signText (negative : Bool) : FitsLine (signText negative).toList := by
  cases negative <;> decide

namespace Double

theorem fitsLine_layout (coefficient : ℕ) (place : Int) : FitsLine (layout coefficient place) := by
  have hdigits := fitsLine_toDigits (by decide) (by decide : 10 ≤ 16) coefficient
  have hexponent (lead : Int) : FitsLine (padDigits 2 (Nat.toDigits 10 lead.natAbs)) :=
    fitsLine_padDigits 2 (fitsLine_toDigits (by decide) (by decide) _)
  have hzeros (n : ℕ) : FitsLine (List.replicate n '0') := fitsLine_replicate n rfl
  unfold layout
  dsimp only
  split_ifs
  · simp only [fitsLine_append, hdigits, hzeros, true_and]
    decide
  · exact Decimal.fitsLine_pointed hdigits _
  · simp only [fitsLine_cons, fitsLine_append]
    exact ⟨rfl, rfl, hzeros _, hdigits⟩
  · simp only [fitsLine_cons, fitsLine_append]
    exact ⟨Decimal.fitsLine_pointed hdigits 1, rfl, rfl, hexponent _⟩
  · simp only [fitsLine_cons, fitsLine_append]
    exact ⟨Decimal.fitsLine_pointed hdigits 1, rfl, rfl, hexponent _⟩

theorem fitsLine_textWith {infinity nan : String} (hinfinity : FitsLine infinity.toList) (hnan : FitsLine nan.toList)
    (x : Double) : FitsLine (x.textWith infinity nan).toList := by
  cases x with
  | finite negative mantissa exponent =>
    rw [textWith, String.toList_append, fitsLine_append]
    refine ⟨Decimal.fitsLine_signText negative, ?_⟩
    split_ifs
    · decide
    · obtain ⟨coefficient, place⟩ := dropZeros 20 (shortest mantissa exponent)
      rw [String.toList_ofList]
      exact fitsLine_layout coefficient place
  | infinite negative =>
    rw [textWith, String.toList_append, fitsLine_append]
    exact ⟨Decimal.fitsLine_signText negative, hinfinity⟩
  | notANumber => exact hnan

end Double

namespace Datum

theorem fitsLine_commaSeparated {items : List (List Char)} (h : ∀ item ∈ items, FitsLine item) :
    FitsLine (commaSeparated items) := by
  induction items using commaSeparated.induct with
  | case1 => exact fitsLine_nil
  | case2 item => exact h item List.mem_cons_self
  | case3 item rest hrest ih =>
    obtain ⟨hitem, hothers⟩ := List.forall_mem_cons.1 h
    rw [commaSeparated, fitsLine_append, fitsLine_cons, fitsLine_cons]
    · exact ⟨hitem, rfl, rfl, ih hothers⟩
    · exact hrest

mutual

/-- By induction along the nesting of the value: however deep a text stands, it is escaped. -/
theorem fitsLine_json (d : Datum) : FitsLine d.json := by
  cases d with
  | null => rw [json]; decide
  | bool value => cases value <;> (rw [json]; decide)
  | int n => rw [json]; exact fitsLine_integer n
  | real x => rw [json]; exact Double.fitsLine_textWith (by decide) (by decide) x
  | text s => rw [json]; exact fitsLine_escaped s
  | uuid id => rw [json]; exact fitsLine_escaped _
  | decimal x => rw [json]; exact fitsLine_escaped _
  | date day => rw [json]; exact fitsLine_escaped _
  | list items =>
    rw [json, fitsLine_cons, fitsLine_append]
    exact ⟨rfl, fitsLine_commaSeparated (fitsLine_jsonItems items), by decide⟩
  | dict entries =>
    rw [json, fitsLine_cons, fitsLine_append]
    exact ⟨rfl, fitsLine_commaSeparated (fitsLine_jsonEntries entries), by decide⟩
  | object kind shown spelling => rw [json]; exact fitsLine_escaped _

theorem fitsLine_jsonItems (items : List Datum) : ∀ piece ∈ jsonItems items, FitsLine piece := by
  cases items with
  | nil => rw [jsonItems]; exact nofun
  | cons item rest =>
    rw [jsonItems]
    exact List.forall_mem_cons.2 ⟨fitsLine_json item, fitsLine_jsonItems rest⟩

theorem fitsLine_jsonEntries (entries : List (String × Datum)) : ∀ piece ∈ jsonEntries entries, FitsLine piece := by
  cases entries with
  | nil => rw [jsonEntries]; exact nofun
  | cons entry rest =>
    obtain ⟨key, value⟩ := entry
    rw [jsonEntries]
    refine List.forall_mem_cons.2 ⟨?_, fitsLine_jsonEntries rest⟩
    rw [fitsLine_append, fitsLine_cons, fitsLine_cons]
    exact ⟨fitsLine_escaped key, rfl, rfl, fitsLine_json value⟩

end

end Datum

/-! ### Records that agree -/

namespace LogRecord

variable {r other : LogRecord}

/-- A structured attribute of two records that a line does not tell apart: it has the same value in both or is missing
in both, or it is an error text with the same first 500 characters. -/
def Indistinct (name : String) (a b : Option Datum) : Prop :=
  a = b ∨ name = "error" ∧
    ∃ s t : String, a = some (.text s) ∧ b = some (.text t) ∧ s.toList.take 500 = t.toList.take 500

/-- Two records agree in all that is written of them. Their other attributes may be anything, and so may templates and
arguments of the same message. -/
structure Agree (r other : LogRecord) : Prop where
  created : r.created = other.created
  levelName : r.levelName = other.levelName
  logger : r.logger = other.logger
  thread : r.thread = other.thread
  message : r.message = other.message
  correlation : r.correlation = other.correlation
  exception : r.exception = other.exception
  structured : ∀ name ∈ structuredFields,
    Indistinct name (Datum.lookup r.attributes name) (Datum.lookup other.attributes name)

/-- What is written of attributes that are not told apart is the same. -/
theorem Indistinct.written {name : String} {a b : Option Datum} (h : Indistinct name a b) :
    a.map (written name) = b.map (written name) := by
  rcases h with rfl | ⟨rfl, s, t, rfl, rfl, htake⟩
  · rfl
  · have hcut : Text.cut maxErrorLength s = Text.cut maxErrorLength t := by
      rw [← String.toList_inj, Text.toList_cut, Text.toList_cut]
      exact htake
    simp only [Option.map_some, LogRecord.written, if_pos, hcut]

theorem Agree.fields (h : Agree r other) : r.fields = other.fields := by
  have hstructured : ∀ name ∈ structuredFields,
      ((Datum.lookup r.attributes name).map fun value ↦ (name, written name value)) =
        (Datum.lookup other.attributes name).map fun value ↦ (name, written name value) := by
    intro name hname
    have hwritten := congrArg (Option.map (name, ·)) (h.structured name hname).written
    rwa [Option.map_map, Option.map_map] at hwritten
  rw [LogRecord.fields, LogRecord.fields, List.filterMap_congr hstructured, h.exception]

theorem line_eq_of_agree (h : Agree r other) : r.line = other.line := by
  have htime : r.time = other.time := by
    rw [time, time, h.created]
  rw [line, line, payload, payload, htime, h.message, h.levelName, h.logger, h.thread, h.correlation, h.fields]

theorem fitsLine_line {text : String} (h : r.line = .ok text) : FitsLine text.toList := by
  cases hpayload : r.payload with
  | error cause =>
    rw [line, hpayload] at h
    cases h
  | ok d =>
    rw [line, hpayload] at h
    obtain rfl : d.jsonText = text := Except.ok.inj h
    rw [Datum.jsonText, String.toList_ofList]
    exact d.fitsLine_json

/-- Records that agree in what is meant to be written have the same line, or fail to have one for the same cause. The
line of any record holds no character but those from the blank to the tilde, so it is one line. -/
theorem line_discloses (r : LogRecord) :
    (∀ other, Agree r other → r.line = other.line) ∧
      ∀ text, r.line = .ok text → ∀ c ∈ text.toList, 0x20 ≤ c.toNat ∧ c.toNat < 0x7f := by
  refine ⟨fun other ↦ line_eq_of_agree, fun text htext c hc ↦ ?_⟩
  have hline := fitsLine_line htext c hc
  simp only [isLineChar, Bool.and_eq_true, decide_eq_true_eq] at hline
  omega

/-- A text with a mark after so many characters. -/
def longText (count : ℕ) (mark : String) : String :=
  String.ofList (List.replicate count 'x') ++ mark

theorem take_longText (count : ℕ) (mark : String) :
    (longText count mark).toList.take count = List.replicate count 'x' := by
  rw [longText, String.toList_append, String.toList_ofList]
  exact List.take_left' List.length_replicate

/-- A record with a secret and with a long error text. The text of its bundle and that of its exception have breaks. -/
def secretive (secret mark : String) (arguments : List Datum) : LogRecord where
  created := .int 0
  levelName := .text "WARNING"
  logger := .text "ledger"
  thread := .text "main"
  template := .text (if arguments.isEmpty then "built" else "%s")
  arguments := arguments
  correlation := .null
  attributes :=
    [("password", .text secret), ("bundle_id", .list [.object "Bundle" "<bundle>" "b\n1"]),
      ("error", .text (longText 500 mark))]
  exception := some ⟨"ValueError", "a\nb"⟩

theorem line_discloses_secretive :
    Agree (secretive "hunter" "1" []) (secretive "other" "2" [.text "built"]) ∧
      (secretive "hunter" "1" []).line = (secretive "other" "2" [.text "built"]).line ∧
      ∃ text, (secretive "hunter" "1" []).line = .ok text ∧ ∀ c ∈ text.toList, 0x20 ≤ c.toNat ∧ c.toNat < 0x7f := by
  have hagree : Agree (secretive "hunter" "1" []) (secretive "other" "2" [.text "built"]) := by
    refine ⟨rfl, rfl, rfl, rfl, rfl, rfl, rfl, fun name hname ↦ ?_⟩
    have hpassword : name ≠ "password" := by
      rintro rfl
      revert hname
      decide
    by_cases herror : name = "error"
    · subst herror
      have htaken := (take_longText 500 "1").trans (take_longText 500 "2").symm
      exact .inr ⟨rfl, longText 500 "1", longText 500 "2", rfl, rfl, htaken⟩
    · exact .inl (by simp only [Datum.lookup, secretive, List.find?_cons, hpassword.symm, Ne.symm herror, decide_false])
  obtain ⟨text, htext⟩ : ∃ text, (secretive "hunter" "1" []).line = .ok text := ⟨_, rfl⟩
  exact ⟨hagree, (line_discloses _).1 _ hagree, text, htext, (line_discloses _).2 text htext⟩

end LogRecord
end BundleLedger
