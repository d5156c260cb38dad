import BundleLedger.Proofs.Pairing
import BundleLedger.Proofs.Request.PathLabel
import BundleLedger.Uuid

/-!
# Labels of paths, segment by segment

A path is its segments with slashes between. Blotting goes through the whole path, but no identifier and no number
reaches over a slash, and a slash ends every word: so what happens in a segment depends on nothing outside of it
(`blotIds_append_slash`, `blotNumbers_append_slash`). Identifiers are blotted out of each segment by itself, and a
number at the front of each segment but the first, which no slash precedes. A segment that spells an identifier or is
a number leaves only its token, whichever it is. Main statement: `PathLabel.sanitize_segmentwise`.
-/

set_option autoImplicit false

namespace BundleLedger.PathLabel

variable {first s t : List Char} {inWord : Bool}

/-! ### Segments by themselves -/

instance (s : List Char) : Decidable (StartsWithNumber s) :=
  inferInstanceAs (Decidable (_ ∧ _))

/-- A text with the decimal digits at its front blotted out, if they end at a word boundary. -/
def blotLeading (s : List Char) : List Char :=
  if StartsWithNumber s then token ++ afterDigits s else s

/-- The first segment of a path, sanitized by itself. -/
def sanitizeFirst (segment : String) : String :=
  String.ofList (blotIds false segment.toList)

/-- A later segment of a path, sanitized by itself. -/
def sanitizeLater (segment : String) : String :=
  String.ofList (blotLeading (blotIds false segment.toList))

/-- The segments of a path, each sanitized by itself. -/
def sanitizeEach : List String → List String
  | [] => []
  | first :: later => sanitizeFirst first :: later.map sanitizeLater

/-- A text spells an identifier of a version from one to five: 32 hexadecimal digits in their groups, of which the
thirteenth is the version, and the seventeenth begins with the two bits `10` of the variant. -/
def SpellsId (s : List Char) : Prop :=
  ∃ digits : List Char, s = Uuid.hyphenate digits ∧ digits.length = 32 ∧ (∀ c ∈ digits, Text.isHexDigit c = true) ∧
    (∃ version, digits[12]?.bind Text.hexValue? = some version ∧ 1 ≤ version ∧ version ≤ 5) ∧
      ∃ variant, digits[16]?.bind Text.hexValue? = some variant ∧ variant / 4 = 2

/-- A text is a number: decimal digits of any script, and at least one. -/
def IsNumber (s : List Char) : Prop :=
  s ≠ [] ∧ ∀ c ∈ s, Text.isDecimalDigit c = true

/-- Two segments that a label does not tell apart: equal ones, or two of which each spells an identifier or is a
number. -/
def Alike (a b : String) : Prop :=
  a = b ∨ (SpellsId a.toList ∨ IsNumber a.toList) ∧ (SpellsId b.toList ∨ IsNumber b.toList)

/-! ### Before a slash -/

theorem isWordChar_slash : Text.isWordChar '/' = false := by
  decide

theorem isDecimalDigit_slash : Text.isDecimalDigit '/' = false := by
  decide

theorem endsWord_append_slash : endsWord (s ++ '/' :: t) = endsWord s := by
  cases s with
  | nil => simp [endsWord, isWordChar_slash]
  | cons c s => rfl

theorem fits_append_slash {ps : List (Char → Bool)} (hps : ∀ p ∈ ps, p '/' = false) :
    fits ps (s ++ '/' :: t) = fits ps s := by
  induction ps generalizing s with
  | nil => rfl
  | cons p ps ih =>
    obtain ⟨hp, hps⟩ := List.forall_mem_cons.1 hps
    cases s with
    | nil => simp [fits, hp]
    | cons c s => simp [fits, ih hps]

theorem length_le_of_fits {ps : List (Char → Bool)} (h : fits ps s = true) : ps.length ≤ s.length := by
  obtain ⟨id, after, rfl, hid⟩ := fits_iff.1 h
  rw [hid.length_eq, List.length_append]
  exact Nat.le_add_right _ _

theorem startsWithId_append_slash : startsWithId (s ++ '/' :: t) = startsWithId s := by
  rw [startsWithId, startsWithId, fits_append_slash fun p hp ↦ (not_mark_of_mem_shape p hp).2.2]
  by_cases hfits : fits shape s = true
  · rw [List.drop_append_of_le_length (length_le_of_fits hfits), endsWord_append_slash]
  · rw [Bool.eq_false_iff.2 hfits, Bool.false_and, Bool.false_and]

theorem afterDigits_append_slash : afterDigits (s ++ '/' :: t) = afterDigits s ++ '/' :: t := by
  have hslash : afterDigits ('/' :: t) = '/' :: t := List.dropWhile_cons_of_neg (by simp [isDecimalDigit_slash])
  rw [afterDigits, List.dropWhile_append, ← afterDigits, ← afterDigits, hslash]
  split_ifs with hnone
  · rw [List.isEmpty_iff.1 hnone, List.nil_append]
  · rfl

theorem startsWithNumber_append_slash : StartsWithNumber (s ++ '/' :: t) ↔ StartsWithNumber s := by
  rw [StartsWithNumber, StartsWithNumber, afterDigits_append_slash, endsWord_append_slash, List.length_append,
    List.length_append, Nat.add_lt_add_iff_right]

/-- By induction along the text before the slash: an identifier there ends before it, and after the slash a word may
begin as at the beginning of a text. -/
theorem blotIds_append_slash :
    blotIds inWord (s ++ '/' :: t) = blotIds inWord s ++ '/' :: blotIds false t := by
  fun_induction blotIds inWord s with
  | case1 inWord =>
    have hslash : startsWithId ('/' :: t) = false := rfl
    rw [List.nil_append, List.nil_append, blotIds_cons (by simp [hslash]), isWordChar_slash]
  | case2 inWord c rest hid ih =>
    simp only [Bool.and_eq_true, Bool.not_eq_true'] at hid
    have hlength : shape.length ≤ (c :: rest).length :=
      length_le_of_fits (Bool.and_eq_true_iff.1 hid.2).1
    have hwhole : startsWithId (c :: (rest ++ '/' :: t)) = true := by
      rw [← List.cons_append, startsWithId_append_slash, hid.2]
    rw [List.cons_append, blotIds_of_startsWithId ⟨hid.1, hwhole⟩, ← List.cons_append,
      List.drop_append_of_le_length hlength, ih, List.append_assoc]
  | case3 inWord c rest hid ih =>
    have hwhole : ¬(inWord = false ∧ startsWithId (c :: (rest ++ '/' :: t)) = true) := by
      rw [← List.cons_append, startsWithId_append_slash]
      simpa using hid
    rw [List.cons_append, blotIds_cons hwhole, ih, List.cons_append]

/-- By induction along the text before the slash: digits there end before it, as they do at the end of a text. -/
theorem blotNumbers_append_slash : blotNumbers (s ++ '/' :: t) = blotNumbers s ++ blotNumbers ('/' :: t) := by
  fun_induction blotNumbers s with
  | case1 => rfl
  | case2 c rest hnumber ih =>
    obtain ⟨rfl, hstarts⟩ := hnumber
    have hwhole : StartsWithNumber (rest ++ '/' :: t) := startsWithNumber_append_slash.2 hstarts
    rw [List.cons_append, blotNumbers_of_startsWithNumber hwhole, afterDigits_append_slash, ih, List.append_assoc]
  | case3 c rest hnumber ih =>
    have hwhole : ¬(c = '/' ∧ StartsWithNumber (rest ++ '/' :: t)) := by
      rwa [startsWithNumber_append_slash]
    rw [List.cons_append, blotNumbers_cons hwhole, ih, List.cons_append]

/-! ### Joined segments -/

/-- A path with its slashes at the fronts of the later segments. -/
theorem intercalate_slash (first : List Char) (later : List (List Char)) :
    ['/'].intercalate (first :: later) = first ++ later.flatMap ('/' :: ·) := by
  induction later generalizing first with
  | nil => simp
  | cons s later ih => simp [List.intercalate_cons_cons, ih]

theorem blotIds_joined (first : List Char) (later : List (List Char)) :
    blotIds false (first ++ later.flatMap ('/' :: ·)) =
      blotIds false first ++ (later.map (blotIds false)).flatMap ('/' :: ·) := by
  induction later generalizing first with
  | nil => simp
  | cons s later ih =>
    rw [List.flatMap_cons, List.cons_append, blotIds_append_slash, ih]
    rfl

theorem blotNumbers_joined (first : List Char) (later : List (List Char)) :
    blotNumbers (first ++ later.flatMap ('/' :: ·)) =
      blotNumbers first ++ later.flatMap fun s ↦ blotNumbers ('/' :: s) := by
  induction later generalizing first with
  | nil => simp
  | cons s later ih =>
    rw [List.flatMap_cons, List.cons_append, blotNumbers_append_slash, ← List.cons_append, ih, List.flatMap_cons]

/-- What sanitizing makes of joined segments, which may hold slashes of their own. -/
theorem blotted_joined (first : List Char) (later : List (List Char)) :
    blotNumbers (blotIds false (first ++ later.flatMap ('/' :: ·))) =
      blotNumbers (blotIds false first) ++ later.flatMap fun s ↦ blotNumbers ('/' :: blotIds false s) := by
  rw [blotIds_joined, blotNumbers_joined, List.flatMap_map]

theorem slash_not_mem_blotIds (h : '/' ∉ s) : '/' ∉ blotIds inWord s := by
  have htoken : '/' ∉ token := by decide
  fun_induction blotIds inWord s with
  | case1 => exact h
  | case2 inWord c rest hid ih =>
    rw [List.mem_append, not_or]
    exact ⟨htoken, ih fun hmem ↦ h (List.mem_of_mem_drop hmem)⟩
  | case3 inWord c rest hid ih =>
    rw [List.mem_cons, not_or] at h ⊢
    exact ⟨h.1, ih h.2⟩

theorem blotNumbers_of_slash_not_mem (h : '/' ∉ s) : blotNumbers s = s := by
  refine blotNumbers_eq_self ?_
  rintro ⟨before, rest, rfl, -⟩
  simp at h

theorem blotNumbers_slash (h : '/' ∉ s) : blotNumbers ('/' :: s) = '/' :: blotLeading s := by
  rw [blotLeading]
  split_ifs with hnumber
  · have hafter : '/' ∉ afterDigits s := fun hmem ↦ h ((List.dropWhile_sublist _).subset hmem)
    rw [blotNumbers_of_startsWithNumber hnumber, blotNumbers_of_slash_not_mem hafter, List.cons_append]
  · rw [blotNumbers_cons fun hstarts ↦ hnumber hstarts.2, blotNumbers_of_slash_not_mem h]

/-! ### Segments that leave only a token -/

theorem forall₂_replicate {p : Char → Bool} {n : ℕ} (hlength : s.length = n) (h : ∀ c ∈ s, p c = true) :
    List.Forall₂ (fun p c ↦ p c = true) (List.replicate n p) s := by
  induction s generalizing n with
  | nil =>
    obtain rfl : 0 = n := hlength
    exact .nil
  | cons c s ih =>
    obtain rfl : s.length + 1 = n := hlength
    obtain ⟨hc, hs⟩ := List.forall_mem_cons.1 h
    exact .cons hc (ih rfl hs)

/-- The value of a hexadecimal digit tells which character it is. -/
theorem hexValue?_eq_some {c : Char} {value : ℕ} (h : Text.hexValue? c = some value) :
    48 ≤ c.toNat ∧ c.toNat ≤ 57 ∧ value = c.toNat - 48 ∨ 97 ≤ c.toNat ∧ c.toNat ≤ 102 ∧ value = c.toNat - 87 ∨
      65 ≤ c.toNat ∧ c.toNat ≤ 70 ∧ value = c.toNat - 55 := by
  simp only [Text.hexValue?, Bool.and_eq_true, decide_eq_true_eq] at h
  split_ifs at h <;> simp_all

theorem isVersion_of_hexValue? {c : Char} {version : ℕ} (h : Text.hexValue? c = some version) (hone : 1 ≤ version)
    (hfive : version ≤ 5) : isVersion c = true := by
  simp only [isVersion, Bool.and_eq_true, decide_eq_true_eq]
  have := hexValue?_eq_some h
  omega

theorem isVariant_of_hexValue? {c : Char} {variant : ℕ} (h : Text.hexValue? c = some variant)
    (hbits : variant / 4 = 2) : isVariant c = true := by
  have hcases : c.toNat = 56 ∨ c.toNat = 57 ∨ c.toNat = 97 ∨ c.toNat = 98 ∨ c.toNat = 65 ∨ c.toNat = 66 := by
    have := hexValue?_eq_some h
    omega
  have hchar {n : ℕ} (hn : c.toNat = n) : c = Char.ofNat n := by
    rw [← hn, Char.ofNat_toNat]
  rcases hcases with h | h | h | h | h | h <;> rw [hchar h] <;> decide

/-- The shape that is looked for is that of the identifiers of the five versions. -/
theorem SpellsId.shape (h : SpellsId s) : List.Forall₂ (fun p c ↦ p c = true) shape s := by
  obtain ⟨digits, rfl, hlength, hhex, ⟨version, hversion, hone, hfive⟩, variant, hvariant, hbits⟩ := h
  rw [List.getElem?_eq_getElem (by omega), Option.bind_some] at hversion hvariant
  have hgroup (skipped count : ℕ) (hle : skipped + count ≤ 32) :
      List.Forall₂ (fun p c ↦ p c = true) (List.replicate count Text.isHexDigit)
        ((digits.drop skipped).take count) := by
    refine forall₂_replicate ?_ fun c hc ↦ hhex c (List.mem_of_mem_drop (List.mem_of_mem_take hc))
    rw [List.length_take, List.length_drop]
    omega
  have hlast : digits.drop 20 = (digits.drop 20).take 12 := by
    rw [List.take_of_length_le]
    rw [List.length_drop]
    omega
  rw [Uuid.hyphenate, List.drop_eq_getElem_cons (i := 12) (by omega), List.drop_eq_getElem_cons (i := 16) (by omega),
    List.take_succ_cons, List.take_succ_cons, hlast]
  refine List.rel_append (hgroup 0 8 (by omega)) (.cons rfl ?_)
  refine List.rel_append (hgroup 8 4 (by omega)) (.cons rfl (.cons (isVersion_of_hexValue? hversion hone hfive) ?_))
  refine List.rel_append (hgroup 13 3 (by omega)) (.cons rfl (.cons (isVariant_of_hexValue? hvariant hbits) ?_))
  exact List.rel_append (hgroup 17 3 (by omega)) (.cons rfl (hgroup 20 12 (by omega)))

theorem blotIds_of_spellsId (h : SpellsId s) : blotIds false s = token := by
  have hid : startsWithId s = true := by
    rw [startsWithId, Bool.and_eq_true, fits_iff]
    refine ⟨⟨s, [], (List.append_nil s).symm, h.shape⟩, ?_⟩
    rw [h.shape.length_eq, List.drop_length]
    rfl
  have hdrop : s.drop shape.length = [] := by
    rw [h.shape.length_eq, List.drop_length]
  cases s with
  | nil => cases hid
  | cons c s => rw [blotIds_of_startsWithId ⟨rfl, hid⟩, hdrop, blotIds_nil, List.append_nil]

/-- Every identifier holds a hyphen, and no number does. -/
theorem blotIds_of_isNumber (h : IsNumber s) : blotIds false s = s := by
  refine blotIds_eq_self ?_
  rintro ⟨before, rest, rfl, -, hid⟩
  rw [startsWithId, Bool.and_eq_true, fits_iff] at hid
  obtain ⟨⟨id, after, rfl, hshape⟩, -⟩ := hid
  have hlength : 8 < id.length := hshape.length_eq ▸ (by decide : 8 < shape.length)
  have hhyphen : id[8] = '-' := of_decide_eq_true ((List.forall₂_iff_get.1 hshape).2 8 (by decide) hlength)
  have hmem : '-' ∈ id := hhyphen ▸ List.getElem_mem hlength
  have hdigit := h.2 '-' (by simp [hmem])
  revert hdigit
  decide

theorem blotLeading_of_isNumber (h : IsNumber s) : blotLeading s = token := by
  have hafter : afterDigits s = [] := List.dropWhile_eq_nil_iff.2 h.2
  have hstarts : StartsWithNumber s := by
    rw [StartsWithNumber, hafter]
    exact ⟨List.length_pos_iff.2 h.1, rfl⟩
  rw [blotLeading, if_pos hstarts, hafter, List.append_nil]

/-- A segment that spells an identifier or is a number leaves its token after the slash. -/
theorem blotNumbers_of_identifying (h : SpellsId s ∨ IsNumber s) :
    blotNumbers ('/' :: blotIds false s) = '/' :: token := by
  rcases h with hid | hnumber
  · have htoken : ¬StartsWithNumber token := by decide
    rw [blotIds_of_spellsId hid, blotNumbers_slash (by decide), blotLeading, if_neg htoken]
  · have hslash : '/' ∉ s := fun hmem ↦ by simpa [isDecimalDigit_slash] using hnumber.2 '/' hmem
    rw [blotIds_of_isNumber hnumber, blotNumbers_slash hslash, blotLeading_of_isNumber hnumber]

/-! ### Addresses -/

/-- The slash that an address puts before a path that is not empty and has none at its front. -/
def addressLead (s : List Char) : List Char :=
  if s.head?.all (· = '/') then [] else ['/']

theorem toList_addressed (path : String) :
    (addressed path).toList = addressLead path.toList ++ path.toList.flatMap addressChar := by
  have hslash : addressChar '/' = ['/'] := by decide
  rw [addressed, String.toList_ofList]
  generalize path.toList = characters
  split
  case h_1 => rfl
  case h_2 rest => simp [addressLead, hslash]
  case h_3 hne hnoslash =>
    cases characters with
    | nil => exact absurd rfl hne
    | cons c rest =>
      have hc : c ≠ '/' := fun hc ↦ hnoslash rest (hc ▸ rfl)
      simp [addressLead, hc]

/-- Where the first segment is not empty it decides whether an address needs a slash at its front. -/
theorem addressLead_joined (first : List Char) (later : List (List Char)) :
    addressLead (first ++ later.flatMap ('/' :: ·)) = addressLead first := by
  cases first with
  | nil => cases later <;> simp [addressLead]
  | cons c first => rfl

/-- What an address makes of the segments of a path. -/
theorem toList_addressed_joined {path : String} {later : List (List Char)}
    (h : path.toList = first ++ later.flatMap ('/' :: ·)) :
    (addressed path).toList =
      addressLead first ++ first.flatMap addressChar ++
        (later.map fun s ↦ s.flatMap addressChar).flatMap ('/' :: ·) := by
  have hslash : addressChar '/' = ['/'] := by decide
  rw [toList_addressed, h, addressLead_joined, List.flatMap_append, List.flatMap_assoc, List.flatMap_map,
    List.append_assoc]
  simp [hslash]

/-- The marks that an address escapes or leaves out. -/
def addressMarks : List Char := ['?', '#', '\t', '\n', '\r']

theorem addressChar_of_not_mem {c : Char} (h : c ∉ addressMarks) : addressChar c = [c] := by
  simp only [addressMarks, List.mem_cons, List.not_mem_nil, or_false, not_or] at h
  simp [addressChar, h]

theorem not_address_mark_of_mem_shape : ∀ p ∈ shape, ∀ mark ∈ addressMarks, p mark = false := by
  have hall : shape.all (fun p ↦ addressMarks.all fun mark ↦ !p mark) = true := by decide
  simpa only [List.all_eq_true, Bool.not_eq_true'] using hall

/-- No character of an identifier or a number is changed in an address. -/
theorem flatMap_addressChar_of_identifying (h : SpellsId s ∨ IsNumber s) : s.flatMap addressChar = s := by
  have hmarks : ∀ c ∈ s, c ∉ addressMarks := by
    intro c hc hmark
    rcases h with hid | hnumber
    · obtain ⟨p, hp, hpc⟩ := Pairing.exists_mem_left hid.shape hc
      rw [not_address_mark_of_mem_shape p hp c hmark] at hpc
      cases hpc
    · have hall : addressMarks.all (fun mark ↦ !Text.isDecimalDigit mark) = true := by decide
      have hnone : ∀ mark ∈ addressMarks, Text.isDecimalDigit mark = false := by
        simpa only [List.all_eq_true, Bool.not_eq_true'] using hall
      have hdigit := hnumber.2 c hc
      rw [hnone c hmark] at hdigit
      cases hdigit
  rw [List.flatMap_congr fun c hc ↦ addressChar_of_not_mem (hmarks c hc), List.flatMap_singleton']

/-! ### Sanitized paths and labels -/

theorem toList_intercalate_slash (first : String) (later : List String) :
    ("/".intercalate (first :: later)).toList = first.toList ++ (later.map String.toList).flatMap ('/' :: ·) := by
  rw [String.toList_intercalate, List.map_cons, ← intercalate_slash]
  rfl

theorem sanitize_intercalate {segments : List String} (h : ∀ s ∈ segments, '/' ∉ s.toList) :
    sanitize ("/".intercalate segments) = "/".intercalate (sanitizeEach segments) := by
  cases segments with
  | nil =>
    rw [sanitize, sanitizeEach, String.intercalate_nil, String.toList_empty, blotIds_nil, blotNumbers_nil]
  | cons first later =>
    obtain ⟨hfirst, hlater⟩ := List.forall_mem_cons.1 h
    have hsegment : ∀ s ∈ later, blotNumbers ('/' :: blotIds false s.toList) = '/' :: (sanitizeLater s).toList := by
      intro s hs
      rw [blotNumbers_slash (slash_not_mem_blotIds (hlater s hs)), sanitizeLater, String.toList_ofList]
    rw [← String.toList_inj, toList_sanitize, sanitizeEach, toList_intercalate_slash, toList_intercalate_slash,
      blotted_joined, blotNumbers_of_slash_not_mem (slash_not_mem_blotIds hfirst), sanitizeFirst, String.toList_ofList,
      List.flatMap_map, List.map_map, List.flatMap_map, List.flatMap_congr hsegment]
    rfl

/-- What the address of a path leaves of a segment when it is sanitized. -/
theorem sanitize_addressed (first : String) (later : List String) :
    (sanitize (addressed ("/".intercalate (first :: later)))).toList =
      blotNumbers (blotIds false (addressLead first.toList ++ first.toList.flatMap addressChar)) ++
        later.flatMap fun s ↦ blotNumbers ('/' :: blotIds false (s.toList.flatMap addressChar)) := by
  rw [toList_sanitize, toList_addressed_joined (toList_intercalate_slash first later), blotted_joined,
    List.flatMap_map, List.flatMap_map]

theorem Alike.blotted {a b : String} (h : Alike a b) :
    blotNumbers ('/' :: blotIds false (a.toList.flatMap addressChar)) =
      blotNumbers ('/' :: blotIds false (b.toList.flatMap addressChar)) := by
  rcases h with rfl | ⟨ha, hb⟩
  · rfl
  · rw [flatMap_addressChar_of_identifying ha, flatMap_addressChar_of_identifying hb, blotNumbers_of_identifying ha,
      blotNumbers_of_identifying hb]

theorem resolve_of_alike (route : Option Route) (first : String) {left right : List String}
    (h : List.Forall₂ Alike left right) :
    resolve route ("/".intercalate (first :: left)) = resolve route ("/".intercalate (first :: right)) := by
  have hsegments : (left.flatMap fun s ↦ blotNumbers ('/' :: blotIds false (s.toList.flatMap addressChar))) =
      right.flatMap fun s ↦ blotNumbers ('/' :: blotIds false (s.toList.flatMap addressChar)) := by
    induction h with
    | nil => rfl
    | cons hab _ ih => rw [List.flatMap_cons, List.flatMap_cons, hab.blotted, ih]
  have hpath : sanitize (addressed ("/".intercalate (first :: left))) =
      sanitize (addressed ("/".intercalate (first :: right))) := by
    rw [← String.toList_inj, sanitize_addressed, sanitize_addressed, hsegments]
  simp only [resolve, hpath]

/-- Segments without slashes are sanitized each by itself, and paths that differ only in later segments that spell
identifiers or are numbers have the same label, on every route or on none. -/
theorem sanitize_segmentwise :
    (∀ segments : List String, (∀ s ∈ segments, '/' ∉ s.toList) →
        sanitize ("/".intercalate segments) = "/".intercalate (sanitizeEach segments)) ∧
      ∀ (route : Option Route) (first : String) (left right : List String), List.Forall₂ Alike left right →
        resolve route ("/".intercalate (first :: left)) = resolve route ("/".intercalate (first :: right)) :=
  ⟨fun _ ↦ sanitize_intercalate, fun route first _ _ ↦ resolve_of_alike route first⟩

/-- A path with an identifier in capital letters, and with a number in the digits of another script in its place. -/
theorem sanitize_segmentwise_sample :
    (∀ s ∈ ["", "accounts", "6BA7B810-9DAD-11D1-80B4-00C04FD430C8", "12a"], '/' ∉ s.toList) ∧
      List.Forall₂ Alike ["accounts", "6BA7B810-9DAD-11D1-80B4-00C04FD430C8", "12a"] ["accounts", "٣٤", "12a"] ∧
      sanitize ("/".intercalate ["", "accounts", "6BA7B810-9DAD-11D1-80B4-00C04FD430C8", "12a"]) =
        "/".intercalate (sanitizeEach ["", "accounts", "6BA7B810-9DAD-11D1-80B4-00C04FD430C8", "12a"]) ∧
      resolve none ("/".intercalate ["", "accounts", "6BA7B810-9DAD-11D1-80B4-00C04FD430C8", "12a"]) =
        resolve none ("/".intercalate ["", "accounts", "٣٤", "12a"]) := by
  have hslash : ∀ s ∈ ["", "accounts", "6BA7B810-9DAD-11D1-80B4-00C04FD430C8", "12a"], '/' ∉ s.toList := by
    decide
  have hhex : ∀ c ∈ "6BA7B8109DAD11D180B400C04FD430C8".toList, Text.isHexDigit c = true :=
    List.all_eq_true.1 (by decide)
  have hid : SpellsId "6BA7B810-9DAD-11D1-80B4-00C04FD430C8".toList :=
    ⟨"6BA7B8109DAD11D180B400C04FD430C8".toList, by decide, by decide, hhex, ⟨1, by decide, by decide, by decide⟩,
      8, by decide, by decide⟩
  have hnumber : IsNumber "٣٤".toList := ⟨by decide, List.all_eq_true.1 (by decide +kernel)⟩
  have halike :
      List.Forall₂ Alike ["accounts", "6BA7B810-9DAD-11D1-80B4-00C04FD430C8", "12a"] ["accounts", "٣٤", "12a"] :=
    .cons (.inl rfl) (.cons (.inr ⟨.inl hid, .inr hnumber⟩) (.cons (.inl rfl) .nil))
  exact ⟨hslash, halike, sanitize_segmentwise.1 _ hslash, sanitize_segmentwise.2 none "" _ _ halike⟩

end BundleLedger.PathLabel
