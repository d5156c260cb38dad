import BundleLedger.Access.Token
import BundleLedger.Proofs.Result
import Mathlib.Tactic.Common

/-!
# Verified tokens

When a token is verified, said without the order in which it is read: it is a header, a payload and a signature
with points between (`Token.Reads`), the header names the algorithm, the signature is the code of what it signs
under a key of the secret (`Secret.Signs`), and the claims of the payload hold (`Token.ClaimsHold`). Reading a token
can also break (`Token.Breaks`): on values nested too deep, on a key that cannot be used, and on a claim that should
be a number and is of a kind that never is one. Main statements: reading fails exactly on a token that breaks it
(`fails_claims_iff`), and of any other token it gives claims exactly if the token is verified and these are its
claims (`claims_eq_ok_iff`).
-/

set_option autoImplicit false

namespace BundleLedger

open Result

/-! ### Failures that are not the token's fault -/

/-- A computation ends with a failure, and not with the rejection of a token. -/
def Fails {α : Type} (x : Except Refusal α) : Prop :=
  ∃ cause, x = .error (.failed cause)

section Fails

variable {α β : Type}

instance : (x : Except Refusal α) → Decidable (Fails x)
  | .error (.failed cause) => .isTrue ⟨cause, rfl⟩
  | .error .rejected => .isFalse (by simp [Fails])
  | .ok _ => .isFalse (by simp [Fails])

theorem fails_bind_iff {x : Except Refusal α} {f : α → Except Refusal β} :
    Fails (x >>= f) ↔ Fails x ∨ ∃ u, x = .ok u ∧ Fails (f u) := by
  cases x with
  | error refusal => simp [Fails, Bind.bind, Except.bind]
  | ok u => simp [Fails, Bind.bind, Except.bind]

@[simp] theorem not_fails_ok (value : α) : ¬Fails (.ok value) := by
  simp [Fails]

@[simp] theorem not_fails_pure (value : α) : ¬Fails (pure value) :=
  not_fails_ok value

@[simp] theorem not_fails_orRejected (x : Option α) : ¬Fails (Token.orRejected x) := by
  cases x <;> simp [Fails, Token.orRejected]

@[simp] theorem not_fails_require (holds : Bool) : ¬Fails (Token.require holds) := by
  cases holds <;> simp [Fails, Token.require]

@[simp] theorem fails_orFailed_iff {x : Except Cause α} : Fails (Token.orFailed x) ↔ ∃ cause, x = .error cause := by
  cases x <;> simp [Fails, Token.orFailed]

theorem orFailed_eq_ok_iff {x : Except Cause α} {value : α} : Token.orFailed x = .ok value ↔ x = .ok value := by
  cases x <;> simp [Token.orFailed]

theorem orRejected_eq_ok_iff {x : Option α} {value : α} : Token.orRejected x = .ok value ↔ x = some value := by
  cases x <;> simp [Token.orRejected]

theorem require_eq_ok_iff {holds : Bool} {u : Unit} : Token.require holds = .ok u ↔ holds = true := by
  cases holds <;> simp [Token.require]

end Fails

/-! ### Keys -/

/-- A place in a list after members with a property is at its front, or in the rest if the front has the property. -/
theorem exists_split_cons_iff {α : Type} {P Q : α → Prop} {first : α} {rest : List α} :
    (∃ before item after, first :: rest = before ++ item :: after ∧ P item ∧ ∀ x ∈ before, Q x) ↔
      P first ∨ Q first ∧ ∃ before item after, rest = before ++ item :: after ∧ P item ∧ ∀ x ∈ before, Q x := by
  constructor
  · rintro ⟨before, item, after, hsplit, hitem, hbefore⟩
    cases before with
    | nil =>
      obtain ⟨rfl, -⟩ := List.cons.inj hsplit
      exact .inl hitem
    | cons front before =>
      obtain ⟨rfl, rfl⟩ := List.cons.inj hsplit
      obtain ⟨hfront, hbefore⟩ := List.forall_mem_cons.1 hbefore
      exact .inr ⟨hfront, before, item, after, rfl, hitem, hbefore⟩
  · rintro (hfirst | ⟨hfirst, before, item, after, rfl, hitem, hbefore⟩)
    · exact ⟨[], first, rest, rfl, hfirst, by simp⟩
    · exact ⟨first :: before, item, after, rfl, hitem, List.forall_mem_cons.2 ⟨hfirst, hbefore⟩⟩

namespace Secret

/-- A key makes the code of a message under an algorithm of codes. -/
def KeySigns (algorithm : String) (message code : Bytes) (key : Datum) : Prop :=
  ∃ member bytes, Algorithm.ofName? algorithm = some member ∧ Key.codeBytes key = .ok bytes ∧
    member.code bytes message = code

/-- A code is that of a message under one of the keys of a secret. -/
def Signs (secret algorithm : String) (message code : Bytes) : Prop :=
  ∃ available, keys secret = .ok available ∧ ∃ key ∈ available, KeySigns algorithm message code key

/-- The keys of a secret cannot all be tried: the secret spells no keys, or a key that cannot be used comes before
any that makes the code. -/
def Unusable (secret algorithm : String) (message code : Bytes) : Prop :=
  (∃ cause, keys secret = .error cause) ∨
    ∃ before key after, keys secret = .ok (before ++ key :: after) ∧
      (∃ cause, Key.prepare algorithm key = .error cause) ∧ ∀ tried ∈ before, ¬KeySigns algorithm message code tried

/-- A secret that is its own only key, and does not read as a key of another kind. -/
structure IsPlain (secret : String) : Prop where
  keys : keys secret = .ok [.text secret]
  isArmored : Key.isArmored secret.toList = false
  isShellKey : Key.isShellKey secret.toList = false

end Secret

/-- The algorithms of codes are a family of their own among the names of algorithms. -/
theorem Key.Family.ofName?_eq_code_iff {name : String} {member : Algorithm} :
    Key.Family.ofName? name = some (.code member) ↔ Algorithm.ofName? name = some member := by
  constructor
  · intro h
    unfold Key.Family.ofName? at h
    grind
  · intro h
    have hname : member.name = name := by simpa using List.find?_some h
    subst hname
    cases member <;> decide +kernel

namespace Secret

variable {algorithm : String} {message code : Bytes} {key : Datum}

theorem prepare_eq_some_iff {member : Algorithm} {bytes : Bytes} :
    Key.prepare algorithm key = .ok (some (member, bytes)) ↔
      Algorithm.ofName? algorithm = some member ∧ Key.codeBytes key = .ok bytes := by
  rw [← Key.Family.ofName?_eq_code_iff]
  unfold Key.prepare
  split <;> simp_all [map_eq_ok_iff, and_comm]

theorem signs_eq_true_iff : Key.signs algorithm message code key = .ok true ↔ KeySigns algorithm message code key := by
  simp only [Key.signs, map_eq_ok_iff, KeySigns]
  constructor
  · rintro ⟨prepared, hprepared, hsigns⟩
    cases prepared with
    | none => simp at hsigns
    | some pair =>
      obtain ⟨hmember, hbytes⟩ := prepare_eq_some_iff.1 hprepared
      exact ⟨pair.1, pair.2, hmember, hbytes, by simpa using hsigns⟩
  · rintro ⟨member, bytes, hmember, hbytes, hcode⟩
    exact ⟨some (member, bytes), prepare_eq_some_iff.2 ⟨hmember, hbytes⟩, by simpa using hcode⟩

theorem signs_eq_error_iff :
    (∃ cause, Key.signs algorithm message code key = .error cause) ↔
      ∃ cause, Key.prepare algorithm key = .error cause := by
  unfold Key.signs
  cases Key.prepare algorithm key <;> simp [Except.map]

theorem signs_eq_false_iff :
    Key.signs algorithm message code key = .ok false ↔
      (¬∃ cause, Key.prepare algorithm key = .error cause) ∧ ¬KeySigns algorithm message code key := by
  rw [← signs_eq_error_iff, ← signs_eq_true_iff]
  cases Key.signs algorithm message code key <;> simp

theorem anySigns_cons (available : List Datum) :
    anySigns algorithm message code (key :: available) =
      Key.signs algorithm message code key >>= fun signs ↦
        if signs then .ok true else anySigns algorithm message code available := by
  rfl

/-- A trial of keys fails exactly at a key that cannot be used, after keys that do not sign. -/
theorem anySigns_eq_error_iff {available : List Datum} :
    (∃ cause, anySigns algorithm message code available = .error cause) ↔
      ∃ before key after, available = before ++ key :: after ∧
        (∃ cause, Key.prepare algorithm key = .error cause) ∧
        ∀ tried ∈ before, ¬KeySigns algorithm message code tried := by
  induction available with
  | nil => simp [anySigns]
  | cons first rest ih =>
    rw [exists_split_cons_iff, ← ih, anySigns_cons, bind_eq_error_iff, signs_eq_error_iff]
    by_cases hstuck : ∃ cause, Key.prepare algorithm first = .error cause
    · simp only [hstuck, true_or]
    -- A key that can be used ends the trial if it signs, and leaves it to the rest if it does not.
    · have hfalse : Key.signs algorithm message code first = .ok false ↔ ¬KeySigns algorithm message code first := by
        rw [signs_eq_false_iff, and_iff_right hstuck]
      simp only [hstuck, false_or, Bool.exists_bool, hfalse, if_true, Bool.false_eq_true, if_false, reduceCtorEq,
        exists_false, and_false, or_false]

/-- A trial of keys that does not fail finds whether one of them signs. -/
theorem anySigns_eq_ok_iff {available : List Datum} {answer : Bool}
    (h : anySigns algorithm message code available = .ok answer) :
    answer = true ↔ ∃ key ∈ available, KeySigns algorithm message code key := by
  induction available with
  | nil =>
    cases h
    simp
  | cons first rest ih =>
    rw [anySigns_cons, bind_eq_ok_iff] at h
    obtain ⟨signs, hfirst, hrest⟩ := h
    have hsigns : KeySigns algorithm message code first ↔ signs = true := by
      rw [← signs_eq_true_iff, hfirst, Except.ok.injEq]
    cases signs with
    | true =>
      cases hrest
      simp [hsigns]
    | false => simp [hsigns, ih hrest]

theorem verifies_eq_error_iff {secret : String} :
    (∃ cause, verifies secret algorithm message code = .error cause) ↔ Unusable secret algorithm message code := by
  unfold verifies Unusable
  cases keys secret with
  | error cause => simp [Bind.bind, Except.bind]
  | ok available =>
    simpa [Bind.bind, Except.bind] using anySigns_eq_error_iff

/-- A code is accepted exactly if the trial of the keys does not fail and one of them makes it. -/
theorem verifies_eq_true_iff {secret : String} :
    verifies secret algorithm message code = .ok true ↔
      ¬Unusable secret algorithm message code ∧ Signs secret algorithm message code := by
  rw [← verifies_eq_error_iff]
  cases hverifies : verifies secret algorithm message code with
  | error cause => simp
  | ok answer =>
    obtain ⟨available, havailable, hany⟩ := bind_eq_ok_iff.1 hverifies
    simp [Signs, havailable, anySigns_eq_ok_iff hany]

theorem unusable_or_verifies {secret : String} (h : Signs secret algorithm message code) :
    Unusable secret algorithm message code ∨ verifies secret algorithm message code = .ok true := by
  by_cases hkey : Unusable secret algorithm message code
  · exact .inl hkey
  · exact .inr (verifies_eq_true_iff.2 ⟨hkey, h⟩)

namespace IsPlain

variable {secret : String} {member : Algorithm}

theorem codeBytes_eq (h : IsPlain secret) : Key.codeBytes (.text secret) = .ok secret.toUTF8.toList := by
  simp [Key.codeBytes, h.isArmored, h.isShellKey]

/-- Under a plain secret a signature is the code of the message with the secret as the key. -/
theorem signs_iff (h : IsPlain secret) :
    Signs secret member.name message code ↔ member.code secret.toUTF8.toList message = code := by
  simp [Signs, h.keys, KeySigns, Algorithm.ofName?_name, h.codeBytes_eq]

theorem not_unusable (h : IsPlain secret) : ¬Unusable secret member.name message code := by
  have hprepare : Key.prepare member.name (.text secret) = .ok (some (member, secret.toUTF8.toList)) :=
    prepare_eq_some_iff.2 ⟨Algorithm.ofName?_name member, h.codeBytes_eq⟩
  rintro (⟨cause, hkeys⟩ | ⟨before, key, after, hkeys, ⟨cause, hcause⟩, -⟩)
  · simp [h.keys] at hkeys
  · have hkey : key ∈ [Datum.text secret] := by
      rw [Except.ok.inj (h.keys.symm.trans hkeys)]
      simp
    rw [List.mem_singleton.1 hkey, hprepare] at hcause
    cases hcause

end IsPlain

example : IsPlain "replace-me" := ⟨rfl, by decide +kernel, by decide +kernel⟩

end Secret

namespace Token

/-! ### Parts -/

/-- A text is the parts of a token with points between: the last point comes before the signature, the first after
the header. -/
structure IsWritten (t : Token) (s : String) : Prop where
  text : s = t.signed ++ "." ++ t.signature
  signed : t.signed = t.header ++ "." ++ t.payload
  header : '.' ∉ t.header.toList
  signature : '.' ∉ t.signature.toList

theorem ofText?_eq_some_iff {s : String} {t : Token} : ofText? s = some t ↔ t.IsWritten s := by
  constructor
  · intro h
    unfold ofText? at h
    split at h
    · cases h
    · rename_i signature signed hlast
      obtain ⟨hs, hsignature⟩ := Text.splitFirst_eq_some_iff.1 hlast
      have htext : s.toList = signed.reverse ++ '.' :: signature.reverse := by
        rw [← List.reverse_reverse s.toList, hs]
        simp
      split at h
      · cases h
      · rename_i header payload hfirst
        obtain ⟨hsigned, hheader⟩ := Text.splitFirst_eq_some_iff.1 hfirst
        cases h
        refine ⟨?_, ?_, ?_, ?_⟩
        · apply String.toList_injective
          simp [htext]
        · apply String.toList_injective
          simp [hsigned]
        · simpa using hheader
        · simpa using hsignature
  · intro h
    have hlast : Text.splitFirst '.' s.toList.reverse = (t.signature.toList.reverse, some t.signed.toList.reverse) := by
      rw [Text.splitFirst_eq_some_iff, h.text]
      exact ⟨by simp, by simpa using h.signature⟩
    have hfirst : Text.splitFirst '.' t.signed.toList = (t.header.toList, some t.payload.toList) := by
      rw [Text.splitFirst_eq_some_iff, h.signed]
      exact ⟨by simp, h.header⟩
    simp [ofText?, hlast, hfirst]

/-- The bytes are a text that spells a dictionary of these entries. -/
def Spells (bytes : Bytes) (entries : List (String × Datum)) : Prop :=
  ∃ text, String.fromUTF8? bytes.toByteArray = some text ∧ Datum.ofJson .read text = .ok (.dict entries)

/-- The bytes are a text of lists and dictionaries that are nested too deep. -/
def IsTooDeep (bytes : Bytes) : Prop :=
  ∃ text list, String.fromUTF8? bytes.toByteArray = some text ∧ Datum.ofJson .read text = .error (.tooDeep list)

theorem entriesOf_eq_ok_iff {bytes : Bytes} {entries : List (String × Datum)} :
    entriesOf bytes = .ok entries ↔ Spells bytes entries := by
  simp only [entriesOf, bind_eq_ok_iff, orRejected_eq_ok_iff, Spells]
  refine exists_congr fun text ↦ and_congr_right fun _ ↦ ?_
  split <;> simp_all

theorem fails_entriesOf_iff {bytes : Bytes} : Fails (entriesOf bytes) ↔ IsTooDeep bytes := by
  simp only [entriesOf, fails_bind_iff, not_fails_orRejected, orRejected_eq_ok_iff, IsTooDeep, false_or]
  refine exists_congr fun text ↦ ?_
  rw [exists_and_left]
  refine and_congr_right fun _ ↦ ?_
  split <;> simp_all [Fails]

/-! ### Claims -/

/-- A claim is of a kind that never stands for a whole number. -/
def HasNoNumber : Datum → Prop
  | .int _ | .bool _ | .text _ | .real (.finite ..) | .real .notANumber => False
  | _ => True

theorem fails_number_iff {d : Datum} : Fails (number d) ↔ HasNoNumber d := by
  cases d with
  | text s => simp [number, HasNoNumber]
  | real x => cases x <;> simp [number, HasNoNumber, Fails]
  | _ => simp [number, HasNoNumber, Fails]

/-- A claim that is there is a number within limits. -/
def NumberHolds (claims : List (String × Datum)) (name : String) (within : Int → Prop) : Prop :=
  ∀ d, Datum.lookup claims name = some d → ∃ n, number d = .ok n ∧ within n

/-- A claim is there and of a kind that never stands for a number. -/
def NumberBreaks (claims : List (String × Datum)) (name : String) : Prop :=
  ∃ d, Datum.lookup claims name = some d ∧ HasNoNumber d

/-- A claim that is there is a text. -/
def TextHolds (claims : List (String × Datum)) (name : String) : Prop :=
  ∀ d, Datum.lookup claims name = some d → ∃ text, d = .text text

/-- The conditions on the claims of a token at a time. -/
structure ClaimsHold (now : Int) (claims : List (String × Datum)) : Prop where
  issued : NumberHolds claims "iat" fun _ ↦ True
  begun : NumberHolds claims "nbf" (· ≤ now)
  unexpired : NumberHolds claims "exp" (now ≤ ·)
  audience : Datum.lookup claims "aud" = none
  subject : TextHolds claims "sub"
  identity : TextHolds claims "jti"
  accessHash : Datum.lookup claims "at_hash" = none

/-- One of the times among the claims never stands for a number, and those that are looked at before it hold. -/
def ClaimsBreak (now : Int) (claims : List (String × Datum)) : Prop :=
  NumberBreaks claims "iat" ∨ NumberHolds claims "iat" (fun _ ↦ True) ∧
    (NumberBreaks claims "nbf" ∨ NumberHolds claims "nbf" (· ≤ now) ∧ NumberBreaks claims "exp")

section Claims

variable {claims : List (String × Datum)} {name : String} {now : Int} {u : Unit}

theorem checkNumber_eq_ok_iff {within : Int → Bool} :
    checkNumber claims name within = .ok u ↔ NumberHolds claims name (within · = true) := by
  unfold checkNumber NumberHolds
  cases Datum.lookup claims name with
  | none => simp
  | some d => simp [bind_eq_ok_iff, require_eq_ok_iff]

theorem fails_checkNumber_iff {within : Int → Bool} :
    Fails (checkNumber claims name within) ↔ NumberBreaks claims name := by
  unfold checkNumber NumberBreaks
  cases Datum.lookup claims name with
  | none => simp
  | some d => simp [fails_bind_iff, fails_number_iff]

theorem checkText_eq_ok_iff : checkText claims name = .ok u ↔ TextHolds claims name := by
  unfold checkText TextHolds
  split <;> simp_all

@[simp] theorem not_fails_checkText : ¬Fails (checkText claims name) := by
  unfold checkText
  split <;> simp [Fails]

theorem checkAbsent_eq_ok_iff : checkAbsent claims name = .ok u ↔ Datum.lookup claims name = none := by
  rw [checkAbsent, require_eq_ok_iff, Option.isNone_iff_eq_none]

theorem checkClaims_eq_ok_iff : checkClaims now claims = .ok u ↔ ClaimsHold now claims := by
  simp only [checkClaims, bind_eq_ok_iff, checkNumber_eq_ok_iff, checkText_eq_ok_iff, checkAbsent_eq_ok_iff,
    exists_const, decide_eq_true_eq]
  constructor
  · rintro ⟨hiat, hnbf, hexp, haud, hsub, hjti, hhash⟩
    exact ⟨hiat, hnbf, hexp, haud, hsub, hjti, hhash⟩
  · intro h
    exact ⟨h.issued, h.begun, h.unexpired, h.audience, h.subject, h.identity, h.accessHash⟩

theorem fails_checkClaims_iff : Fails (checkClaims now claims) ↔ ClaimsBreak now claims := by
  simp [checkClaims, fails_bind_iff, fails_checkNumber_iff, checkNumber_eq_ok_iff, ClaimsBreak, checkAbsent]

end Claims

/-! ### Verification -/

/-- A text is a token of an algorithm: its header spells a dictionary that names the algorithm, and the message that
is signed, the payload and the signature are these bytes. -/
def Reads (algorithm s : String) (message payload code : Bytes) : Prop :=
  ∃ (t : Token) (header : Bytes) (entries : List (String × Datum)), t.IsWritten s ∧
    Base64.bytes? t.header = some header ∧ Spells header entries ∧ namesAlgorithm algorithm entries = true ∧
    message = t.signed.toUTF8.toList ∧ Base64.bytes? t.payload = some payload ∧ Base64.bytes? t.signature = some code

/-- A token is verified under a policy and has these claims. -/
def Verified (policy : TokenPolicy) (s : String) (claims : List (String × Datum)) : Prop :=
  ∃ message payload code, Reads policy.algorithm s message payload code ∧
    Secret.Signs policy.secret policy.algorithm message code ∧ Spells payload claims ∧ ClaimsHold policy.now claims

/-- What makes reading a token fail: a header or a signed payload that is nested too deep, a key that cannot be used,
or a signed claim that should be a number and never is one. -/
inductive Breaks (policy : TokenPolicy) (s : String) : Prop
  | header (t : Token) (bytes : Bytes) (hwritten : t.IsWritten s) (hbytes : Base64.bytes? t.header = some bytes)
      (hdeep : IsTooDeep bytes)
  | key (message payload code : Bytes) (hreads : Reads policy.algorithm s message payload code)
      (hkey : Secret.Unusable policy.secret policy.algorithm message code)
  | payload (message payload code : Bytes) (hreads : Reads policy.algorithm s message payload code)
      (hsigns : Secret.Signs policy.secret policy.algorithm message code) (hdeep : IsTooDeep payload)
  | claim (message payload code : Bytes) (claims : List (String × Datum))
      (hreads : Reads policy.algorithm s message payload code)
      (hsigns : Secret.Signs policy.secret policy.algorithm message code) (hspells : Spells payload claims)
      (hclaims : ClaimsBreak policy.now claims)

variable {policy : TokenPolicy} {s : String}

theorem Reads.exists_isWritten {algorithm : String} {message payload code : Bytes}
    (h : Reads algorithm s message payload code) : ∃ t : Token, t.IsWritten s := by
  obtain ⟨t, -, -, hwritten, -⟩ := h
  exact ⟨t, hwritten⟩

theorem Breaks.exists_isWritten (h : Breaks policy s) : ∃ t : Token, t.IsWritten s := by
  cases h with
  | header t _ hwritten => exact ⟨t, hwritten⟩
  | key _ _ _ hreads | payload _ _ _ hreads | claim _ _ _ _ hreads => exact hreads.exists_isWritten

/-- Reading a token fails exactly on one that breaks it. -/
theorem fails_claims_iff : Fails (claims policy s) ↔ Breaks policy s := by
  simp only [claims, fails_bind_iff, not_fails_orRejected, orRejected_eq_ok_iff, ofText?_eq_some_iff,
    fails_entriesOf_iff, entriesOf_eq_ok_iff, not_fails_require, require_eq_ok_iff, fails_orFailed_iff,
    orFailed_eq_ok_iff, Secret.verifies_eq_error_iff, fails_checkClaims_iff, checkClaims_eq_ok_iff, not_fails_pure,
    false_or, and_false, or_false, exists_const]
  constructor
  · rintro ⟨t, hwritten, header, hheader, hdeep | ⟨entries, hentries, payload, hpayload, code, hcode, hnames, hrest⟩⟩
    · exact .header t header hwritten hheader hdeep
    · have hreads : Reads policy.algorithm s t.signed.toUTF8.toList payload code :=
        ⟨t, header, entries, hwritten, hheader, hentries, hnames, rfl, hpayload, hcode⟩
      obtain hkey | ⟨answer, hanswer, rfl, hclaims⟩ := hrest
      · exact .key _ _ _ hreads hkey
      · obtain ⟨-, hsigns⟩ := Secret.verifies_eq_true_iff.1 hanswer
        obtain hdeep | ⟨claims, hspells, hbreak⟩ := hclaims
        · exact .payload _ _ _ hreads hsigns hdeep
        · exact .claim _ _ _ claims hreads hsigns hspells hbreak
  -- Whatever breaks is read only after all that comes before it has been read.
  · intro h
    cases h with
    | header t header hwritten hheader hdeep => exact ⟨t, hwritten, header, hheader, .inl hdeep⟩
    | key message payload code hreads hkey =>
      obtain ⟨t, header, entries, hwritten, hheader, hentries, hnames, rfl, hpayload, hcode⟩ := hreads
      exact ⟨t, hwritten, header, hheader, .inr ⟨entries, hentries, payload, hpayload, code, hcode, hnames, .inl hkey⟩⟩
    | payload message payload code hreads hsigns hdeep =>
      obtain ⟨t, header, entries, hwritten, hheader, hentries, hnames, rfl, hpayload, hcode⟩ := hreads
      refine ⟨t, hwritten, header, hheader, .inr ⟨entries, hentries, payload, hpayload, code, hcode, hnames, ?_⟩⟩
      exact (Secret.unusable_or_verifies hsigns).imp_right fun hverifies ↦ ⟨true, hverifies, rfl, .inl hdeep⟩
    | claim message payload code claims hreads hsigns hspells hclaims =>
      obtain ⟨t, header, entries, hwritten, hheader, hentries, hnames, rfl, hpayload, hcode⟩ := hreads
      refine ⟨t, hwritten, header, hheader, .inr ⟨entries, hentries, payload, hpayload, code, hcode, hnames, ?_⟩⟩
      exact (Secret.unusable_or_verifies hsigns).imp_right fun hverifies ↦
        ⟨true, hverifies, rfl, .inr ⟨claims, hspells, hclaims⟩⟩

/-- A token that does not break its reading has claims exactly if it is verified. -/
theorem claims_eq_ok_iff (h : ¬Breaks policy s) {entries : List (String × Datum)} :
    claims policy s = .ok entries ↔ Verified policy s entries := by
  simp only [claims, bind_eq_ok_iff, orRejected_eq_ok_iff, ofText?_eq_some_iff, entriesOf_eq_ok_iff,
    require_eq_ok_iff, orFailed_eq_ok_iff, checkClaims_eq_ok_iff, pure_eq_ok_iff, exists_const]
  constructor
  · rintro ⟨t, hwritten, header, hheader, names, hnames, payload, hpayload, code, hcode, hnamed, _, hanswer, rfl,
      _, hspells, hhold, rfl⟩
    exact ⟨_, payload, code, ⟨t, header, names, hwritten, hheader, hnames, hnamed, rfl, hpayload, hcode⟩,
      (Secret.verifies_eq_true_iff.1 hanswer).2, hspells, hhold⟩
  · rintro ⟨message, payload, code, hreads, hsigns, hspells, hhold⟩
    have hkey : ¬Secret.Unusable policy.secret policy.algorithm message code := fun hkey ↦
      h (.key message payload code hreads hkey)
    obtain ⟨t, header, names, hwritten, hheader, hnames, hnamed, rfl, hpayload, hcode⟩ := hreads
    exact ⟨t, hwritten, header, hheader, names, hnames, payload, hpayload, code, hcode, hnamed, true,
      Secret.verifies_eq_true_iff.2 ⟨hkey, hsigns⟩, rfl, entries, hspells, hhold, rfl⟩

end Token

end BundleLedger
