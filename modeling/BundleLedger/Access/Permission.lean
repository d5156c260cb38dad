import BundleLedger.Access.Token
import BundleLedger.Settings
import BundleLedger.Telemetry.Notice

/-!
# Who calls, and what they may do

A caller is known by the token in the authorization header. Without a verified token the caller is
anonymous and has no roles. A route that requires permissions is open to callers whose roles include all
of them; the answer to others names what is missing.
-/

set_option autoImplicit false

namespace BundleLedger

/-- A caller with the roles granted to them. -/
structure Caller where
  subject : String
  roles : List String
deriving DecidableEq, Repr

namespace Caller

/-- A caller without a verified token. -/
def anonymous : Caller := ⟨"anonymous", []⟩

/-- The roles in a claim: the texts of its items, if it is a list. -/
def rolesOf : Option Datum → List String
  | some (.list items) => items.map Datum.plain
  | _ => []

/-- The subject in a claim; an empty one is anonymous. -/
def subjectOf : Option Datum → String
  | some d => if d.isTruthy then d.plain else anonymous.subject
  | none => anonymous.subject

/-- The caller that claims describe. -/
def ofClaims (claims : List (String × Datum)) : Caller :=
  ⟨subjectOf (Datum.lookup claims "sub"), rolesOf (Datum.lookup claims "roles")⟩

/-- The permissions that the caller lacks, in the order given. -/
def missing (caller : Caller) (permissions : List String) : List String :=
  permissions.filter fun permission ↦ !caller.roles.contains permission

theorem mem_missing_iff (caller : Caller) (permissions : List String) (permission : String) :
    permission ∈ caller.missing permissions ↔
      permission ∈ permissions ∧ permission ∉ caller.roles := by
  simp [missing]

end Caller

/-! ### Identification -/

/-- The token in an authorization header: what follows the word `bearer` in any case and a space, without
blanks around it, unless it is empty. -/
def bearerToken? (authorization : Option String) : Option String :=
  match Text.splitFirst ' ' (authorization.getD "").toList with
  | (_, none) => none
  | (scheme, some rest) =>
    let token := Text.strip (String.ofList rest)
    if Text.lowerAscii (String.ofList scheme) = "bearer" ∧ token ≠ "" then some token else none

/-- The policy that settings give at a time. -/
def TokenPolicy.ofSettings (s : Settings) (now : Int) : TokenPolicy :=
  ⟨s.jwtSecret, s.jwtAlgorithm, now⟩

/-- The caller behind an authorization header, and what is logged on the way. The policy is needed only when
there is a token. -/
def identify (policy : Except Cause TokenPolicy) (authorization : Option String) :
    Except Cause (Caller × List Notice) :=
  match bearerToken? authorization with
  | none => .ok (.anonymous, [])
  | some token => do
    match Token.claims (← policy) token with
    | .ok claims => .ok (.ofClaims claims, [])
    | .error .rejected => .ok (.anonymous, [.tokenRejected])
    | .error (.failed cause) => .error cause

/-! ### Permission -/

/-- Whether a caller may go on. -/
inductive Admission where
  | allowed
  | denied (missing : List String)
deriving DecidableEq, Repr

namespace Admission

/-- A caller is allowed exactly when nothing is missing. -/
def of (caller : Caller) (permissions : List String) : Admission :=
  match caller.missing permissions with
  | [] => .allowed
  | missing => .denied missing

/-- What is logged about an admission. -/
def notices (caller : Caller) : Admission → List Notice
  | .allowed => []
  | .denied missing => [.permissionDenied caller.subject missing]

/-- What a denied caller is told. -/
def detail (missing : List String) : String :=
  "Missing permissions: " ++ Notice.commaList missing

theorem of_eq_allowed_iff (caller : Caller) (permissions : List String) :
    of caller permissions = .allowed ↔ ∀ permission ∈ permissions, permission ∈ caller.roles := by
  unfold of
  split
  · rename_i h
    simp only [true_iff]
    intro permission hp
    by_cases hr : permission ∈ caller.roles
    · exact hr
    · have := (caller.mem_missing_iff permissions permission).2 ⟨hp, hr⟩
      simp [h] at this
  · rename_i h
    simp only [reduceCtorEq, false_iff]
    intro hall
    apply h
    rw [List.eq_nil_iff_forall_not_mem]
    intro permission hm
    have := (caller.mem_missing_iff permissions permission).1 hm
    exact this.2 (hall permission this.1)

end Admission

/-- The outcome of asking for permissions: the caller, whether the header held a token, the admission and
what is logged on the way. -/
structure Authorization where
  tokenFound : Bool
  caller : Caller
  admission : Admission
  notices : List Notice
deriving DecidableEq, Repr

/-- The authorization of whoever sends a header, for a list of permissions. -/
def authorize (policy : Except Cause TokenPolicy) (authorization : Option String) (permissions : List String) :
    Except Cause Authorization :=
  (identify policy authorization).map fun (caller, notices) ↦
    let admission := Admission.of caller permissions
    ⟨(bearerToken? authorization).isSome, caller, admission, notices ++ admission.notices caller⟩

end BundleLedger
