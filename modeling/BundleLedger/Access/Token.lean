import BundleLedger.Access.Secret
import BundleLedger.Validation.Field

/-!
# Signed tokens

A token has a header, a payload and a signature with points between; each is bytes in base 64. The header
names the algorithm, the payload holds the claims, and the signature is the code of header and payload as
they stand in the token. Reading a token ends in one of three ways: with its claims, with its rejection, or
with a failure that is not the token's fault alone.
-/

set_option autoImplicit false

namespace BundleLedger

/-- The parts of a token. -/
structure Token where
  signed : String
  header : String
  payload : String
  signature : String
deriving DecidableEq, Repr

/-- Why a token gives no claims. -/
inductive Refusal where
  | rejected
  | failed (cause : Cause)
deriving DecidableEq, Repr

/-- What tokens are held against: the secret, the name of the algorithm, and the present time in seconds
since 1970. -/
structure TokenPolicy where
  secret : String
  algorithm : String
  now : Int
deriving DecidableEq, Repr

namespace Token

/-- The parts of a text with at least two points: the signature follows the last point, and the payload
the first. -/
def ofText? (s : String) : Option Token :=
  match Text.splitFirst '.' s.toList.reverse with
  | (_, none) => none
  | (signature, some signed) =>
    match Text.splitFirst '.' signed.reverse with
    | (_, none) => none
    | (header, some payload) =>
      some ⟨String.ofList signed.reverse, String.ofList header, String.ofList payload,
        String.ofList signature.reverse⟩

/-- A value that is there, or the rejection of the token. -/
def orRejected {α : Type} : Option α → Except Refusal α
  | some value => .ok value
  | none => .error .rejected

/-- A computation whose failure is not the token's fault. -/
def orFailed {α : Type} : Except Cause α → Except Refusal α
  | .ok value => .ok value
  | .error cause => .error (.failed cause)

/-- The entries of the dictionary that bytes spell. -/
def entriesOf (bytes : Bytes) : Except Refusal (List (String × Datum)) := do
  let text ← orRejected (String.fromUTF8? bytes.toByteArray)
  match Datum.ofJson .read text with
  | .ok (.dict entries) => .ok entries
  | .error (.tooDeep list) =>
    .error (.failed (.fault .recursion ("maximum recursion depth exceeded while decoding a JSON " ++
      (if list then "array" else "object") ++ " from a unicode string")))
  | _ => .error .rejected

/-- A requirement that rejects the token. -/
def require (holds : Bool) : Except Refusal Unit :=
  if holds then .ok () else .error .rejected

/-! ### Claims -/

/-- A whole number in a text: blanks around it, a sign, and digits of any script with single underscores
between; not too many digits. -/
def numberText? (s : String) : Option Int :=
  let (negative, digits) := Decimal.splitSign (Text.trimBy Text.isNumberBlank s.toList)
  let count := (digits.filter (· ≠ '_')).length
  if Datum.maxDigits < count then none
  else ((Spelling.ungrouped? (digits.map Uuid.asciiDigit)).bind Text.natural?).map fun n ↦
      if negative then -Int.ofNat n else Int.ofNat n

/-- The whole number that a claim stands for, without its fraction. -/
def number : Datum → Except Refusal Int
  | .int n => .ok n
  | .bool b => .ok (if b then 1 else 0)
  | .real .notANumber => .error .rejected
  | .real (.infinite _) =>
    .error (.failed (.fault .overflow "cannot convert float infinity to integer"))
  | .real x => .ok (x.truncate?.getD 0)
  | .text s => orRejected (numberText? s)
  | d => .error (.failed (.fault .type ("int() argument must be a string, a bytes-like object or a " ++
      "real number, not '" ++ d.kindName ++ "'")))

/-- A claim that may be missing and else must be a number within limits. -/
def checkNumber (claims : List (String × Datum)) (name : String) (within : Int → Bool) :
    Except Refusal Unit :=
  match Datum.lookup claims name with
  | none => .ok ()
  | some d => do require (within (← number d))

/-- A claim that may be missing and else must be a text. -/
def checkText (claims : List (String × Datum)) (name : String) : Except Refusal Unit :=
  match Datum.lookup claims name with
  | none | some (.text _) => .ok ()
  | some _ => .error .rejected

/-- A claim that must be missing. -/
def checkAbsent (claims : List (String × Datum)) (name : String) : Except Refusal Unit :=
  require (Datum.lookup claims name).isNone

/-- The conditions on claims, in the order in which they are checked. -/
def checkClaims (now : Int) (claims : List (String × Datum)) : Except Refusal Unit := do
  checkNumber claims "iat" fun _ ↦ true
  checkNumber claims "nbf" fun n ↦ n ≤ now
  checkNumber claims "exp" fun n ↦ now ≤ n
  checkAbsent claims "aud"
  checkText claims "sub"
  checkText claims "jti"
  checkAbsent claims "at_hash"

/-- Whether a header names the algorithm. -/
def namesAlgorithm (algorithm : String) (header : List (String × Datum)) : Bool :=
  match Datum.lookup header "alg" with
  | some (.text name) => name ≠ "" && name = algorithm
  | _ => false

/-- The claims of a token that is verified. -/
def claims (policy : TokenPolicy) (s : String) : Except Refusal (List (String × Datum)) := do
  let token ← orRejected (ofText? s)
  let header ← entriesOf (← orRejected (Base64.bytes? token.header))
  let payload ← orRejected (Base64.bytes? token.payload)
  let signature ← orRejected (Base64.bytes? token.signature)
  require (namesAlgorithm policy.algorithm header)
  require (← orFailed
    (Secret.verifies policy.secret policy.algorithm token.signed.toUTF8.toList signature))
  let claims ← entriesOf payload
  checkClaims policy.now claims
  return claims

end Token
end BundleLedger
