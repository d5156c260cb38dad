import BundleLedger.Access.Base64
import BundleLedger.Access.Code
import BundleLedger.Datum.Display
import BundleLedger.Failure
import BundleLedger.Text.Trim

/-!
# Keys

What makes a value a key of an algorithm. Codes take any text except one that reads as a public or
private key of another kind, and a dictionary with the type `oct` under `kty` and bytes in base 64 under
`k`. Other families of algorithms check the form of a key too, but none of their keys signs a token with a
code.
-/

set_option autoImplicit false

namespace BundleLedger.Key

/-- The failure of a key that cannot be used. -/
def unusable (text : String) : Cause :=
  .fault (.named "JWKError") text

/-- Families of algorithms, by what their keys look like. -/
inductive Family where
  | code (algorithm : Algorithm)
  | rsa
  | curve
  | direct
  | cipher (bits : Nat)
deriving DecidableEq, Repr

/-- The names of ciphers with the lengths of their keys. -/
def ciphers : List (String × Nat) :=
  [("A128GCM", 128), ("A192GCM", 192), ("A256GCM", 256), ("A128CBC", 128), ("A192CBC", 192),
    ("A256CBC", 256), ("A128CBC-HS256", 256), ("A192CBC-HS384", 384), ("A256CBC-HS512", 512),
    ("A128KW", 128), ("A192KW", 192), ("A256KW", 256)]

/-- The family of the algorithm of a name. -/
def Family.ofName? (name : String) : Option Family :=
  if name ∈ ["RS256", "RS384", "RS512", "RSA1_5", "RSA-OAEP", "RSA-OAEP-256"] then some .rsa
  else if name ∈ ["ES256", "ES384", "ES512", "ECDH-ES", "ECDH-ES+A128KW", "ECDH-ES+A192KW",
    "ECDH-ES+A256KW"] then some .curve
  else if name = "dir" then some .direct
  else
    match Algorithm.ofName? name, ciphers.find? (·.1 = name) with
    | some algorithm, _ => some (.code algorithm)
    | none, some (_, bits) => some (.cipher bits)
    | none, none => none

/-! ### Texts of keys of other kinds -/

/-- Whether a text stands somewhere in characters. -/
def occurs (part : List Char) (s : List Char) : Bool :=
  part.isPrefixOf s ||
    match s with
    | [] => false
    | _ :: rest => occurs part rest

/-- What the first line of an armored key or certificate may announce. -/
def armored : List String :=
  ["CERTIFICATE", "TRUSTED CERTIFICATE", "PRIVATE KEY", "PUBLIC KEY", "ENCRYPTED PRIVATE KEY",
    "OPENSSH PRIVATE KEY", "DSA PRIVATE KEY", "RSA PRIVATE KEY", "RSA PUBLIC KEY", "EC PRIVATE KEY",
    "DH PARAMETERS", "NEW CERTIFICATE REQUEST", "CERTIFICATE REQUEST", "SSH2 PUBLIC KEY",
    "SSH2 ENCRYPTED PRIVATE KEY", "X509 CRL"]

/-- The two ways in which the inner end of a row of dashes is written. -/
def edges : List String := ["-", " "]

/-- Whether characters hold the first line of an armored key or certificate. -/
def isArmored (s : List Char) : Bool :=
  edges.any fun left ↦ edges.any fun right ↦ armored.any fun title ↦
    occurs ("----" ++ left ++ "BEGIN " ++ title ++ right ++ "----").toList s

/-- The types of keys for remote shells. -/
def shellTypes : List String :=
  ["ssh-ed25519", "ssh-rsa", "ssh-dss", "ecdsa-sha2-nistp256", "ecdsa-sha2-nistp384",
    "ecdsa-sha2-nistp521"]

/-- The end of the type of a certificate for remote shells. -/
def shellCertificate : String := "-cert-v01@openssh.com"

/-- White space between the bytes of a key. -/
def isGap (c : Char) : Bool :=
  c = ' ' || (9 ≤ c.toNat && c.toNat ≤ 13)

/-- Whether characters start with the type of a certificate, blanks, and a further word. -/
def startsWithCertificate (s : List Char) : Bool :=
  let word := s.takeWhile fun c ↦ !isGap c
  let rest := s.drop word.length
  let after := rest.dropWhile fun c ↦ c = ' ' || c = '\t'
  shellCertificate.toList.isSuffixOf word && after.length < rest.length &&
    (after.head?.map fun c ↦ !isGap c).getD false

/-- Whether characters hold a key for remote shells. -/
def isShellKey (s : List Char) : Bool :=
  (shellTypes.any fun type ↦ occurs type.toList s) || startsWithCertificate s

/-! ### Keys by family -/

/-- The failure of a dictionary of another type than the one expected. -/
def wrongType (expected : String) (key : List (String × Datum)) : Cause :=
  unusable ("Incorrect key type. Expected: '" ++ expected ++ "', Received: " ++
    ((Datum.lookup key "kty").getD .null).plain)

/-- Whether a dictionary is of a type. -/
def hasType (expected : String) (key : List (String × Datum)) : Bool :=
  match Datum.lookup key "kty" with
  | some (.text type) => type = expected
  | _ => false

/-- The bytes of text in base 64. -/
def base64 (s : String) : Except Cause Bytes :=
  (Base64.decode s).mapError fun fault ↦ .fault (.named "Error") fault.text

/-- The bytes of a key of codes. -/
def codeBytes : Datum → Except Cause Bytes
  | .text s =>
    if isArmored s.toList || isShellKey s.toList then
      .error (unusable ("The specified key is an asymmetric key or x509 certificate and should not " ++
        "be used as an HMAC secret."))
    else .ok s.toUTF8.toList
  | .dict entries =>
    if hasType "oct" entries then
      match (Datum.lookup entries "k").getD .null with
      | .text k => base64 k
      | d => .error (.fault (.named "AttributeError")
          ("'" ++ d.kindName ++ "' object has no attribute 'encode'"))
    else .error (wrongType "oct" entries)
  | _ => .error (unusable "Expecting a string- or bytes-formatted key.")

/-- The failure of a value that has no length. -/
def withoutLength (d : Datum) : Cause :=
  .fault .type ("object of type '" ++ d.kindName ++ "' has no len()")

/-- A number in base 64 among the entries of a dictionary. -/
def checkNumber (default : Datum) (name : String) (entries : List (String × Datum)) :
    Except Cause Unit :=
  match (Datum.lookup entries name).getD default with
  | .text s => (base64 s).map fun _ ↦ ()
  | d => .error (withoutLength d)

/-- A key made of two large numbers. -/
def checkRsa : Datum → Except Cause Unit
  | .text _ => .error (unusable "Unable to load PEM file.")
  | .dict entries =>
    if hasType "RSA" entries then do
      checkNumber (.int 256) "e" entries
      checkNumber .null "n" entries
    else .error (wrongType "RSA" entries)
  | d => .error (unusable ("Unable to parse an RSA_JWK from key: " ++ d.plain))

/-- A key that is a point of a curve. -/
def checkCurve : Datum → Except Cause Unit
  | .text _ => .error (unusable "Unable to load PEM file.")
  | .dict entries =>
    if !hasType "EC" entries then .error (wrongType "EC" entries)
    else if ["x", "y", "crv"].all fun name ↦ (Datum.lookup entries name).isSome then .ok ()
    else .error (unusable "Mandatory parameters are missing")
  | d => .error (unusable ("Unable to parse an ECKey from key: " ++ d.plain))

/-- A key that is used as it is. -/
def checkDirect : Datum → Except Cause Unit
  | .text _ => .ok ()
  | d => .error (.fault .type ("not expecting type '<class '" ++ d.kindName ++ "'>'"))

/-- The length of a value that has parts. -/
def length? : Datum → Option Nat
  | .text s => some s.length
  | .list items => some items.length
  | .dict entries => some entries.length
  | _ => none

/-- A key of a cipher. -/
def checkCipher (name : String) (bits : Nat) (d : Datum) : Except Cause Unit :=
  match length? d with
  | none => .error (withoutLength d)
  | some length =>
    if length = bits / 8 then .ok ()
    else .error (unusable ("Key must be " ++ Text.natural bits ++ " bit for alg " ++ name))

/-- The algorithm of codes and the bytes of a key for it; nothing for a key of another family. -/
def prepare (name : String) (key : Datum) : Except Cause (Option (Algorithm × Bytes)) :=
  match Family.ofName? name with
  | none => .error (unusable "Unable to find an algorithm for key")
  | some (.code algorithm) => (codeBytes key).map fun bytes ↦ some (algorithm, bytes)
  | some .rsa => (checkRsa key).map fun _ ↦ none
  | some .curve => (checkCurve key).map fun _ ↦ none
  | some .direct => (checkDirect key).map fun _ ↦ none
  | some (.cipher bits) => (checkCipher name bits key).map fun _ ↦ none

/-- Whether a message carries the code of a key. -/
def signs (name : String) (message code : Bytes) (key : Datum) : Except Cause Bool :=
  (prepare name key).map fun
    | some (algorithm, bytes) => algorithm.code bytes message = code
    | none => false

end BundleLedger.Key
