import BundleLedger.Access.Key
import BundleLedger.Datum.Reader

/-!
# The keys of a secret

A secret is most often a plain text, and then the text itself is the only key. A secret may also spell a
value: a text in quotes stands for that text, a number for its spelling, a list for several keys, and a
dictionary for one key or for a set of keys. A key that cannot be used ends the trial of keys.
-/

set_option autoImplicit false

namespace BundleLedger.Secret

/-- The keys in a set of keys. -/
def members : Datum → Except Cause (List Datum)
  | .list items => .ok items
  | .dict entries => .ok (entries.map fun entry ↦ .text entry.1)
  | .text s => .ok (s.toList.map fun c ↦ .text (String.ofList [c]))
  | d => .error (.fault .type ("'" ++ d.kindName ++ "' object is not iterable"))

/-- The keys that a dictionary stands for. -/
def ofEntries (entries : List (String × Datum)) : Except Cause (List Datum) :=
  match Datum.lookup entries "keys" with
  | some d => members d
  | none =>
    if (Datum.lookup entries "kty").isSome ∨ entries = [] then .ok [.dict entries]
    else .ok (entries.map (·.2))

/-- The keys of a secret, in the order in which they are tried. -/
def keys (secret : String) : Except Cause (List Datum) :=
  match Datum.ofJson .spelled secret with
  | .error _ => .ok [.text secret]
  | .ok (.list items) => .ok items
  | .ok (.dict entries) => ofEntries entries
  | .ok d => .ok [d]

/-- Whether one of the keys signs a message with a code, trying them in turn. -/
def anySigns (algorithm : String) (message code : Bytes) : List Datum → Except Cause Bool
  | [] => .ok false
  | key :: rest => do
    if ← Key.signs algorithm message code key then .ok true else anySigns algorithm message code rest

/-- Whether a message carries the code of one of the keys of a secret. -/
def verifies (secret algorithm : String) (message code : Bytes) : Except Cause Bool := do
  anySigns algorithm message code (← keys secret)

end BundleLedger.Secret
