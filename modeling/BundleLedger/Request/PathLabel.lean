import BundleLedger.Text.Numeral

/-!
# Labels of request paths

Labels of request paths for metrics and logs. A routed request is labelled by the template of its
route. Any other path is labelled by itself with identifiers and numbers blotted out, so that the
number of labels stays small: first identifiers between word boundaries, then segments' leading
numbers that end at a word boundary.
-/

set_option autoImplicit false

namespace BundleLedger.PathLabel

/-- What stands for an identifier or a number. -/
def token : List Char := ['\x7b', 'i', 'd', '\x7d']

/-- The version digit of an identifier, from one to five. -/
def isVersion (c : Char) : Bool :=
  49 ≤ c.toNat && c.toNat ≤ 53

/-- The variant digit of an identifier. -/
def isVariant (c : Char) : Bool :=
  c ∈ ['8', '9', 'a', 'b', 'A', 'B']

/-- The shape of an identifier, character by character. -/
def shape : List (Char → Bool) :=
  let hex := Text.isHexDigit
  let hyphen : Char → Bool := (· = '-')
  List.replicate 8 hex ++ hyphen :: (List.replicate 4 hex ++ hyphen :: isVersion ::
    (List.replicate 3 hex ++ hyphen :: isVariant :: (List.replicate 3 hex ++ hyphen ::
      List.replicate 12 hex)))

/-- Whether the front of a text has a shape. -/
def fits : List (Char → Bool) → List Char → Bool
  | [], _ => true
  | _ :: _, [] => false
  | p :: shape, c :: rest => p c && fits shape rest

/-- Whether a text does not go on with a word character. -/
def endsWord (s : List Char) : Bool :=
  match s with
  | [] => true
  | c :: _ => !Text.isWordChar c

/-- Whether an identifier that ends at a word boundary stands at the front of a text. -/
def startsWithId (s : List Char) : Bool :=
  fits shape s && endsWord (s.drop shape.length)

theorem length_shape : shape.length = 36 := rfl

/-- The text with every identifier between word boundaries blotted out. `inWord` says whether the
character before is a word character. -/
def blotIds (inWord : Bool) (s : List Char) : List Char :=
  match s with
  | [] => []
  | c :: rest =>
    if !inWord && startsWithId (c :: rest) then token ++ blotIds true ((c :: rest).drop shape.length)
    else c :: blotIds (Text.isWordChar c) rest
termination_by s.length
decreasing_by
  · simp only [List.length_drop, List.length_cons, length_shape]
    omega
  · simp

/-- What follows the decimal digits at the front of a text. -/
def afterDigits (s : List Char) : List Char :=
  s.dropWhile Text.isDecimalDigit

theorem length_afterDigits_le (s : List Char) : (afterDigits s).length ≤ s.length :=
  (List.dropWhile_sublist _).length_le

/-- The text with every number that follows a slash and ends at a word boundary blotted out. -/
def blotNumbers (s : List Char) : List Char :=
  match s with
  | [] => []
  | c :: rest =>
    if c = '/' ∧ (afterDigits rest).length < rest.length ∧ endsWord (afterDigits rest) then
      '/' :: token ++ blotNumbers (afterDigits rest)
    else c :: blotNumbers rest
termination_by s.length
decreasing_by
  · have := length_afterDigits_le rest
    simp only [List.length_cons]
    omega
  · simp

/-- A path with identifiers and numbers blotted out. -/
def sanitize (path : String) : String :=
  String.ofList (blotNumbers (blotIds false path.toList))

/-- A character of a path as it stands in the address of the request. -/
def addressChar (c : Char) : List Char :=
  if c = '?' then "%3F".toList
  else if c = '#' then "%23".toList
  else if c ∈ ['\t', '\n', '\r'] then []
  else [c]

/-- A path as it stands in the address of the request: it starts with a slash unless it is empty, the
marks that end a path are escaped, and line breaks and tabs are left out. -/
def addressed (path : String) : String :=
  String.ofList
    (match path.toList with
    | [] => []
    | '/' :: rest => '/' :: rest.flatMap addressChar
    | characters => '/' :: characters.flatMap addressChar)

/-- The templates of a matched route, as far as it has them. -/
structure Route where
  pathFormat : Option String
  path : Option String
deriving DecidableEq, Repr

/-- A text that is not empty. -/
def nonEmpty? (s : Option String) : Option String :=
  s.filter (· ≠ "")

/-- The label of a request: the first non-empty template of its route, else its sanitized path. -/
def resolve (route : Option Route) (path : String) : String :=
  let ownPath := sanitize (addressed path)
  match route with
  | none => ownPath
  | some r => ((nonEmpty? r.pathFormat).or (nonEmpty? r.path)).getD ownPath

end BundleLedger.PathLabel
