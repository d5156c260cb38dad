import BundleLedger.Datum.Basic

/-!
# Reading values

A reader of the data-interchange notation. Integers keep every digit, numbers with a point or an
exponent become the nearest binary number, and of equal keys the last value counts.
-/

set_option autoImplicit false

namespace BundleLedger.Datum

/-- Blanks of the notation. -/
def isSpace (c : Char) : Bool :=
  c = ' ' || c = '\t' || c = '\n' || c = '\r'

def skipSpace (s : List Char) : List Char :=
  s.dropWhile isSpace

/-- The character of a 16-bit unit or a pair of units; half a pair becomes the replacement
character. -/
def ofUnit (unit : Nat) : Char :=
  if 0xd800 ≤ unit ∧ unit < 0xe000 then Char.ofNat 0xfffd else Char.ofNat unit

/-- The rest of a string after its opening quote: its characters and what follows. -/
def readString (s : List Char) (seen : List Char) : Option (String × List Char) :=
  match s with
  | [] => none
  | '\x5c' :: 'u' :: a :: b :: c :: d :: '\x5c' :: 'u' :: a2 :: b2 :: c2 :: d2 :: rest => do
    let high ← Text.hex? [a, b, c, d]
    let low ← Text.hex? [a2, b2, c2, d2]
    if 0xd800 ≤ high ∧ high < 0xdc00 ∧ 0xdc00 ≤ low ∧ low < 0xe000 then
      readString rest (Char.ofNat (0x10000 + (high - 0xd800) * 0x400 + (low - 0xdc00)) :: seen)
    else readString ('\x5c' :: 'u' :: a2 :: b2 :: c2 :: d2 :: rest) (ofUnit high :: seen)
  | '\x5c' :: 'u' :: a :: b :: c :: d :: rest => do
    readString rest (ofUnit (← Text.hex? [a, b, c, d]) :: seen)
  | '\x5c' :: c :: rest => do
    let meaning ← match c with
      | '\x22' | '\x5c' | '/' => some c
      | 'n' => some '\n'
      | 'r' => some '\r'
      | 't' => some '\t'
      | 'b' => some '\x08'
      | 'f' => some '\x0c'
      | _ => none
    readString rest (meaning :: seen)
  | '\x22' :: rest => some (String.ofList seen.reverse, rest)
  | c :: rest => if c.toNat < 32 then none else readString rest (c :: seen)
termination_by s.length
decreasing_by all_goals simp +arith

/-- Digits, at least one. -/
def readDigits (s : List Char) : Option (List Char × List Char) :=
  let (digits, rest) := s.span Text.isAsciiDigit
  if digits.isEmpty then none else some (digits, rest)

/-- The digits of the whole part: a single zero or digits without a leading zero. -/
def readWhole (s : List Char) : Option (List Char × List Char) :=
  match s with
  | '0' :: rest => some (['0'], rest)
  | _ => readDigits s

/-- The digits after a point, if a point with digits follows. -/
def readFraction (s : List Char) : List Char × List Char :=
  match s with
  | '.' :: rest => (readDigits rest).getD ([], s)
  | _ => ([], s)

/-- The exponent, if an exponent with digits follows. -/
def readExponent (s : List Char) : Option Int × List Char :=
  match s with
  | c :: rest =>
    if c = 'e' ∨ c = 'E' then
      let (negative, rest) := Decimal.splitSign rest
      match readDigits rest with
      | some (digits, after) =>
        let size := Int.ofNat ((Text.natural? digits).getD 0)
        (some (if negative then -size else size), after)
      | none => (none, s)
    else (none, s)
  | [] => (none, [])

/-- The most digits that a whole number may have. -/
def maxDigits : Nat := 4300

/-- A number without its sign. -/
def readUnsigned (negative : Bool) (s : List Char) : Option (Datum × List Char) := do
  let (whole, rest) ← readWhole s
  let (fraction, rest) := readFraction rest
  let (exponent, rest) := readExponent rest
  if fraction.isEmpty ∧ exponent.isNone then
    if maxDigits < whole.length then none
    else
      let n ← Text.natural? whole
      some (.int (if negative then -Int.ofNat n else Int.ofNat n), rest)
  else
    let n ← Text.natural? (whole ++ fraction)
    some (.real (Double.ofNumeral negative n (exponent.getD 0 - fraction.length)), rest)

/-- A number without its sign, kept as the text that spells it. -/
def readSpelling (sign : String) (s : List Char) : Option (Datum × List Char) := do
  let (_, rest) ← readWhole s
  let (_, rest) := readFraction rest
  let (_, rest) := readExponent rest
  some (.text (sign ++ String.ofList (s.take (s.length - rest.length))), rest)

/-- Whether numbers become values, or stay as the texts that spell them. -/
inductive Numbers where
  | read | spelled
deriving DecidableEq, Repr

/-- A number after its sign. -/
def readNumber (numbers : Numbers) (negative : Bool) (s : List Char) : Option (Datum × List Char) :=
  match numbers with
  | .read => readUnsigned negative s
  | .spelled => readSpelling (Decimal.signText negative) s

/-- The text after a word, if it starts with the word. -/
def afterWord (word : String) (s : List Char) : Option (List Char) :=
  if word.toList.isPrefixOf s then some (s.drop word.toList.length) else none

/-- A number, or one of the words that stand for values. -/
def readAtom (numbers : Numbers) (s : List Char) : Option (Datum × List Char) :=
  match s with
  | 'n' :: _ => (afterWord "null" s).map (.null, ·)
  | 't' :: _ => (afterWord "true" s).map (.bool true, ·)
  | 'f' :: _ => (afterWord "false" s).map (.bool false, ·)
  | 'N' :: _ => (afterWord "NaN" s).map (.real .notANumber, ·)
  | 'I' :: _ => (afterWord "Infinity" s).map (.real (.infinite false), ·)
  | '-' :: 'I' :: _ => (afterWord "-Infinity" s).map (.real (.infinite true), ·)
  | '-' :: rest => readNumber numbers true rest
  | _ => readNumber numbers false s

/-! ### Nested values -/

/-- Why a text spells no value. -/
inductive ReadFault where
  | malformed
  /-- Lists and dictionaries are nested too deep; the innermost is a list or not. -/
  | tooDeep (list : Bool)
deriving DecidableEq, Repr

/-- A part that was read, or that the text spells no value. -/
def orMalformed {α : Type} : Option α → Except ReadFault α
  | some value => .ok value
  | none => .error .malformed

/-- How deep lists and dictionaries may be nested. -/
def maxNesting : Nat := 980

mutual

/-- A value from the front of a text, with what follows, at a depth of nesting; `fuel` bounds the
nesting and the number of items together. -/
def readValue (numbers : Numbers) (depth fuel : Nat) (s : List Char) :
    Except ReadFault (Datum × List Char) :=
  match fuel with
  | 0 => .error .malformed
  | fuel + 1 =>
    match skipSpace s with
    | '\x22' :: rest =>
      (orMalformed (readString rest [])).map fun (value, rest) ↦ (.text value, rest)
    | '[' :: rest =>
      if maxNesting ≤ depth then .error (.tooDeep true)
      else
        match skipSpace rest with
        | ']' :: rest => .ok (.list [], rest)
        | rest => (readItems numbers (depth + 1) fuel rest []).map fun (seen, rest) ↦ (.list seen, rest)
    | '\x7b' :: rest =>
      if maxNesting ≤ depth then .error (.tooDeep false)
      else
        match skipSpace rest with
        | '\x7d' :: rest => .ok (.dict [], rest)
        | rest => (readEntries numbers (depth + 1) fuel rest []).map fun (seen, rest) ↦ (.dict seen, rest)
    | s => orMalformed (readAtom numbers s)

/-- The items of a list up to its closing bracket. -/
def readItems (numbers : Numbers) (depth fuel : Nat) (s : List Char) (seen : List Datum) :
    Except ReadFault (List Datum × List Char) :=
  match fuel with
  | 0 => .error .malformed
  | fuel + 1 => do
    let (item, rest) ← readValue numbers depth fuel s
    match skipSpace rest with
    | ',' :: rest => readItems numbers depth fuel rest (item :: seen)
    | ']' :: rest => .ok ((item :: seen).reverse, rest)
    | _ => .error .malformed

/-- The entries of a dictionary up to its closing brace. -/
def readEntries (numbers : Numbers) (depth fuel : Nat) (s : List Char) (seen : List (String × Datum)) :
    Except ReadFault (List (String × Datum) × List Char) :=
  match fuel with
  | 0 => .error .malformed
  | fuel + 1 => do
    match skipSpace s with
    | '\x22' :: rest =>
      let (key, rest) ← orMalformed (readString rest [])
      match skipSpace rest with
      | ':' :: rest =>
        let (value, rest) ← readValue numbers depth fuel rest
        match skipSpace rest with
        | ',' :: rest => readEntries numbers depth fuel rest (put seen key value)
        | '\x7d' :: rest => .ok (put seen key value, rest)
        | _ => .error .malformed
      | _ => .error .malformed
    | _ => .error .malformed

end

/-- The value that characters spell, with blanks around it. -/
def ofChars (numbers : Numbers) (s : List Char) : Except ReadFault Datum := do
  let (value, rest) ← readValue numbers 0 (2 * s.length + 2) s
  if (skipSpace rest).isEmpty then .ok value else .error .malformed

/-- The value that a text spells. -/
def ofJson (numbers : Numbers) (s : String) : Except ReadFault Datum :=
  ofChars numbers s.toList

end BundleLedger.Datum
