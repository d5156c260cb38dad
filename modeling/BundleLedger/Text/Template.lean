import BundleLedger.Datum.Display
import BundleLedger.Double.Digits
import BundleLedger.Failure

/-!
# Messages with places for arguments

A place is a percent sign, flags, a width, a precision and a letter: `s`, `r` and `a` show any
value, `d`, `i` and `u` a whole number, `x`, `X` and `o` a whole number in another base, `f`, `e`
and `g` a number with a chosen count of digits, `c` one character. A star in the place of the width
or the precision takes it from the arguments. Two percent signs stand for one. Every argument must
be used.
-/

set_option autoImplicit false

namespace BundleLedger.Text

/-- A place for an argument, without its letter. -/
structure Place where
  left : Bool := false
  plus : Bool := false
  blank : Bool := false
  zero : Bool := false
  alternate : Bool := false
  width : Nat := 0
  precision : Option Nat := none
deriving DecidableEq, Repr

namespace Place

/-- The flags at the front of a place. -/
def readFlags (p : Place) : List Char → Place × List Char
  | '-' :: rest => readFlags { p with left := true } rest
  | '+' :: rest => readFlags { p with plus := true } rest
  | ' ' :: rest => readFlags { p with blank := true } rest
  | '0' :: rest => readFlags { p with zero := true } rest
  | '#' :: rest => readFlags { p with alternate := true } rest
  | rest => (p, rest)

/-- What follows a letter that only tells the width of a number in a register. -/
def skipSize : List Char → List Char
  | 'h' :: rest | 'l' :: rest | 'L' :: rest => rest
  | rest => rest

/-- The widths and precisions that memory can hold are below this one. -/
def memoryBound : Nat := 0x10000000000

/-- The bound of widths. -/
def widthBound : Nat := 0x8000000000000000

/-- The bound of precisions. -/
def precisionBound : Nat := 0x80000000

/-- The failure of a place that asks for more characters than there is memory for. -/
def exhausted : Cause :=
  .fault (.named "MemoryError") ""

/-- The failure of a place that is left without an argument. -/
def missingArgument : Cause :=
  .fault .type "not enough arguments for format string"

/-- A number that a star takes from the arguments, and the arguments after it. -/
def takeNumber : List Datum → Except Cause (Int × List Datum)
  | [] => .error missingArgument
  | .int n :: others => .ok (n, others)
  | .bool b :: others => .ok (if b then 1 else 0, others)
  | _ => .error (.fault .type "* wants int")

/-- The width at the front of a text, with what follows and the arguments that are left. A width below
zero puts the value to the left. -/
def readWidth (p : Place) (s : List Char) (arguments : List Datum) :
    Except Cause (Place × List Char × List Datum) :=
  match s with
  | '*' :: rest => do
    let (n, others) ← takeNumber arguments
    if n < -Int.ofNat widthBound ∨ widthBound ≤ n then
      .error (.fault .overflow "integer too large for a width")
    else
      let width := if n.natAbs = widthBound then 0 else n.natAbs
      return ({ p with left := p.left || n < 0, width }, rest, others)
  | _ =>
    let (digits, rest) := s.span isAsciiDigit
    let width := (natural? digits).getD 0
    if widthBound ≤ width then .error (.fault .value "width too big")
    else .ok ({ p with width }, rest, arguments)

/-- The precision after a point, if there is one, in the same way. One below zero is zero. -/
def readPrecision (p : Place) (s : List Char) (arguments : List Datum) :
    Except Cause (Place × List Char × List Datum) :=
  match s with
  | '.' :: '*' :: rest => do
    let (n, others) ← takeNumber arguments
    if n < -Int.ofNat precisionBound ∨ precisionBound ≤ n then
      .error (.fault .overflow "integer too large for a precision")
    else return ({ p with precision := some n.toNat }, rest, others)
  | '.' :: rest =>
    let (digits, rest) := rest.span isAsciiDigit
    let precision := (natural? digits).getD 0
    if precisionBound ≤ precision then .error (.fault .value "precision too big")
    else .ok ({ p with precision := some precision }, rest, arguments)
  | _ => .ok (p, s, arguments)

/-- A place after its percent sign: flags, width and precision; what follows, and the arguments that are
left. -/
def read (s : List Char) (arguments : List Datum) : Except Cause (Place × List Char × List Datum) := do
  let (p, rest) := readFlags {} s
  let (p, rest, arguments) ← p.readWidth rest arguments
  let (p, rest, arguments) ← p.readPrecision rest arguments
  return (p, skipSize rest, arguments)

/-- The place without a width that no memory can hold. -/
def withinMemory (p : Place) : Place :=
  if memoryBound ≤ p.width then { p with width := 0 } else p

/-- Text brought to the width of a place with blanks. -/
def fill (p : Place) (s : List Char) : List Char :=
  let blanks := List.replicate (p.width - s.length) ' '
  if p.left then s ++ blanks else blanks ++ s

/-- Any text in a place: cut to the precision, then brought to the width. -/
def layoutText (p : Place) (s : String) : List Char :=
  p.fill (match p.precision with
    | some n => s.toList.take n
    | none => s.toList)

/-- Digits in a place: a sign, a mark of the base, and zeros or blanks up to the width. -/
def layoutSigned (p : Place) (negative : Bool) (base digits : List Char) : List Char :=
  let front :=
    (if negative then ['-'] else if p.plus then ['+'] else if p.blank then [' '] else []) ++ base
  if p.zero ∧ ¬ p.left then front ++ padDigits (p.width - front.length) digits
  else p.fill (front ++ digits)

/-- A whole number in a place, with at least as many digits as the precision says. -/
def layoutWhole (p : Place) (base : Nat) (mark : List Char) (n : Int) : Except Cause (List Char) :=
  if precisionBound ≤ p.precision.getD 1 + 3 then .error (.fault .overflow "precision too large")
  else
    .ok (p.layoutSigned (n < 0) (if p.alternate then mark else [])
      (padDigits (p.precision.getD 1) (Nat.toDigits base n.natAbs)))

/-- A number in a place, with as many digits as the precision says, six if it says nothing. -/
def layoutReal (p : Place) (form : Double.DigitForm) (x : Double) : List Char :=
  p.layoutSigned x.isNegative [] (form.digits (p.precision.getD 6) p.alternate x)

end Place

/-- A whole number in decimal digits, if it does not have too many of them. -/
def writable (n : Int) : Except Cause Int :=
  if n.natAbs < Nat.pow 10 4300 then .ok n
  else .error (.fault .value ("Exceeds the limit (4300 digits) for integer string conversion; use " ++
    "sys.set_int_max_str_digits() to increase the limit"))

/-- The whole number that a value shows in a place for numbers. -/
def wholeNumber (letter : Char) (d : Datum) : Except Cause Int :=
  match d with
  | .int n => .ok n
  | .bool b => .ok (if b then 1 else 0)
  | .uuid id => .ok id.toNat
  | .real .notANumber => .error (.fault .value "cannot convert float NaN to integer")
  | .real (.infinite _) => .error (.fault .overflow "cannot convert float infinity to integer")
  | .real x => .ok (x.truncate?.getD 0)
  | .decimal (.notANumber ..) => .error (.fault .value "cannot convert NaN to integer")
  | .decimal (.infinite _) => .error (.fault .overflow "cannot convert Infinity to integer")
  | .decimal x => writable (x.truncate?.getD 0)
  | _ => .error (.fault .type ("%" ++ String.ofList [letter] ++
      " format: a real number is required, not " ++ d.kindName))

/-- The whole number that a value is, for a place that takes nothing else. -/
def exactWholeNumber (letter : Char) (d : Datum) : Except Cause Int :=
  match d with
  | .int n => .ok n
  | .bool b => .ok (if b then 1 else 0)
  | _ => .error (.fault .type ("%" ++ String.ofList [letter] ++
      " format: an integer is required, not " ++ d.kindName))

/-- The number that a value shows in a place for numbers with a fraction. -/
def realNumber (d : Datum) : Except Cause Double :=
  match d with
  | .real x => .ok x
  | .bool b => .ok (Double.ofInt (if b then 1 else 0))
  | .int n =>
    match Double.ofInt n with
    | .infinite _ => .error (.fault .overflow "int too large to convert to float")
    | x => .ok x
  | .decimal (.finite negative coefficient exponent) =>
    .ok (Double.ofNumeral negative coefficient exponent)
  | .decimal (.infinite negative) => .ok (.infinite negative)
  | .decimal (.notANumber _ false _) => .ok .notANumber
  | .decimal (.notANumber _ true _) =>
    .error (.fault .value "cannot convert signaling NaN to float")
  | _ => .error (.fault .type ("must be real number, not " ++ d.kindName))

/-- The character with a number. Half of a surrogate pair is no character that a text can hold, and its number is
refused. -/
def characterOf (n : Int) : Except Cause Char :=
  if n < 0 ∨ 0x110000 ≤ n then .error (.fault .overflow "%c arg not in range(0x110000)")
  else if 0xd800 ≤ n ∧ n ≤ 0xdfff then .error (.fault .value "surrogates not allowed")
  else .ok (Char.ofNat n.toNat)

/-- The character that a value stands for: by itself, or by its number. -/
def character (d : Datum) : Except Cause Char :=
  match d with
  | .int n => characterOf n
  | .bool b => characterOf (if b then 1 else 0)
  | .text s =>
    match s.toList with
    | [c] => .ok c
    | _ => .error (.fault .type "%c requires int or char")
  | _ => .error (.fault .type "%c requires int or char")

/-- The letter of a place in capitals: what it writes is in capitals too. -/
def inCapitals (digits : List Char) : List Char :=
  digits.map Char.toUpper

/-- A value in a place with a letter; none for a letter that no place ends with. -/
def place? (p : Place) (letter : Char) (d : Datum) : Option (Except Cause (List Char)) :=
  match letter with
  | 's' => some (.ok (p.layoutText d.plain))
  | 'r' => some (.ok (p.layoutText d.display))
  | 'a' => some (.ok (p.layoutText (inAscii d.display)))
  | 'd' | 'i' | 'u' => some ((wholeNumber letter d).bind (p.layoutWhole 10 []))
  | 'x' => some ((exactWholeNumber letter d).bind (p.layoutWhole 16 ['0', 'x']))
  | 'X' => some (((exactWholeNumber letter d).bind (p.layoutWhole 16 ['0', 'x'])).map inCapitals)
  | 'o' => some ((exactWholeNumber letter d).bind (p.layoutWhole 8 ['0', 'o']))
  | 'f' => some ((realNumber d).map (p.layoutReal .positional))
  | 'F' => some ((realNumber d).map (inCapitals ∘ p.layoutReal .positional))
  | 'e' => some ((realNumber d).map (p.layoutReal .scientific))
  | 'E' => some ((realNumber d).map (inCapitals ∘ p.layoutReal .scientific))
  | 'g' => some ((realNumber d).map (p.layoutReal .general))
  | 'G' => some ((realNumber d).map (inCapitals ∘ p.layoutReal .general))
  | 'c' => some ((character d).map fun c ↦ p.fill [c])
  | _ => none

/-- The failure of a letter that no place ends with, found at a position of the template. A letter
outside the printable ASCII characters is shown by a question mark. -/
def unknownLetter (letter : Char) (position : Nat) : Cause :=
  let shown := if 31 ≤ letter.toNat ∧ letter.toNat ≤ 126 then letter else '?'
  .fault .value ("unsupported format character '" ++ String.ofList [shown] ++ "' (0x" ++
    String.ofList (Nat.toDigits 16 letter.toNat) ++ ") at index " ++ natural position)

/-- The template with its places filled from the arguments in turn. `whole` is the length of the
template, by which a bad letter is located. -/
def fillFrom (fuel whole : Nat) (template : List Char) (arguments : List Datum) :
    Except Cause (List Char) :=
  match fuel, template with
  | _, [] =>
    if arguments.isEmpty then .ok []
    else .error (.fault .type "not all arguments converted during string formatting")
  | 0, _ => .error (.fault .value "incomplete format")
  | fuel + 1, '%' :: '%' :: rest => (fillFrom fuel whole rest arguments).map ('%' :: ·)
  | fuel + 1, '%' :: rest =>
    if rest.head? = some '(' then .error (.fault .type "format requires a mapping")
    else do
      let (p, rest, arguments) ← Place.read rest arguments
      match rest, arguments with
      | [], _ => .error (.fault .value "incomplete format")
      | _ :: _, [] => .error Place.missingArgument
      | letter :: rest, d :: others =>
        match place? (p.withinMemory) letter d with
        | some shown =>
          let shown ← shown
          if Place.memoryBound ≤ p.width then throw Place.exhausted
          let tail ← fillFrom fuel whole rest others
          return shown ++ tail
        | none => .error (unknownLetter letter (whole - rest.length - 1))
  | fuel + 1, c :: rest => (fillFrom fuel whole rest arguments).map (c :: ·)

/-- A template filled with arguments; without arguments it stays as it is. -/
def fillTemplate (template : String) (arguments : List Datum) : Except Cause String :=
  if arguments.isEmpty then .ok template
  else
    (fillFrom template.toList.length template.toList.length template.toList arguments).map
      String.ofList

end BundleLedger.Text
